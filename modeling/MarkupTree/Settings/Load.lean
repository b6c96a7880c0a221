import MarkupTree.Settings
import MarkupTree.Toml.Reader
import MarkupTree.Value.Key

/-!
# Settings.Load: settings from the text of a project

The settings stand in a table of the text. Without a text, without the table, or with something
empty in its place, the standard settings hold.

- `Settings.load` reads the settings from a text.
-/

namespace MarkupTree

/-- Why settings could not be loaded. -/
inductive LoadFault
  /-- the text cannot be read -/
  | unreadable
  /-- a table was expected -/
  | notATable
  /-- settings do not fit -/
  | invalid (issues : List SettingIssue)
  deriving Repr

namespace Settings

/-- No code stands behind the values of a text. -/
abbrev Plain := Value Empty

/-- The settings that a value in place of their table gives. A bare `true` cannot be taken for a
table at all. -/
def ofPlace (v : Plain) : Except LoadFault Settings :=
  if !v.isTruthy then .ok standard
  else
    match v with
    | .bool _ => .error .notATable
    | v => (ofValue v).mapError .invalid

def ofPart (levels : Nat) (part : Toml.Node Empty) : Except LoadFault Settings :=
  match part with
  | .table _ [] => .ok standard
  | part =>
    match part.value? levels with
    | some v => ofPlace v
    | none => .error .unreadable

def ofEntries (levels : Nat) (es : Toml.Node.Entries Empty) : Except LoadFault Settings :=
  match Toml.Node.find Vocabulary.settingsTable es with
  | .nothing => .ok standard
  | .broken => .error .unreadable
  | .part part => ofPart levels part

def ofDocument (document : Toml.Document Empty) : Except LoadFault Settings :=
  match Toml.Node.find "tool" document.entries with
  | .nothing => .ok standard
  | .broken => .error .unreadable
  | .part (.table _ es) => ofEntries document.levels es
  | .part (.leaf (.mapping es)) =>
    match Entries.get? es (.str Vocabulary.settingsTable) with
    | none => .ok standard
    | some v => ofPlace v
  | .part _ => .error .notATable

/-- Loads settings from a text, if there is one. -/
def load (text : Option String) : Except LoadFault Settings :=
  match text with
  | none => .ok standard
  | some text =>
    match Toml.document? text with
    | none => .error .unreadable
    | some document => ofDocument document

end Settings
end MarkupTree
