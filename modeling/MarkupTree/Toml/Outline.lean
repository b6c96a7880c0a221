import MarkupTree.Toml.Document

/-!
# Toml.Outline: a settings text as lines under headers

A settings text is a list of lines and of sections, each a header with lines of its own. A section
whose path continues the path of the section before it lies inside that section.

- `Outline` is such a text.
- `Outline.entries?` makes its tables, unless something is defined twice.
-/

namespace MarkupTree
namespace Toml

variable {C : Type}

/-- A line that gives a value to a dotted key. -/
structure Line (C : Type) where
  path : List String
  value : Value C

/-- A header and the lines under it. Several tables may share a header. -/
structure Section (C : Type) where
  shared : Bool
  path : List String
  lines : List (Line C)

/-- The lines in front of all headers, and the sections. -/
structure Outline (C : Type) where
  lines : List (Line C)
  sections : List (Section C)

def continues (path longer : List String) : Bool :=
  path.isPrefixOf longer && path != longer

/-- A part behind further names. -/
def behind : List String → Node C → Node C
  | [], node => node
  | name :: path, node => .table true [⟨name, false, behind path node⟩]

/-- The entries of the lines of a section. -/
def Section.entries? (levels : Nat) (s : Section C) : Option (Node.Entries C) :=
  s.lines.foldlM (fun es line => do
    let e ← Node.entryOf? line.value line.path
    (Node.put? levels true e es).bind (Node.visible? e.name)) []

namespace Outline

mutual

/-- The entry that a section adds to a table whose path has so many names, and the sections that
do not lie inside it. -/
def entry? : (fuel levels depth : Nat) → Section C → List (Section C) →
    Option (Entry (Node C) × List (Section C))
  | 0, _, _, _, _ => none
  | fuel + 1, levels, depth, s, rest => do
    let (es, rest) ← table? fuel levels s rest
    match s.path.drop depth, s.shared with
    | [], _ => none
    | [name], false => return (⟨name, false, .table false es⟩, rest)
    | [name], true =>
      let (tables, rest) ← rows? fuel levels s.path [es] rest
      return (⟨name, false, .rows tables⟩, rest)
    | name :: path, false => return (⟨name, false, behind path (.table false es)⟩, rest)
    | name :: path, true => return (⟨name, false, behind path (.rows [es])⟩, rest)

/-- The table of a section, with all that lies inside it. -/
def table? : (fuel levels : Nat) → Section C → List (Section C) →
    Option (Node.Entries C × List (Section C))
  | 0, _, _, _ => none
  | fuel + 1, levels, s, rest => do
    let (es, rest) ← extend? fuel levels s.path (← s.entries? levels) rest
    if Node.allConsistent levels es then return (es, rest) else none

/-- Entries and those of all sections that lie inside their table. -/
def extend? : (fuel levels : Nat) → (path : List String) → Node.Entries C → List (Section C) →
    Option (Node.Entries C × List (Section C))
  | 0, _, _, _, _ => none
  | _ + 1, _, _, es, [] => some (es, [])
  | fuel + 1, levels, path, es, s :: rest =>
    if continues path s.path then do
      let (e, rest) ← entry? fuel levels path.length s rest
      extend? fuel levels path (← Node.append? levels e es) rest
    else some (es, s :: rest)

/-- Tables and those that follow them under the same header. -/
def rows? : (fuel levels : Nat) → (path : List String) → List (Node.Entries C) →
    List (Section C) → Option (List (Node.Entries C) × List (Section C))
  | 0, _, _, _, _ => none
  | _ + 1, _, _, tables, [] => some (tables, [])
  | fuel + 1, levels, path, tables, s :: rest =>
    if s.shared ∧ s.path = path then do
      let (es, rest) ← table? fuel levels s rest
      rows? fuel levels path (tables ++ [es]) rest
    else some (tables, s :: rest)

end

def extendAll? (levels : Nat) :
    (fuel : Nat) → Node.Entries C → List (Section C) → Option (Node.Entries C)
  | 0, _, _ => none
  | _ + 1, es, [] => some es
  | fuel + 1, es, s :: rest => do
    let (e, rest) ← entry? (4 * (rest.length + 1)) levels 0 s rest
    extendAll? levels fuel (← Node.put? levels true e es) rest

/-- The entries of a whole text, in which tables are nested so many levels at most. -/
def entries? (levels : Nat) (o : Outline C) : Option (Node.Entries C) := do
  let es ← o.lines.foldlM (fun es line => Node.insert? levels line.path line.value es) []
  extendAll? levels (o.sections.length + 1) es o.sections

end Outline
end Toml
end MarkupTree
