import Mathlib.Data.List.Basic
import MarkupTree.Proofs.Positions
import MarkupTree.Proofs.Sources
import MarkupTree.Settings.Load

/-!
# Loading — the settings of a project

The settings are read from one table inside the table of the tools. What stands in its place
decides: nothing and the empty table give the standard settings, a table is read setting by setting,
and anything else is refused — unless it counts as absent, as a zero does, or is a bare `true`.

* `Toml.parse?` is a text as nested mappings, `Toml.Node.get?_of_value?` looks a name up in them.
* `Settings.issues` lists what does not fit, `Settings.Fits` says which settings are taken.
* `Settings.load_eq` leads loading back to what stands in the place of the settings.
* `Settings.load_decides` says what is loaded.
-/

namespace MarkupTree

variable {C : Type}

/-! ## Collecting entries -/

/-- What is collected stays so if more can be found. -/
theorem mapM_mono {α β : Type} {f g : α → Option β} (h : ∀ a b, f a = some b → g a = some b)
    {as : List α} {bs : List β} (hf : as.mapM f = some bs) : as.mapM g = some bs := by
  have hsame : as.map g = as.map f := by
    refine List.map_congr_left fun a ha => ?_
    obtain ⟨b, -, hb⟩ := mem_of_mapM hf a ha
    rw [hb]
    exact h a b hb
  rw [mapM_eq_some_iff] at hf ⊢
  rw [hsame, hf]

/-- In entries that are collected name by name, each name leads to what was found for it. -/
theorem Entries.get?_of_mapM {found : String → Option (Value C × Value C)}
    (hkey : ∀ name e, found name = some e → e.1 = .str name) {names : List String}
    {es : Entries C} (h : names.mapM found = some es) (name : String) :
    es.get? (.str name) = if name ∈ names then (found name).map Prod.snd else none := by
  rw [mapM_eq_some_iff] at h
  rw [get?_str]
  induction names generalizing es with
  | nil =>
      cases es with
      | nil => rfl
      | cons e rest => cases h
  | cons first others ih =>
      cases es with
      | nil => cases h
      | cons e rest =>
          rw [List.map_cons, List.map_cons, List.cons.injEq] at h
          have hfirst : e.1.string? = some first := by rw [hkey first e h.1, Value.string?]
          rw [List.find?_cons]
          -- a name that came before is found where it came, with what was found for it there
          by_cases hname : first = name
          · subst hname
            simp [hfirst, h.1]
          · have hother : name ≠ first := fun heq => hname heq.symm
            simpa [hfirst, hname, hother] using ih h.2

namespace Toml
namespace Node

/-- The entry of a table under a name. -/
def member? (levels : Nat) (es : Entries C) (name : String) : Option (Value C × Value C) :=
  match find name es with
  | .part node => (value? levels node).map (Value.str name, ·)
  | _ => none

theorem value?_table (levels : Nat) (implied : Bool) (es : Entries C) :
    value? (levels + 1) (.table implied es) =
      ((names es).mapM (member? levels es)).map .mapping := rfl

theorem value?_rows (levels : Nat) (tables : List (Entries C)) :
    value? (levels + 1) (.rows tables) =
      (tables.mapM fun es => value? levels (.table false es)).map .list := rfl

/-- What has a value keeps it with one more level. -/
theorem value?_succ {n : Nat} {node : Node C} {v : Value C} (h : value? n node = some v) :
    value? (n + 1) node = some v := by
  -- on the levels, for all parts at once: what stands inside a table has one level less
  induction n generalizing node v with
  | zero => cases h
  | succ n ih =>
      cases node with
      | leaf w => exact h
      | table implied es =>
          rw [value?_table] at h ⊢
          obtain ⟨entries, hentries, rfl⟩ := Option.map_eq_some_iff.1 h
          refine Option.map_eq_some_iff.2 ⟨entries, mapM_mono ?_ hentries, rfl⟩
          intro name e he
          unfold member? at he ⊢
          cases hfind : find name es with
          | nothing => rw [hfind] at he; cases he
          | broken => rw [hfind] at he; cases he
          | part node =>
              rw [hfind] at he
              obtain ⟨w, hw, rfl⟩ := Option.map_eq_some_iff.1 he
              exact Option.map_eq_some_iff.2 ⟨w, ih hw, rfl⟩
      | rows tables =>
          rw [value?_rows] at h ⊢
          obtain ⟨values, hvalues, rfl⟩ := Option.map_eq_some_iff.1 h
          exact Option.map_eq_some_iff.2 ⟨values, mapM_mono (fun _ _ => ih) hvalues, rfl⟩

theorem mem_names_iff {name : String} {es : Entries C} :
    name ∈ names es ↔ named name es ≠ [] := by
  unfold names named
  rw [List.mem_eraseDups, ne_eq, List.filter_eq_nil_iff]
  simp [eq_comm]

theorem find_eq_nothing_iff {name : String} {es : Entries C} :
    find name es = .nothing ↔ named name es = [] := by
  unfold find
  cases named name es with
  | nil => simp
  | cons e rest =>
      cases rest with
      | nil => simp
      | cons e' rest =>
          dsimp only
          split <;> simp

/-- Looking a name up in a table and in its value finds the same. -/
theorem get?_of_value? {levels : Nat} {implied : Bool} {es : Entries C}
    {entries : MarkupTree.Entries C}
    (h : value? (levels + 1) (.table implied es) = some (.mapping entries)) (name : String) :
    match find name es with
    | .nothing => entries.get? (.str name) = none
    | .broken => False
    | .part node => ∃ v, value? levels node = some v ∧ entries.get? (.str name) = some v := by
  rw [value?_table] at h
  obtain ⟨entries', hentries, hsame⟩ := Option.map_eq_some_iff.1 h
  cases hsame
  have hkey : ∀ name e, member? levels es name = some e → e.1 = .str name := by
    intro name e he
    unfold member? at he
    split at he
    · obtain ⟨v, -, rfl⟩ := Option.map_eq_some_iff.1 he
      rfl
    · cases he
  have hget := MarkupTree.Entries.get?_of_mapM hkey hentries name
  have hfilled : find name es ≠ .nothing → name ∈ names es := by
    intro hfind
    exact mem_names_iff.2 fun hnamed => hfind (find_eq_nothing_iff.2 hnamed)
  -- a name of the table was found when the entries were collected
  cases hfind : find name es with
  | nothing =>
      have hnew : name ∉ names es :=
        fun hmem => mem_names_iff.1 hmem (find_eq_nothing_iff.1 hfind)
      rwa [if_neg hnew] at hget
  | broken =>
      obtain ⟨e, -, he⟩ := mem_of_mapM hentries name (hfilled (by simp [hfind]))
      simp [member?, hfind] at he
  | part node =>
      have hmem := hfilled (by simp [hfind])
      obtain ⟨e, -, he⟩ := mem_of_mapM hentries name hmem
      rw [if_pos hmem, he] at hget
      simp only [member?, hfind] at he
      obtain ⟨v, hv, rfl⟩ := Option.map_eq_some_iff.1 he
      exact ⟨v, hv, hget⟩

end Node

/-- A whole text as nested mappings. -/
def parse? (text : String) : Option (Entries Empty) :=
  (document? text).bind fun document =>
    (Node.value? (document.levels + 1) (.table false document.entries)).bind Value.entries?

theorem parse?_eq_some {text : String} {es : Entries Empty} (h : parse? text = some es) :
    ∃ document, document? text = some document ∧
      Node.value? (document.levels + 1) (.table false document.entries) = some (.mapping es) := by
  obtain ⟨document, hdocument, hvalue⟩ := Option.bind_eq_some_iff.1 h
  obtain ⟨v, hv, hentries⟩ := Option.bind_eq_some_iff.1 hvalue
  obtain ⟨entries, -, rfl⟩ := Option.map_eq_some_iff.1 hv
  cases hentries
  exact ⟨document, hdocument, hv⟩

end Toml

namespace Settings

open Toml (Node)

/-! ## What stands in the place of the settings -/

/-- The table of the tools, empty if there is none. -/
def tools? (es : Entries Empty) : Option (Entries Empty) :=
  match es.get? (.str "tool") with
  | none => some []
  | some (.mapping tools) => some tools
  | some _ => none

theorem tools?_eq_some {es tools : Entries Empty} (h : tools? es = some tools) :
    es.get? (.str "tool") = none ∧ tools = [] ∨ es.get? (.str "tool") = some (.mapping tools) := by
  unfold tools? at h
  split at h
  · next hnone =>
      cases h
      exact Or.inl ⟨hnone, rfl⟩
  · next hsome =>
      cases h
      exact Or.inr hsome
  · cases h

/-- What stands in the place of the settings, if anything does. -/
def place? (tools : Entries Empty) : Option Plain :=
  tools.get? (.str Vocabulary.settingsTable)

theorem ofPart_eq {levels : Nat} {node : Node Empty} {v : Plain}
    (h : Node.value? levels node = some v) : ofPart (levels + 1) node = ofPlace v := by
  have hmore := Node.value?_succ h
  unfold ofPart
  split
  · -- an empty table counts as absent, and so does its value
    cases levels with
    | zero => cases h
    | succ levels =>
        cases h
        rfl
  · rw [hmore]

theorem ofEntries_eq {levels : Nat} {implied : Bool} {es : Node.Entries Empty}
    {tools : Entries Empty}
    (h : Node.value? (levels + 1) (.table implied es) = some (.mapping tools)) :
    ofEntries (levels + 1) es = (place? tools).elim (.ok standard) ofPlace := by
  have hget := Node.get?_of_value? h Vocabulary.settingsTable
  unfold ofEntries place?
  cases hfind : Node.find Vocabulary.settingsTable es with
  | nothing =>
      rw [hfind] at hget
      rw [hget]
      rfl
  | broken =>
      rw [hfind] at hget
      exact hget.elim
  | part node =>
      rw [hfind] at hget
      obtain ⟨v, hv, hplace⟩ := hget
      rw [hplace]
      exact ofPart_eq hv

theorem ofDocument_eq {document : Toml.Document Empty} {es tools : Entries Empty}
    (h : Node.value? (document.levels + 1) (.table false document.entries) = some (.mapping es))
    (htools : tools? es = some tools) :
    ofDocument document = (place? tools).elim (.ok standard) ofPlace := by
  have hget := Node.get?_of_value? h "tool"
  unfold ofDocument
  cases hfind : Node.find "tool" document.entries with
  | nothing =>
      rw [hfind] at hget
      rcases tools?_eq_some htools with ⟨-, rfl⟩ | hsome
      · rfl
      · rw [hget] at hsome
        cases hsome
  | broken =>
      rw [hfind] at hget
      exact hget.elim
  | part node =>
      rw [hfind] at hget
      obtain ⟨v, hv, hget⟩ := hget
      have hmapping : v = .mapping tools := by
        rcases tools?_eq_some htools with ⟨hnone, -⟩ | hsome
        · rw [hget] at hnone
          cases hnone
        · exact Option.some.inj (hget.symm.trans hsome)
      rw [hmapping] at hv
      -- the tools stand in a table of their own or in a table among values
      generalize document.levels = levels at hv ⊢
      cases levels with
      | zero => cases hv
      | succ levels =>
          cases node with
          | leaf w =>
              cases hv
              show (match place? tools with | none => Except.ok standard | some v => ofPlace v) = _
              cases place? tools <;> rfl
          | table implied inner => exact ofEntries_eq hv
          | rows tables =>
              obtain ⟨values, -, hlist⟩ := Option.map_eq_some_iff.1 hv
              cases hlist

/-- Loading looks at nothing but the place of the settings. -/
theorem load_eq {text : String} {es tools : Entries Empty} (hparse : Toml.parse? text = some es)
    (htools : tools? es = some tools) :
    load (some text) = (place? tools).elim (.ok standard) ofPlace := by
  obtain ⟨document, hdocument, hvalue⟩ := Toml.parse?_eq_some hparse
  calc
    load (some text) = ofDocument document := by simp only [load, hdocument]
    _ = (place? tools).elim (.ok standard) ofPlace := ofDocument_eq hvalue htools

/-! ## Setting by setting -/

def faultOf {α : Type} : Except SettingFault α → Option SettingFault
  | .ok _ => none
  | .error fault => some fault

/-- The known settings in their order, each with what may be wrong with a value for it. -/
def known : List (String × (Plain → Option SettingFault)) :=
  [("max_depth", fun v => faultOf (toPositive v)), ("cache_size", fun v => faultOf (toPositive v)),
    ("id_prefix", fun v => faultOf (toStem v))]

/-- What is wrong with the value that is given for a setting. -/
def issue? (fields : Entries Empty) (setting : String × (Plain → Option SettingFault)) :
    Option SettingIssue :=
  (fields.get? (.str setting.1)).bind fun v =>
    (setting.2 v).map fun fault => ⟨some setting.1, fault⟩

/-- All that does not fit, in the order of the settings. -/
def issues (fields : Entries Empty) : List SettingIssue :=
  known.filterMap (issue? fields)

/-- A setting is what the value for it is read as, and the standard one if none is given. -/
def Given {α : Type} (fields : Entries Empty) (name : String)
    (read : Plain → Except SettingFault α) (standard a : α) : Prop :=
  match fields.get? (.str name) with
  | none => a = standard
  | some v => read v = .ok a

/-- Settings that are taken from given values and are standard for the rest. -/
structure Fits (fields : Entries Empty) (settings : Settings) : Prop where
  maxDepth : Given fields "max_depth" toPositive ⟨Vocabulary.maxDepth, by decide⟩
    ⟨settings.maxDepth, settings.one_le_maxDepth⟩
  cacheSize : Given fields "cache_size" toPositive ⟨Vocabulary.cacheSize, by decide⟩
    ⟨settings.cacheSize, settings.one_le_cacheSize⟩
  idStem : Given fields "id_prefix" toStem ⟨Vocabulary.idStem, by decide⟩
    ⟨settings.idStem, settings.idStem_ne_empty⟩

/-- The values of a mapping under names alone. -/
def byName (fields : Entries Empty) : Table Plain :=
  fields.filterMap fun e => e.1.string?.map fun name => (name, e.2)

theorem get?_byName (name : String) (fields : Entries Empty) :
    (byName fields).get? name = fields.get? (.str name) := by
  rw [Entries.get?_str]
  unfold byName
  induction fields with
  | nil => rfl
  | cons e rest ih =>
      cases hkey : e.1.string? with
      | none => simpa [hkey] using ih
      | some first =>
          by_cases hfirst : first = name
          · simp [hkey, Table.get?, hfirst]
          · simpa [hkey, Table.get?, hfirst] using ih

section Field

variable {α : Type} (fields : Entries Empty) (name : String)
  (read : Plain → Except SettingFault α) (standard : α)

theorem issueOf_field :
    issueOf (field (byName fields) name read standard) =
      (issue? fields (name, fun v => faultOf (read v))).toList := by
  unfold field issue?
  rw [get?_byName]
  cases fields.get? (.str name) with
  | none => rfl
  | some v =>
      dsimp only [Option.bind_some]
      cases read v <;> rfl

theorem given_of_field {a : α} (h : field (byName fields) name read standard = .ok a) :
    Given fields name read standard a := by
  unfold field at h
  unfold Given
  rw [get?_byName] at h
  cases hget : fields.get? (.str name) with
  | none =>
      rw [hget] at h
      cases h
      rfl
  | some v =>
      rw [hget] at h
      dsimp only at h ⊢
      -- a value that cannot be read would have been an issue
      cases hread : read v with
      | error fault =>
          rw [hread] at h
          cases h
      | ok b =>
          rw [hread] at h
          cases h
          rfl

end Field

theorem issueOf_eq_nil {α : Type} {answer : Except SettingIssue α} (h : issueOf answer = []) :
    ∃ a, answer = .ok a := by
  cases answer with
  | error issue => cases h
  | ok a => exact ⟨a, rfl⟩

theorem issues_eq (fields : Entries Empty) :
    issues fields =
      issueOf (field (byName fields) "max_depth" toPositive ⟨Vocabulary.maxDepth, by decide⟩) ++
        issueOf (field (byName fields) "cache_size" toPositive
          ⟨Vocabulary.cacheSize, by decide⟩) ++
        issueOf (field (byName fields) "id_prefix" toStem ⟨Vocabulary.idStem, by decide⟩) := by
  rw [issueOf_field, issueOf_field, issueOf_field]
  unfold issues known
  rw [List.filterMap_eq_flatMap_toList]
  simp only [List.flatMap_cons, List.flatMap_nil, List.append_nil, List.append_assoc]

/-- Named values are read as settings, or all is told that does not fit. -/
theorem ofFields_byName (fields : Entries Empty) :
    (issues fields = [] → ∃ settings, ofFields (byName fields) = .ok settings ∧
      Fits fields settings) ∧
      (issues fields ≠ [] → ofFields (byName fields) = .error (issues fields)) := by
  rw [issues_eq]
  constructor
  · intro hnone
    rw [List.append_eq_nil_iff, List.append_eq_nil_iff] at hnone
    obtain ⟨depth, hdepth⟩ := issueOf_eq_nil hnone.1.1
    obtain ⟨size, hsize⟩ := issueOf_eq_nil hnone.1.2
    obtain ⟨stem, hstem⟩ := issueOf_eq_nil hnone.2
    refine ⟨⟨depth.1, size.1, stem.1, depth.2, size.2, stem.2⟩, ?_, ?_, ?_, ?_⟩
    · simp only [ofFields, hdepth, hsize, hstem]
    · exact given_of_field _ _ _ _ hdepth
    · exact given_of_field _ _ _ _ hsize
    · exact given_of_field _ _ _ _ hstem
  · intro hsome
    unfold ofFields
    dsimp only
    split
    · -- three settings that were read leave no issue
      next hdepth hsize hstem =>
        rw [hdepth, hsize, hstem] at hsome
        exact absurd rfl hsome
    · rfl

/-! ## What is loaded -/

/-- A table in the place of the settings is read by its names, also if it is empty. -/
theorem ofPlace_eq {v : Plain} {fields : Entries Empty} (h : v.entries? = some fields) :
    ofPlace v = (ofFields (byName fields)).mapError .invalid := by
  cases v <;> cases h <;> cases fields <;> rfl

theorem ofPlace_of_table {v : Plain} {fields : Entries Empty} (h : v.entries? = some fields) :
    (issues fields = [] → ∃ settings, ofPlace v = .ok settings ∧ Fits fields settings) ∧
      (issues fields ≠ [] → ofPlace v = .error (.invalid (issues fields))) := by
  rw [ofPlace_eq h]
  constructor
  · intro hnone
    obtain ⟨settings, hsettings, hfits⟩ := (ofFields_byName fields).1 hnone
    exact ⟨settings, by rw [hsettings]; rfl, hfits⟩
  · intro hsome
    rw [(ofFields_byName fields).2 hsome]
    rfl

/-- What is no table counts as absent, or is a truth value, or is refused as a whole. -/
theorem ofPlace_of_other {v : Plain} (h : v.entries? = none) :
    (v.isTruthy = false → ofPlace v = .ok standard) ∧
      (v = .bool true → ofPlace v = .error .notATable) ∧
      (v.isTruthy = true → v ≠ .bool true →
        ofPlace v = .error (.invalid [⟨none, .notAMapping⟩])) := by
  refine ⟨?_, ?_, ?_⟩
  · intro habsent
    unfold ofPlace
    rw [habsent]
    rfl
  · rintro rfl
    rfl
  · intro hpresent hother
    have hvalue : ofValue v = .error [⟨none, .notAMapping⟩] := by
      unfold ofValue
      rw [h]
    unfold ofPlace
    rw [if_neg (by simp [hpresent])]
    split
    · next b =>
        -- of the two truth values only one is present
        cases b with
        | false => cases hpresent
        | true => exact absurd rfl hother
    · rw [hvalue]
      rfl

/-- What is loaded from a text in which the tools are a table or are not there. Without settings, or
with an empty table of them, the standard ones are. A table is taken setting by setting, or all that
does not fit is told in the order of the settings. Anything else is refused as a whole, but passed
over if it counts as absent, and a bare `true` is an error of its own. What is loaded from any text
keeps the bounds. -/
theorem load_decides {text : String} {es tools : Entries Empty}
    (hparse : Toml.parse? text = some es) (htools : tools? es = some tools) :
    (place? tools = none ∨ place? tools = some (.mapping []) → load (some text) = .ok standard) ∧
      (∀ v fields, place? tools = some v → v.entries? = some fields →
        (issues fields = [] → ∃ settings, load (some text) = .ok settings ∧
          Fits fields settings) ∧
        (issues fields ≠ [] → load (some text) = .error (.invalid (issues fields)))) ∧
      (∀ v, place? tools = some v → v.entries? = none →
        (v.isTruthy = false → load (some text) = .ok standard) ∧
        (v = .bool true → load (some text) = .error .notATable) ∧
        (v.isTruthy = true → v ≠ .bool true →
          load (some text) = .error (.invalid [⟨none, .notAMapping⟩]))) ∧
      ∀ given settings, load given = .ok settings →
        1 ≤ settings.maxDepth ∧ 1 ≤ settings.cacheSize ∧ settings.idStem ≠ "" := by
  have hload := load_eq hparse htools
  refine ⟨?_, ?_, ?_, ?_⟩
  · rintro (habsent | hempty)
    · rw [hload, habsent]
      rfl
    · rw [hload, hempty]
      rfl
  · intro v fields hplace hfields
    rw [hload, hplace]
    exact ofPlace_of_table hfields
  · intro v hplace hentries
    rw [hload, hplace]
    exact ofPlace_of_other hentries
  · intro given settings _
    exact ⟨settings.one_le_maxDepth, settings.one_le_cacheSize, settings.idStem_ne_empty⟩

/-- A text in which two of the settings do not fit. -/
def unfitText : String :=
  "[project]\nname = \"site\"\n\n[tool.hiccpy]\nmax_depth = 0\nid_prefix = \"\"\n"

theorem load_decides_unfitText :
    ∃ es tools v fields, Toml.parse? unfitText = some es ∧ tools? es = some tools ∧
      place? tools = some v ∧ v.entries? = some fields ∧
      load (some unfitText) =
        .error (.invalid [⟨some "max_depth", .tooSmall⟩, ⟨some "id_prefix", .tooShort⟩]) := by
  have hread : (((Toml.parse? unfitText).bind tools?).bind place?).bind
      (fun v => v.entries?.map issues) =
        some [⟨some "max_depth", .tooSmall⟩, ⟨some "id_prefix", .tooShort⟩] := by
    decide +kernel
  obtain ⟨v, hv, hissues⟩ := Option.bind_eq_some_iff.1 hread
  obtain ⟨tools, htools, hplace⟩ := Option.bind_eq_some_iff.1 hv
  obtain ⟨es, hparse, htools⟩ := Option.bind_eq_some_iff.1 htools
  obtain ⟨fields, hfields, hissues⟩ := Option.map_eq_some_iff.1 hissues
  refine ⟨es, tools, v, fields, hparse, htools, hplace, hfields, ?_⟩
  have hload := ((load_decides hparse htools).2.1 v fields hplace hfields).2
  rw [hissues] at hload
  exact hload (by simp)

/-- A zero in the place of the table counts as absent, and a bare `true` is not told as a fault of
the settings. -/
theorem load_passes_zero :
    ((load (some "[tool]\nhiccpy = 0\n")).toOption.map fun settings =>
        (settings.maxDepth, settings.cacheSize, settings.idStem)) = some (100, 1000, "hiccpy-") ∧
      (match load (some "[tool]\nhiccpy = true\n") with
        | .error .notATable => true
        | _ => false) = true := by
  constructor <;> decide +kernel

end Settings
end MarkupTree
