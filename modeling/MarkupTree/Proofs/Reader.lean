import MarkupTree.Proofs.Escape
import MarkupTree.Proofs.Visit

/-!
# Reader — reading markup back

A small reader of markup: open tags with quoted attributes, close tags, and text; the five entities
are decoded once, void tags are never closed. It goes through the markup character by character and
knows nothing of where the markup came from.

* `Reader.read` reads markup as a document, or refuses it.
* `Reader.read_print` says that printed forests are read back with neighbouring texts merged.
-/

namespace MarkupTree

/-- What markup says: texts, and nodes with labels. -/
abbrev Document := Forest String Label

/-- Letters, digits, hyphens, underscores and colons. Every character beyond ASCII counts as a
letter, so that names in all scripts are plain. -/
def isKeyChar (c : Char) : Bool :=
  c.isAlphanum || c == '-' || c == '_' || c == ':' || 0x80 ≤ c.toNat

def isPlainName (name : String) : Bool :=
  name != "" && name.toList.all isKeyChar

/-! ## The reader -/

/-- How far the part of an open tag is read that stands between two spaces. -/
inductive TagPart
  | name (cs : List Char)
  | key (cs : List Char)
  | equals (key : List Char)
  | complete

inductive Phase
  | text (raw : List Char)
  | bracket
  | tag (label : Label) (part : TagPart)
  | value (label : Label) (key raw : List Char)
  | closing (name : List Char)

/-- A node whose inside is being read, and what stands in front of it. -/
structure Unclosed where
  label : Label
  before : Document

/-- The nodes that are not closed yet, innermost first, what is read of the innermost one, and what
the reader is in the middle of. -/
structure Reader where
  stack : List Unclosed
  done : Document
  phase : Phase

namespace Label

def add (label : Label) (key : List Char) (value : Option String) : Label :=
  { label with attributes := label.attributes ++ [(String.ofList key, value)] }

/-- The label with the part that is being read, if that part may end here. -/
def finish? (label : Label) : TagPart → Option Label
  | .name cs => some { label with name := String.ofList cs }
  | .key cs => if cs.isEmpty then none else some (label.add cs none)
  | .equals _ => none
  | .complete => some label

end Label

namespace Reader

def start : Reader :=
  ⟨[], .nil, .text []⟩

def settled (done : Document) (raw : List Char) : Document :=
  done ++ .ofText (String.ofList (Text.unescapeChars raw))

def openTag (r : Reader) (label : Label) : Reader :=
  if Vocabulary.isVoid label.name then
    { r with done := r.done ++ .node label .nil .nil, phase := .text [] }
  else ⟨⟨label, r.done⟩ :: r.stack, .nil, .text []⟩

def closeTag? (r : Reader) (name : List Char) : Option Reader :=
  match r.stack with
  | [] => none
  | top :: rest =>
    if top.label.name = String.ofList name then
      some ⟨rest, top.before ++ .node top.label r.done .nil, .text []⟩
    else none

-- a character that neither ends a part of an open tag nor the tag
def extend? (label : Label) (c : Char) : TagPart → Option Phase
  | .name cs => if Selector.isNameChar c then some (.tag label (.name (cs ++ [c]))) else none
  | .key cs =>
    if c = '=' then if cs.isEmpty then none else some (.tag label (.equals cs))
    else if isKeyChar c then some (.tag label (.key (cs ++ [c]))) else none
  | .equals key => if c = '"' then some (.value label key []) else none
  | .complete => none

def step (r : Reader) (c : Char) : Option Reader :=
  match r.phase with
  | .text raw =>
    if c = '<' then some { r with done := settled r.done raw, phase := .bracket }
    else some { r with phase := .text (raw ++ [c]) }
  | .bracket =>
    if c = '/' then some { r with phase := .closing [] }
    else if c.isAlpha then some { r with phase := .tag ⟨"", []⟩ (.name [c]) }
    else none
  | .tag label part =>
    if c = ' ' then (label.finish? part).map fun label => { r with phase := .tag label (.key []) }
    else if c = '>' then (label.finish? part).map r.openTag
    else (extend? label c part).map fun phase => { r with phase }
  | .value label key raw =>
    if c = '"' then
      let value := String.ofList (Text.unescapeChars raw)
      some { r with phase := .tag (label.add key (some value)) .complete }
    else some { r with phase := .value label key (raw ++ [c]) }
  | .closing name =>
    if c = '>' then r.closeTag? name
    else if Selector.isNameChar c then some { r with phase := .closing (name ++ [c]) }
    else none

def run (r : Reader) (cs : List Char) : Option Reader :=
  cs.foldlM step r

/-- What was read, if no tag is left open. -/
def document? (r : Reader) : Option Document :=
  match r.stack, r.phase with
  | [], .text raw => some (settled r.done raw)
  | _, _ => none

def read (markup : String) : Option Document :=
  (run start markup.toList).bind document?

end Reader

/-! ## Names -/

theorem Selector.isNameChar_of_isTagName {cs : List Char} (h : isTagName cs = true) :
    ∀ c ∈ cs, isNameChar c = true := by
  intro c hc
  cases cs with
  | nil => cases hc
  | cons d rest =>
      have hparts : d.isAlpha = true ∧ ∀ e ∈ rest, isNameChar e = true := by
        simpa [isTagName] using h
      rcases List.mem_cons.1 hc with rfl | hrest
      · simp [isNameChar, Char.isAlphanum, hparts.1]
      · exact hparts.2 c hrest

namespace Reader

/-! ## Runs of the reader -/

theorem run_nil (r : Reader) : r.run [] = some r := rfl

theorem run_cons (r : Reader) (c : Char) (cs : List Char) :
    r.run (c :: cs) = (r.step c).bind fun r => r.run cs := rfl

theorem run_cons_of_step {r r' : Reader} {c : Char} (h : r.step c = some r') (cs : List Char) :
    r.run (c :: cs) = r'.run cs := by
  rw [run_cons, h]
  rfl

theorem run_append (r : Reader) (cs ds : List Char) :
    r.run (cs ++ ds) = (r.run cs).bind fun r => r.run ds := by
  induction cs generalizing r with
  | nil => rfl
  | cons c rest ih =>
      rw [List.cons_append, run_cons, run_cons]
      cases r.step c with
      | none => rfl
      | some r' => exact ih r'

theorem run_append_of_run {r r' : Reader} {cs : List Char} (h : r.run cs = some r')
    (ds : List Char) : r.run (cs ++ ds) = r'.run ds := by
  rw [run_append, h]
  rfl

/-- A phase that collects every character of some kind collects a whole run of them. -/
theorem run_collect {stack : List Unclosed} {done : Document} (phase : List Char → Phase)
    {p : Char → Prop}
    (hstep : ∀ cs c, p c →
      step ⟨stack, done, phase cs⟩ c = some ⟨stack, done, phase (cs ++ [c])⟩)
    (cs : List Char) {ds : List Char} (h : ∀ c ∈ ds, p c) :
    run ⟨stack, done, phase cs⟩ ds = some ⟨stack, done, phase (cs ++ ds)⟩ := by
  induction ds generalizing cs with
  | nil => simp [run_nil]
  | cons c rest ih =>
      have hc : p c := h c (by simp)
      have hrest : ∀ d ∈ rest, p d := fun d hd => h d (List.mem_cons_of_mem _ hd)
      rw [run_cons, hstep cs c hc, Option.bind_some, ih _ hrest, List.append_assoc,
        List.singleton_append]

/-- No character of a name ends a part of a tag. -/
theorem ne_of_isNameChar {c : Char} (h : Selector.isNameChar c = true) : c ≠ ' ' ∧ c ≠ '>' := by
  constructor <;> rintro rfl <;> revert h <;> decide

theorem ne_of_isKeyChar {c : Char} (h : isKeyChar c = true) :
    c ≠ ' ' ∧ c ≠ '>' ∧ c ≠ '=' ∧ c ≠ '"' := by
  refine ⟨?_, ?_, ?_, ?_⟩ <;> rintro rfl <;> revert h <;> decide

variable (stack : List Unclosed) (done : Document) (label : Label)

theorem run_text (raw : List Char) {cs : List Char} (h : ∀ c ∈ cs, c ≠ '<') :
    run ⟨stack, done, .text raw⟩ cs = some ⟨stack, done, .text (raw ++ cs)⟩ := by
  refine run_collect .text ?_ raw h
  intro raw c hc
  simp only [step, hc, if_false]

theorem run_value (key raw : List Char) {cs : List Char} (h : ∀ c ∈ cs, c ≠ '"') :
    run ⟨stack, done, .value label key raw⟩ cs =
      some ⟨stack, done, .value label key (raw ++ cs)⟩ := by
  refine run_collect (.value label key) ?_ raw h
  intro raw c hc
  simp only [step, hc, if_false]

theorem run_name (name : List Char) {cs : List Char}
    (h : ∀ c ∈ cs, Selector.isNameChar c = true) :
    run ⟨stack, done, .tag label (.name name)⟩ cs =
      some ⟨stack, done, .tag label (.name (name ++ cs))⟩ := by
  refine run_collect (fun name => .tag label (.name name)) ?_ name h
  intro name c hc
  rcases ne_of_isNameChar hc with ⟨hspace, hclose⟩
  simp only [step, hspace, hclose, if_false, extend?, hc, if_true, Option.map_some]

theorem run_key (key : List Char) {cs : List Char} (h : ∀ c ∈ cs, isKeyChar c = true) :
    run ⟨stack, done, .tag label (.key key)⟩ cs =
      some ⟨stack, done, .tag label (.key (key ++ cs))⟩ := by
  refine run_collect (fun key => .tag label (.key key)) ?_ key h
  intro key c hc
  rcases ne_of_isKeyChar hc with ⟨hspace, hclose, hequals, -⟩
  simp only [step, hspace, hclose, hequals, if_false, extend?, hc, if_true, Option.map_some]

theorem run_closing (name : List Char) {cs : List Char}
    (h : ∀ c ∈ cs, Selector.isNameChar c = true) :
    run ⟨stack, done, .closing name⟩ cs = some ⟨stack, done, .closing (name ++ cs)⟩ := by
  refine run_collect .closing ?_ name h
  intro name c hc
  rcases ne_of_isNameChar hc with ⟨-, hclose⟩
  simp only [step, hclose, if_false, hc, if_true]

/-! ## Reading tags -/

/-- The reader is in an open tag that may end here, and then has this label. -/
def Ready (label : Label) (r : Reader) : Prop :=
  ∃ sofar part, r = ⟨stack, done, .tag sofar part⟩ ∧ sofar.finish? part = some label

variable {stack done label}

theorem Ready.space {r : Reader} (h : Ready stack done label r) :
    r.step ' ' = some ⟨stack, done, .tag label (.key [])⟩ := by
  rcases h with ⟨sofar, part, rfl, hfinish⟩
  simp only [step, if_true, hfinish, Option.map_some]

theorem Ready.close {r : Reader} (h : Ready stack done label r) :
    r.step '>' = some (openTag ⟨stack, done, r.phase⟩ label) := by
  rcases h with ⟨sofar, part, rfl, hfinish⟩
  have hspace : '>' ≠ ' ' := by decide
  simp only [step, hspace, if_false, if_true, hfinish, Option.map_some]

theorem Ready.run_attribute {r : Reader} (h : Ready stack done label r)
    {name : String} (value : Option String) (hname : isPlainName name = true) :
    ∃ r', r.run (printAttribute (name, value)).toList = some r' ∧
      Ready stack done { label with attributes := label.attributes ++ [(name, value)] } r' := by
  have hplain : name.toList ≠ [] ∧ ∀ c ∈ name.toList, isKeyChar c = true := by
    simpa [isPlainName] using hname
  have hspace := run_cons_of_step h.space
  have hkey := run_key stack done label [] hplain.2
  rw [List.nil_append] at hkey
  cases value with
  | none =>
      -- the name is still open: what follows it, a space or the end of the tag, closes it
      refine ⟨⟨stack, done, .tag label (.key name.toList)⟩, ?_, ?_⟩
      · simp only [printAttribute, String.toList_append]
        exact (hspace name.toList).trans hkey
      · refine ⟨label, .key name.toList, rfl, ?_⟩
        simp [Label.finish?, Label.add, hplain.1]
  | some value =>
      -- escaping leaves no quote in the value, so the first quote ends it
      have hvalue : ∀ c ∈ (Text.escape value).toList, c ≠ '"' := by
        intro c hc heq
        rw [Text.toList_escape] at hc
        exact Text.not_mem_escapeChars (by decide) value.toList (heq ▸ hc)
      have hequals : step ⟨stack, done, .tag label (.key name.toList)⟩ '=' =
          some ⟨stack, done, .tag label (.equals name.toList)⟩ := by
        simp [step, extend?, hplain.1]
      have hopen : step ⟨stack, done, .tag label (.equals name.toList)⟩ '"' =
          some ⟨stack, done, .value label name.toList []⟩ := by
        simp [step, extend?]
      have hraw := run_value stack done label name.toList [] hvalue
      rw [List.nil_append] at hraw
      have hclose : step ⟨stack, done, .value label name.toList (Text.escape value).toList⟩ '"' =
          some ⟨stack, done, .tag (label.add name.toList (some value)) .complete⟩ := by
        simp [step, Text.unescapeChars_escapeChars]
      refine ⟨⟨stack, done, .tag (label.add name.toList (some value)) .complete⟩, ?_, ?_⟩
      · have hchars : (printAttribute (name, some value)).toList =
            ' ' :: (name.toList ++ ('=' :: '"' :: ((Text.escape value).toList ++ ['"']))) := by
          simp [printAttribute]
        rw [hchars]
        calc
          _ = run ⟨stack, done, .tag label (.key name.toList)⟩
                ('=' :: '"' :: ((Text.escape value).toList ++ ['"'])) := by
              rw [hspace, run_append_of_run hkey]
          _ = run ⟨stack, done, .value label name.toList []⟩
                ((Text.escape value).toList ++ ['"']) := by
              rw [run_cons_of_step hequals, run_cons_of_step hopen]
          _ = run ⟨stack, done, .value label name.toList (Text.escape value).toList⟩ ['"'] :=
              run_append_of_run hraw _
          _ = some ⟨stack, done, .tag (label.add name.toList (some value)) .complete⟩ :=
              run_cons_of_step hclose _
      · refine ⟨_, .complete, rfl, ?_⟩
        simp [Label.finish?, Label.add]

theorem Ready.run_attributes {r : Reader} {attributes : List (String × Option String)}
    (h : Ready stack done label r) (hnames : ∀ p ∈ attributes, isPlainName p.1 = true) :
    ∃ r', r.run (printAttributes attributes).toList = some r' ∧
      Ready stack done { label with attributes := label.attributes ++ attributes } r' := by
  induction attributes generalizing label r with
  | nil => exact ⟨r, rfl, by simpa using h⟩
  | cons p rest ih =>
      rcases h.run_attribute p.2 (hnames p (by simp)) with ⟨r₁, hrun₁, hready₁⟩
      rcases ih hready₁ fun q hq => hnames q (List.mem_cons_of_mem _ hq) with ⟨r₂, hrun₂, hready₂⟩
      refine ⟨r₂, ?_, ?_⟩
      · have hchars : (printAttributes (p :: rest)).toList =
            (printAttribute p).toList ++ (printAttributes rest).toList := by
          simp [printAttributes]
        rw [hchars, run_append_of_run hrun₁, hrun₂]
      · simpa using hready₂

theorem run_openTag (stack : List Unclosed) (done : Document) (raw : List Char) {label : Label}
    (hname : Selector.isTagName label.name.toList = true)
    (hkeys : ∀ p ∈ label.attributes, isPlainName p.1 = true) :
    run ⟨stack, done, .text raw⟩ label.openTag.toList =
      some (openTag ⟨stack, settled done raw, .text []⟩ label) := by
  cases hchars : label.name.toList with
  | nil =>
      rw [hchars] at hname
      cases hname
  | cons c rest =>
      have hparts : c.isAlpha = true ∧ ∀ d ∈ rest, Selector.isNameChar d = true := by
        simpa [hchars, Selector.isTagName] using hname
      have hbracket : step ⟨stack, done, .text raw⟩ '<' =
          some ⟨stack, settled done raw, .bracket⟩ := by
        simp [step]
      have hfirst : step ⟨stack, settled done raw, .bracket⟩ c =
          some ⟨stack, settled done raw, .tag ⟨"", []⟩ (.name [c])⟩ := by
        have hslash : c ≠ '/' := by
          rintro rfl
          exact absurd hparts.1 (by decide)
        simp [step, hslash, hparts.1]
      have hrest := run_name stack (settled done raw) ⟨"", []⟩ [c] hparts.2
      -- behind its name the tag may end or go on with attributes
      have hready : Ready stack (settled done raw) ⟨label.name, []⟩
          ⟨stack, settled done raw, .tag ⟨"", []⟩ (.name ([c] ++ rest))⟩ := by
        refine ⟨⟨"", []⟩, .name ([c] ++ rest), rfl, ?_⟩
        simp [Label.finish?, ← hchars]
      rcases hready.run_attributes hkeys with ⟨r, hrun, hready⟩
      have hopen : label.openTag.toList =
          '<' :: c :: (rest ++ ((printAttributes label.attributes).toList ++ ['>'])) := by
        simp [Label.openTag, hchars]
      rw [hopen]
      calc
        _ = run ⟨stack, settled done raw, .tag ⟨"", []⟩ (.name [c])⟩
              (rest ++ ((printAttributes label.attributes).toList ++ ['>'])) := by
            rw [run_cons_of_step hbracket, run_cons_of_step hfirst]
        _ = r.run ['>'] := by
            rw [run_append_of_run hrest, run_append_of_run hrun]
        _ = some (openTag ⟨stack, settled done raw, r.phase⟩ label) :=
            run_cons_of_step hready.close _
        _ = some (openTag ⟨stack, settled done raw, .text []⟩ label) := by
            simp [openTag]

/-- A close tag that is printed closes the innermost node. -/
theorem run_closeTag (top : Unclosed) (stack : List Unclosed) (done : Document)
    (raw : List Char) (hname : Selector.isTagName top.label.name.toList = true)
    (hvoid : Vocabulary.isVoid top.label.name = false) :
    run ⟨top :: stack, done, .text raw⟩ top.label.closeTag.toList =
      some ⟨stack, top.before ++ .node top.label (settled done raw) .nil, .text []⟩ := by
  have hchars := Selector.isNameChar_of_isTagName hname
  have hbracket : step ⟨top :: stack, done, .text raw⟩ '<' =
      some ⟨top :: stack, settled done raw, .bracket⟩ := by
    simp [step]
  have hslash : step ⟨top :: stack, settled done raw, .bracket⟩ '/' =
      some ⟨top :: stack, settled done raw, .closing []⟩ := by
    simp [step]
  have hrun := run_closing (top :: stack) (settled done raw) [] hchars
  have hend : step ⟨top :: stack, settled done raw, .closing ([] ++ top.label.name.toList)⟩ '>' =
      some ⟨stack, top.before ++ .node top.label (settled done raw) .nil, .text []⟩ := by
    simp [step, closeTag?]
  have hclose : top.label.closeTag.toList = '<' :: '/' :: (top.label.name.toList ++ ['>']) := by
    simp [Label.closeTag, hvoid]
  rw [hclose]
  calc
    _ = run ⟨top :: stack, settled done raw, .closing []⟩ (top.label.name.toList ++ ['>']) := by
        rw [run_cons_of_step hbracket, run_cons_of_step hslash]
    _ = run ⟨top :: stack, settled done raw, .closing ([] ++ top.label.name.toList)⟩ ['>'] :=
        run_append_of_run hrun _
    _ = some ⟨stack, top.before ++ .node top.label (settled done raw) .nil, .text []⟩ :=
        run_cons_of_step hend _

end Reader

/-! ## Reading forests -/

def Leaf.content : Leaf → String
  | text s => s
  | verbatim html => html

namespace Forest

/-- A forest of plain text and tags with plain names, in which void tags are empty. -/
def Readable : Forest Leaf Label → Prop
  | nil => True
  | leaf a rest => a.IsText ∧ rest.Readable
  | node label inside rest =>
    (Selector.isTagName label.name.toList = true ∧
      ∀ p ∈ label.attributes, isPlainName p.1 = true) ∧
    (Vocabulary.isVoid label.name = true → inside = nil) ∧ inside.Readable ∧ rest.Readable

def document (F : Forest Leaf Label) : Document :=
  (F.map Leaf.content id).settle ""

end Forest

namespace Reader

theorem settled_escape (done : Document) (pending : String) :
    settled done (Text.escape pending).toList = done ++ .ofText pending := by
  simp [settled, Text.unescapeChars_escapeChars]

/-- A forest that is printed behind pending text is read as that text and the forest, merged. What
is pending afterwards is the text at the end of the forest. -/
def Reads (F : Forest Leaf Label) : Prop :=
  ∀ (stack : List Unclosed) (done : Document) (pending : String),
    ∃ (done' : Document) (pending' : String),
      run ⟨stack, done, .text (Text.escape pending).toList⟩ F.print.toList =
        some ⟨stack, done', .text (Text.escape pending').toList⟩ ∧
      done' ++ .ofText pending' = done ++ (F.map Leaf.content id).settle pending

theorem Reads.text {rest : Forest Leaf Label} (h : Reads rest) (s : String) :
    Reads (.leaf (.text s) rest) := by
  intro stack done pending
  -- escaping leaves no angle bracket in the text, so it is only collected
  have htext : ∀ c ∈ (Text.escape s).toList, c ≠ '<' := by
    intro c hc heq
    rw [Text.toList_escape] at hc
    exact Text.not_mem_escapeChars (by decide) s.toList (heq ▸ hc)
  have hread := run_text stack done (Text.escape pending).toList htext
  have hjoin : (Text.escape pending).toList ++ (Text.escape s).toList =
      (Text.escape (pending ++ s)).toList := by
    simp [Text.escapeChars_append]
  rw [hjoin] at hread
  rcases h stack done (pending ++ s) with ⟨done', pending', hrun, hdone⟩
  refine ⟨done', pending', ?_, hdone⟩
  simp only [Forest.print, Leaf.print, String.toList_append]
  rw [run_append_of_run hread, hrun]

/-- A node that is printed behind pending text ends that text and leaves nothing pending. -/
theorem Reads.run_node {label : Label} {inside : Forest Leaf Label} (h : Reads inside)
    (hname : Selector.isTagName label.name.toList = true)
    (hkeys : ∀ p ∈ label.attributes, isPlainName p.1 = true)
    (hvoid : Vocabulary.isVoid label.name = true → inside = .nil)
    (stack : List Unclosed) (done : Document) (pending : String) :
    run ⟨stack, done, .text (Text.escape pending).toList⟩
        (label.openTag.toList ++ (inside.print.toList ++ label.closeTag.toList)) =
      some ⟨stack, done ++ .ofText pending ++
        .node label ((inside.map Leaf.content id).settle "") .nil, .text []⟩ := by
  have hopen := run_openTag stack done (Text.escape pending).toList hname hkeys
  rw [settled_escape] at hopen
  rw [run_append_of_run hopen]
  by_cases hv : Vocabulary.isVoid label.name = true
  · -- a void tag is done when its open tag is
    have hnil : inside = .nil := hvoid hv
    subst hnil
    simp [openTag, Label.closeTag, Forest.print, hv, run_nil, Forest.map, Forest.settle,
      Forest.ofText]
  · -- any other tag is pushed, and popped by its close tag
    have hv : Vocabulary.isVoid label.name = false := by simpa using hv
    rcases h (⟨label, done ++ .ofText pending⟩ :: stack) .nil "" with
      ⟨done', pending', hrun, hdone⟩
    have hempty : ([] : List Char) = (Text.escape "").toList := rfl
    have hclose := run_closeTag ⟨label, done ++ .ofText pending⟩ stack done'
      (Text.escape pending').toList hname hv
    simp only [openTag, hv, Bool.false_eq_true, if_false]
    rw [hempty, run_append_of_run hrun, hclose, settled_escape, hdone]
    rfl

theorem run_print (F : Forest Leaf Label) (h : F.Readable) : Reads F := by
  induction F with
  | nil =>
      intro stack done pending
      exact ⟨done, pending, by simp [Forest.print, run_nil], rfl⟩
  | leaf a rest ih =>
      rcases h with ⟨⟨s, rfl⟩, hrest⟩
      exact (ih hrest).text s
  | node label inside rest ihi ihr =>
      intro stack done pending
      rcases h with ⟨⟨hname, hkeys⟩, hvoid, hinside, hrest⟩
      have hnode := (ihi hinside).run_node hname hkeys hvoid stack done pending
      rcases ihr hrest stack
        (done ++ .ofText pending ++ .node label ((inside.map Leaf.content id).settle "") .nil) ""
        with ⟨done', pending', hrun, hdone⟩
      refine ⟨done', pending', ?_, ?_⟩
      · have hprint : (Forest.node label inside rest).print.toList =
            (label.openTag.toList ++ (inside.print.toList ++ label.closeTag.toList)) ++
              rest.print.toList := by
          simp [Forest.print]
        rw [hprint, run_append_of_run hnode]
        exact hrun
      · rw [hdone]
        simp [Forest.map, Forest.settle, Forest.append_assoc]

/-- Reading what is printed of a forest gives the forest back, with neighbouring texts merged. -/
theorem read_print {F : Forest Leaf Label} (h : F.Readable) : read F.print = some F.document := by
  rcases run_print F h [] .nil "" with ⟨done, pending, hrun, hdone⟩
  have hstart : run start F.print.toList =
      some ⟨[], done, .text (Text.escape pending).toList⟩ := hrun
  unfold read
  rw [hstart, Option.bind_some]
  simp only [document?, settled, Text.toList_escape, Text.unescapeChars_escapeChars,
    String.ofList_toList]
  rw [hdone]
  rfl

end Reader
end MarkupTree
