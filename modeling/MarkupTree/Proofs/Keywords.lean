import MarkupTree.Proofs.Paths
import MarkupTree.Proofs.Printing
import MarkupTree.Proofs.Structure
import MarkupTree.Proofs.Validation

/-!
# Keywords — the attributes that factories write

A keyword is an identifier. It names an event or an attribute, and the name of that attribute is
well-formed, with one exception: the keyword that is a single underscore loses it and names nothing.
So in the open tag of a factory every name is well-formed, unless that keyword was given.

* `IsAttributeName` and `Factory.IsKeyword` say what well-formed names and identifiers are.
* `Factory.Named` relates keywords and names, `Factory.attributeName_named` finds the name.
* `Renderer.exists_node_of_visit` says what a tag is visited as.
* `Factory.element_openTag` tells which names stand in an open tag.
-/

namespace MarkupTree

variable {C σ : Type}

/-! ## Characters of names -/

namespace Text

/-- Blanks, controls and the code points that are not characters. -/
def isIllegible (c : Char) : Bool :=
  isBlank c || c.toNat ≤ 0x1f || (0x7f ≤ c.toNat && c.toNat ≤ 0x9f) ||
    (0xfdd0 ≤ c.toNat && c.toNat ≤ 0xfdef) || 0xfffe ≤ c.toNat % 0x10000

end Text

def isAttributeChar (c : Char) : Bool :=
  !Text.isIllegible c && !"\"'<>/=".toList.contains c

/-- A name that stands in an open tag as the name of one attribute. -/
structure IsAttributeName (name : String) : Prop where
  nonempty : name ≠ ""
  chars : ∀ c ∈ name.toList, isAttributeChar c = true

instance : DecidablePred IsAttributeName := fun name =>
  decidable_of_iff (name ≠ "" ∧ name.toList.all isAttributeChar = true)
    ⟨fun h => ⟨h.1, List.all_eq_true.1 h.2⟩, fun h => ⟨h.1, List.all_eq_true.2 h.2⟩⟩

theorem isAttributeName_marker : IsAttributeName Vocabulary.marker := by
  decide +kernel

namespace Factory

/-- Letters, digits and underscores. Beyond ASCII everything legible counts. -/
def isKeywordChar (c : Char) : Bool :=
  if c.toNat < 0x80 then c.isAlphanum || c == '_' else !Text.isIllegible c

/-- An identifier: not empty, and without a digit in front. Every identifier of a language that
takes its letters from all scripts is one. -/
structure IsKeyword (keyword : String) : Prop where
  nonempty : keyword ≠ ""
  front : keyword.toList.head?.any Char.isDigit = false
  chars : ∀ c ∈ keyword.toList, isKeywordChar c = true

instance : DecidablePred IsKeyword := fun keyword =>
  decidable_of_iff
    (keyword ≠ "" ∧ keyword.toList.head?.any Char.isDigit = false ∧
      keyword.toList.all isKeywordChar = true)
    ⟨fun h => ⟨h.1, h.2.1, List.all_eq_true.1 h.2.2⟩,
      fun h => ⟨h.1, h.2, List.all_eq_true.2 h.3⟩⟩

/-- A character of a keyword can stand in the name of an attribute, and it is no hyphen. -/
theorem isAttributeChar_of_isKeywordChar {c : Char} (h : isKeywordChar c = true) :
    isAttributeChar c = true ∧ c ≠ '-' := by
  have hascii : ∀ n < 0x80, isKeywordChar (Char.ofNat n) = true →
      isAttributeChar (Char.ofNat n) = true ∧ Char.ofNat n ≠ '-' := by
    decide +kernel
  by_cases hcode : c.toNat < 0x80
  · simpa using hascii c.toNat hcode (by simpa using h)
  · -- all characters that end a name are ASCII, and so is the hyphen
    have hends : ('-' :: "\"'<>/=".toList).all (·.toNat < 0x80) = true := by decide
    have hother : c ∉ '-' :: "\"'<>/=".toList := by
      intro hc
      exact hcode (of_decide_eq_true (List.all_eq_true.1 hends c hc))
    have hlegible : Text.isIllegible c = false := by
      simpa [isKeywordChar, hcode] using h
    rw [List.mem_cons, not_or] at hother
    refine ⟨?_, hother.1⟩
    have hinside : "\"'<>/=".toList.contains c = false :=
      Bool.eq_false_iff.2 fun hc => hother.2 (List.contains_iff_mem.1 hc)
    unfold isAttributeChar
    rw [hlegible, hinside]
    rfl

/-! ## What a keyword names -/

/-- A keyword and what it names. -/
inductive Named : String → String → Prop
  /-- behind the start of an event stands the event -/
  | event (event : String) : Named ("on_" ++ event) ("on:" ++ event)
  /-- an attribute: no underscore is left, and the other characters are kept in their order -/
  | plain {keyword name : String} (other : ∀ event, keyword ≠ "on_" ++ event)
      (formed : IsAttributeName name) (joined : '_' ∉ name.toList)
      (kept : name.toList.filter (· ≠ '-') = keyword.toList.filter (· ≠ '_')) : Named keyword name
  /-- the lone underscore -/
  | lone : Named "_" ""

def hyphen (c : Char) : Char :=
  if c = '_' then '-' else c

theorem filter_dropTrailing (cs : List Char) :
    (dropTrailing cs).filter (· ≠ '_') = cs.filter (· ≠ '_') := by
  unfold dropTrailing
  split
  · next hlast =>
      obtain ⟨front, rfl⟩ := List.getLast?_eq_some_iff.1 hlast
      simp
  · rfl

theorem dropTrailing_subset (cs : List Char) : ∀ c ∈ dropTrailing cs, c ∈ cs := by
  intro c hc
  unfold dropTrailing at hc
  split at hc
  · exact List.dropLast_subset cs hc
  · exact hc

/-- Only the lone underscore is dropped with nothing before it. -/
theorem dropTrailing_eq_nil {cs : List Char} (h : dropTrailing cs = []) : cs = [] ∨ cs = ['_'] := by
  unfold dropTrailing at h
  split at h
  · next hlast =>
      obtain ⟨front, rfl⟩ := List.getLast?_eq_some_iff.1 hlast
      rw [List.dropLast_concat] at h
      exact Or.inr (by rw [h, List.nil_append])
  · exact Or.inl h

/-- Replacing underscores keeps all else. -/
theorem filter_map_hyphen {cs : List Char} (h : '-' ∉ cs) :
    (cs.map hyphen).filter (· ≠ '-') = cs.filter (· ≠ '_') := by
  induction cs with
  | nil => rfl
  | cons c rest ih =>
      have hrest := ih fun hmem => h (List.mem_cons_of_mem _ hmem)
      have hc : c ≠ '-' := fun hc => h (hc ▸ List.mem_cons_self ..)
      by_cases hscore : c = '_' <;> simpa [hyphen, hscore, hc] using hrest

theorem underscore_not_mem_map (cs : List Char) : '_' ∉ cs.map hyphen := by
  intro hmem
  obtain ⟨c, -, hc⟩ := List.mem_map.1 hmem
  unfold hyphen at hc
  split at hc
  · exact absurd hc (by decide)
  · next hscore => exact hscore hc

theorem attributeName_event (event : String) :
    attributeName ("on_" ++ event) = "on:" ++ event := by
  unfold attributeName eventKeyword
  rw [afterStart?_append]
  rfl

/-- A keyword for no event is kept but for its underscores. -/
theorem attributeName_other {keyword : String} (h : ∀ event, keyword ≠ "on_" ++ event) :
    (attributeName keyword).toList = (dropTrailing keyword.toList).map hyphen := by
  have hstart : afterStart? eventKeyword keyword = none :=
    Option.eq_none_iff_forall_ne_some.2 fun event hevent =>
      h event (eq_append_of_afterStart? hevent)
  unfold attributeName
  rw [hstart, String.toList_ofList]
  rfl

theorem attributeName_formed {keyword : String} (h : IsKeyword keyword)
    (hother : ∀ event, keyword ≠ "on_" ++ event) (hlone : keyword ≠ "_") :
    IsAttributeName (attributeName keyword) := by
  have hname := attributeName_other hother
  constructor
  · -- nothing is left only of the keyword that was excluded
    intro hempty
    rw [hempty, String.toList_empty, eq_comm, List.map_eq_nil_iff] at hname
    rcases dropTrailing_eq_nil hname with hnil | hscore
    · exact h.nonempty (String.toList_eq_nil_iff.1 hnil)
    · exact hlone (String.toList_injective hscore)
  · intro c hc
    rw [hname] at hc
    obtain ⟨d, hd, rfl⟩ := List.mem_map.1 hc
    unfold hyphen
    split
    · decide
    · exact (isAttributeChar_of_isKeywordChar (h.chars d (dropTrailing_subset _ d hd))).1

theorem attributeName_kept {keyword : String} (h : IsKeyword keyword)
    (hother : ∀ event, keyword ≠ "on_" ++ event) :
    (attributeName keyword).toList.filter (· ≠ '-') = keyword.toList.filter (· ≠ '_') := by
  -- a hyphen in the name was an underscore, since a keyword has none
  have hhyphen : '-' ∉ dropTrailing keyword.toList := by
    intro hmem
    exact (isAttributeChar_of_isKeywordChar (h.chars '-' (dropTrailing_subset _ _ hmem))).2 rfl
  calc
    (attributeName keyword).toList.filter (· ≠ '-')
        = ((dropTrailing keyword.toList).map hyphen).filter (· ≠ '-') := by
          rw [attributeName_other hother]
    _ = (dropTrailing keyword.toList).filter (· ≠ '_') := filter_map_hyphen hhyphen
    _ = keyword.toList.filter (· ≠ '_') := filter_dropTrailing keyword.toList

/-- Every keyword has its name, and only the lone underscore has the empty one. -/
theorem attributeName_named {keyword : String} (h : IsKeyword keyword) :
    Named keyword (attributeName keyword) := by
  by_cases hevent : ∃ event, keyword = "on_" ++ event
  · obtain ⟨event, rfl⟩ := hevent
    rw [attributeName_event]
    exact .event event
  · have hother : ∀ event, keyword ≠ "on_" ++ event := not_exists.1 hevent
    by_cases hlone : keyword = "_"
    · subst hlone
      have hname : attributeName "_" = "" := by decide +kernel
      rw [hname]
      exact .lone
    · refine .plain hother (attributeName_formed h hother hlone) ?_
        (attributeName_kept h hother)
      rw [attributeName_other hother]
      exact underscore_not_mem_map _

/-- What is no event is well-formed, or named by the lone underscore. -/
theorem Named.formed {keyword name : String} (h : Named keyword name)
    (hother : ∀ event, name ≠ "on:" ++ event) :
    IsAttributeName name ∨ name = "" ∧ keyword = "_" := by
  cases h with
  | event event => exact absurd rfl (hother event)
  | plain _ hformed _ _ => exact Or.inl hformed
  | lone => exact Or.inr ⟨rfl, rfl⟩

end Factory

/-! ## The open tag of an element -/

/-- A name that stands alone in an open tag is not empty. -/
theorem isSome_of_mem_writtenPairs {es : Entries C} {p : String × Option String}
    (h : p ∈ writtenPairs es) (hempty : p.1 = "") : p.2.isSome = true := by
  rcases List.mem_filterMap.1 h with ⟨e, -, hpair⟩
  unfold writtenPair? at hpair
  split at hpair
  · cases hpair
  · split at hpair
    · cases hpair
    · next hname =>
        cases hpair
        exact absurd hempty hname
  · cases hpair
    rfl

namespace Renderer

/-- What a faithful store reads a selector as. -/
theorem tag_of_readStored {press press' : Press σ} (h : press.cache.Faithful) {selector : String}
    {tag : Tag String}
    (hread : Press.readStored (C := C) selector press = (.ok tag, press')) :
    Tag.parse selector = .ok tag := by
  unfold Press.readStored at hread
  split at hread
  · next hparse =>
      cases hread
      exact (h.of_parse_ok hparse).1
  · cases hread
  · cases hread

/-- A tag is visited as one node. -/
theorem exists_node_of_visit {B : Behaviour C σ} {limit levels : Nat} {v : Value C}
    {selector : String} {given : Option (Entries C)} {children : List (Value C)}
    (hshape : v.shape = .ok (.tag selector given children)) {press press' : Press σ}
    (hfaithful : press.cache.Faithful) {forest : Visited C}
    (h : visit B Press.readStored limit levels v press = (.ok forest, press')) :
    ∃ t inside, forest = .node t inside .nil ∧ t.Sound ∧ t.selector = selector ∧
      t.given = given := by
  cases levels with
  | zero => cases h
  | succ levels =>
      rcases Attempt.bind_apply_eq_ok h with ⟨shape, press₁, hfound, h⟩
      rw [hshape] at hfound
      cases hfound
      rcases Attempt.bind_apply_eq_ok h with ⟨tag, press₂, htag, h⟩
      rcases Attempt.bind_apply_eq_ok h with ⟨plan, press₃, hplan, h⟩
      rcases Attempt.bind_apply_eq_ok h with ⟨inside, press₄, -, h⟩
      cases h
      refine ⟨⟨selector, given, tag, plan⟩, inside, rfl, ⟨?_, ?_⟩, rfl, rfl⟩
      · exact tag_of_readStored hfaithful htag
      · rw [Attempt.ofExcept_apply] at hplan
        exact congrArg Prod.fst hplan

/-- What is painted of a tag begins with its open tag. -/
theorem exists_openTag_of_paint {B : Behaviour C σ} {limit levels : Nat} {v : Value C}
    {selector : String} {given : Option (Entries C)} {children : List (Value C)}
    (hshape : v.shape = .ok (.tag selector given children)) {canvas after : Canvas C σ}
    (hfaithful : canvas.press.cache.Faithful)
    (h : paint B limit levels v canvas = (.ok (), after)) :
    ∃ t behind, TagVisit.Sound t ∧ t.selector = selector ∧ t.given = given ∧
      after.markup = canvas.markup ++ (t.label canvas.recorder).1.openTag ++ behind := by
  have hfollows := paint_follows B limit levels v canvas
  cases hvisit : visit B Press.readStored limit levels v canvas.press with
  | mk answer press =>
      rw [hvisit] at hfollows
      cases answer with
      | error fault =>
          rw [h] at hfollows
          cases hfollows.1
      | ok forest =>
          obtain ⟨t, inside, rfl, hsound, hselector, hgiven⟩ :=
            exists_node_of_visit hshape hfaithful hvisit
          have hafter : after = canvas.after (.node t inside .nil) press :=
            congrArg Prod.snd (h.symm.trans hfollows)
          let label := (t.label canvas.recorder).1
          let printed := (Visited.labelled (opened canvas t).recorder inside).1.print
          refine ⟨t, printed ++ label.closeTag, hsound, hselector, hgiven, ?_⟩
          calc
            after.markup = (opened canvas t).markup ++ printed ++ label.closeTag := by
              rw [hafter, after_node]
              rfl
            _ = canvas.markup ++ label.openTag ++ (printed ++ label.closeTag) :=
              String.append_assoc ..

end Renderer

namespace Factory

/-- The tags of all factories are tag names. -/
theorem namesTag_of_mem_tags {factory tag : String} (h : (factory, tag) ∈ tags) :
    Selector.NamesTag tag := by
  have hall : ∀ e ∈ tags, Selector.isTagName e.2.toList = true := by decide +kernel
  exact (Selector.isTagName_iff tag).1 (hall _ h)

theorem ne_fragment_of_namesTag {tag : String} (h : Selector.NamesTag tag) :
    tag ≠ Vocabulary.fragment := by
  rintro rfl
  have hnot : Selector.isTagName Vocabulary.fragment.toList = false := by decide
  rw [(Selector.isTagName_iff _).2 h] at hnot
  cases hnot

/-- A key that names no event comes from a keyword that names none. -/
theorem keyword_of_mem_plain {keywords : Table (Value C)} {key : Value C}
    (h : key ∈ (attributes keywords).plain.map Prod.fst) :
    ∃ keyword ∈ keywords.map Prod.fst, key = .str (attributeName keyword) ∧
      ∀ event, attributeName keyword ≠ "on:" ++ event := by
  obtain ⟨e, he, rfl⟩ := List.mem_map.1 h
  obtain ⟨hmem, hplain⟩ := List.mem_filter.1 he
  rcases (Entries.mem_update hmem).1 with hnone | hkey
  · cases hnone
  · obtain ⟨e', he', hkey⟩ := List.mem_map.1 hkey
    obtain ⟨kw, hkw, rfl⟩ := List.mem_map.1 he'
    refine ⟨kw.1, List.mem_map_of_mem hkw, hkey.symm, ?_⟩
    intro event hevent
    have hname : eventName? e.1 = some event := by
      rw [← hkey, hevent]
      exact afterStart?_append Vocabulary.eventMark event
    rw [hname] at hplain
    cases hplain

/-- What is written in an open tag: the marker, or what a keyword names. The name is well-formed, or
it is the empty name of the lone underscore with a value behind it. -/
structure Formed (keywords : Table (Value C)) (p : String × Option String) : Prop where
  named : p.1 = Vocabulary.marker ∨ ∃ keyword ∈ keywords.map Prod.fst, p.1 = attributeName keyword
  formed : IsAttributeName p.1 ∨ p.1 = "" ∧ p.2.isSome = true ∧ "_" ∈ keywords.map Prod.fst

/-- A factory gives a tag alone as the selector, so that it brings no attributes. -/
theorem tag_of_sound {tag : String} (htag : Selector.NamesTag tag) {t : TagVisit C} (ht : t.Sound)
    (hselector : t.selector = tag) : t.tag = ⟨tag, []⟩ := by
  have hread : Tag.parse tag = .ok t.tag := hselector ▸ ht.read
  rw [(Tag.parse_eq_bare_iff tag).2 htag] at hread
  exact (Except.ok.inj hread).symm

theorem formed_of_mem_marked {keywords : Table (Value C)}
    (hkeywords : ∀ keyword ∈ keywords.map Prod.fst, IsKeyword keyword) {t : TagVisit C}
    (ht : t.Sound) (hseed : t.tag.attributes = []) (hgiven : t.given = some (attributes keywords))
    (recorder : Option (Recorder C)) :
    ∀ p ∈ writtenPairs (t.marked recorder).1, Formed keywords p := by
  intro p hp
  obtain ⟨e, he, hname⟩ := name_of_mem_writtenPairs hp
  rcases TagVisit.key_marked he with hmarker | hkey
  · have hp1 : p.1 = Vocabulary.marker := by
      rw [hname, hmarker]
      rfl
    exact ⟨Or.inl hp1, Or.inl (hp1 ▸ isAttributeName_marker)⟩
  · obtain ⟨e', he', hkey⟩ := List.mem_map.1 hkey
    -- the selector is a tag alone, so all other keys come from keywords
    rcases AttributePlan.plainKey_mem_of_prepare ht.prepared he' with hold | hplain
    · obtain ⟨entry, hentry, -⟩ := TagVisit.key_seedOf hold
      rw [hseed] at hentry
      cases hentry
    · rw [hgiven] at hplain
      obtain ⟨keyword, hkeyword, hwritten, hother⟩ := keyword_of_mem_plain hplain
      have hp1 : p.1 = attributeName keyword := by
        rw [hname, ← hkey, hwritten]
        rfl
      refine ⟨Or.inr ⟨keyword, hkeyword, hp1⟩, ?_⟩
      have hnamed := attributeName_named (hkeywords keyword hkeyword)
      rw [← hp1] at hnamed hother
      rcases hnamed.formed hother with hformed | ⟨hempty, rfl⟩
      · exact Or.inl hformed
      · exact Or.inr ⟨hempty, isSome_of_mem_writtenPairs hp hempty, hkeyword⟩

/-- A keyword that is an identifier names an event or a well-formed attribute, but for the lone
underscore, which gives the empty name. So what is painted of an element of a factory begins with
its tag and well-formed names, each alone or with a quoted value; an empty name is there only with a
value, and only if the lone underscore was a keyword. -/
theorem element_openTag {factory tag : String} (htag : (factory, tag) ∈ tags)
    (children : List (Value C)) {keywords : Table (Value C)}
    (hkeywords : ∀ keyword ∈ keywords.map Prod.fst, IsKeyword keyword) :
    (∀ keyword ∈ keywords.map Prod.fst, Named keyword (attributeName keyword)) ∧
      ∀ (B : Behaviour C σ) (limit levels : Nat) (canvas after : Canvas C σ),
        canvas.press.cache.Faithful →
        Renderer.paint B limit levels (element tag children keywords) canvas = (.ok (), after) →
        ∃ attributes behind,
          after.markup =
            canvas.markup ++ ("<" ++ tag ++ printAttributes attributes ++ ">") ++ behind ∧
          ∀ p ∈ attributes, Formed keywords p := by
  refine ⟨fun keyword hkeyword => attributeName_named (hkeywords keyword hkeyword), ?_⟩
  intro B limit levels canvas after hfaithful hpaint
  have hname := namesTag_of_mem_tags htag
  have hshape := shape_element (ne_fragment_of_namesTag hname) children keywords
  obtain ⟨t, behind, ht, hselector, hgiven, hmarkup⟩ :=
    Renderer.exists_openTag_of_paint hshape hfaithful hpaint
  have hbare := tag_of_sound hname ht hselector
  refine ⟨writtenPairs (t.marked canvas.recorder).1, behind, ?_, ?_⟩
  · rw [hmarkup]
    unfold TagVisit.label Label.openTag
    rw [hbare]
  · exact formed_of_mem_marked hkeywords ht (by rw [hbare]) hgiven canvas.recorder

/-- One keyword of every kind. -/
def stampKeywords : Table (Value Nat) :=
  [("class_", .str "a"), ("data_user_id", .int 7), ("on_click", .callable (.sample "h")),
    ("_", .str "x")]

def stampButton : Value Nat :=
  element "button" [.str "Go"] stampKeywords

/-- The canvas that the button is painted on. -/
def stampCanvas : Canvas Nat Unit :=
  ⟨"<p>", some (.start Vocabulary.idStem), .start 10 ()⟩

theorem element_openTag_stampButton :
    ("button", "button") ∈ tags ∧
      (∀ keyword ∈ stampKeywords.map Prod.fst, IsKeyword keyword) ∧
      (∃ attributes behind,
        (Renderer.paint .echo 100 3 stampButton stampCanvas).2.markup =
          "<p>" ++ ("<" ++ "button" ++ printAttributes attributes ++ ">") ++ behind ∧
        ∀ p ∈ attributes, Formed stampKeywords p) ∧
      (Renderer.paint .echo 100 3 stampButton stampCanvas).2.markup =
        "<p><button class=\"a\" data-user-id=\"7\" =\"x\" data-hiccpy-id=\"hiccpy-1\">Go" ++
          "</button>" := by
  have hfactory : ("button", "button") ∈ tags := by decide +kernel
  have hkeywords : ∀ keyword ∈ stampKeywords.map Prod.fst, IsKeyword keyword := by
    decide +kernel
  have hfaithful : stampCanvas.press.cache.Faithful :=
    (Press.Reached.start (C := Nat) 10 ()).faithful
  have hsome : (Renderer.paint .echo 100 3 stampButton stampCanvas).1.toOption = some () := by
    decide +kernel
  refine ⟨hfactory, hkeywords, ?_, by decide +kernel⟩
  exact (element_openTag hfactory [.str "Go"] hkeywords).2 .echo 100 3 stampCanvas _ hfaithful
    (Attempt.apply_eq_of_toOption hsome)

/-- The lone underscore gives an attribute without a name. -/
theorem lone_underscore_nameless :
    IsKeyword "_" ∧ attributeName "_" = "" ∧
      (Renderer.html .echo .standard [element "div" [] [("_", .str "x")]]
        (.start 10 () : Press Unit)).1.toOption = some "<div =\"x\"></div>" := by
  refine ⟨?_, ?_, ?_⟩ <;> decide +kernel

end Factory
end MarkupTree
