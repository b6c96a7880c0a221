import MarkupTree.Proofs.Exchange
import MarkupTree.Proofs.Insertion
import MarkupTree.Proofs.Marking

/-!
# Omission — attributes that are False

An attribute that is False is not written, as if it were not given. It is so under every name but
three: a class and a style have a text form, which is the empty text and is written, and the name
of the marker is a place for the marker, if the tag gets one.

* `Entries.Open.writeAttributes_false` says that False is not written.
* `Insists` lists the names under which it leaves something behind.
* `Renderer.false_omitted` says that it is omitted under all others, wherever the tag stands.
-/

namespace MarkupTree

variable {C σ : Type}

open Entries

/-! ## Writing False -/

theorem writeAttributes_cons (e : Value C × Value C) (rest : Entries C) :
    writeAttributes (e :: rest) = (do
      let written ← writeAttribute e.1.text e.2
      let others ← writeAttributes rest
      return (if written = "" then "" else " " ++ written) ++ others) := rfl

theorem writeAttributes_append (es es' : Entries C) :
    writeAttributes (es ++ es') = (do
      let written ← writeAttributes es
      let others ← writeAttributes es'
      return written ++ others) := by
  induction es with
  | nil =>
      show writeAttributes es' = (writeAttributes es' >>= fun others => .ok ("" ++ others))
      cases writeAttributes es' <;> simp [bind, Except.bind]
  | cons e rest ih =>
      rw [List.cons_append, writeAttributes_cons, writeAttributes_cons, ih]
      cases writeAttribute e.1.text e.2 <;> cases writeAttributes rest <;>
        cases writeAttributes es' <;>
        simp [bind, Except.bind, pure, Except.pure, String.append_assoc]

/-- Nothing is written of False. -/
theorem Entries.Open.writeAttributes_false {key : Value C} {name : String}
    {form : Value C → Value C} {es : Option (Value C) → Entries C} (h : Open key name form es)
    (hform : form (.bool false) = .bool false) :
    writeAttributes (es (some (.bool false))) = writeAttributes (es none) := by
  obtain ⟨front, back, -, hcut⟩ := h
  have hslot : writeAttributes (slot key (some (.bool false))) =
      writeAttributes (slot key none : Entries C) := rfl
  rw [hcut, hcut, Option.map_some, hform, Option.map_none]
  simp only [writeAttributes_append, hslot]

namespace Renderer

open Canvas

variable {bound : Bool} {plan : AttributePlan C} {attributes attributes' : Entries C}

/-- Attributes coincide if they are written the same, with and without a marker, as far as the tag
gets one. -/
theorem writtenAttributes_coincide_of
    (hplain : (bound && !plan.events.isEmpty) = false →
      writeAttributes attributes = writeAttributes attributes')
    (hmarked : (bound && !plan.events.isEmpty) = true → ∀ id : String,
      writeAttributes (attributes.put (.str Vocabulary.marker) (.str id)) =
        writeAttributes (attributes'.put (.str Vocabulary.marker) (.str id))) :
    Coincide bound
      (writtenAttributes { plan with attributes } : Attempt (Canvas C σ) C String)
      (writtenAttributes { plan with attributes := attributes' }) := by
  intro canvas hcanvas
  refine ⟨?_, (writtenAttributes_coincide _ canvas hcanvas).2⟩
  let visit (attributes : Entries C) : TagVisit C :=
    ⟨"", none, ⟨"", []⟩, { plan with attributes }⟩
  refine (writtenAttributes_apply (visit attributes) canvas).trans
    (Eq.trans ?_ (writtenAttributes_apply (visit attributes') canvas).symm)
  have hrecorder := hcanvas.recorder
  unfold TagVisit.marked
  cases hfound : canvas.recorder with
  | none =>
      have hunbound : bound = false := by
        rw [← hrecorder, hfound]
        rfl
      exact congrArg (·, _) (hplain (by rw [hunbound, Bool.false_and]))
  | some recorder =>
      have hbound : bound = true := by
        rw [← hrecorder, hfound]
        rfl
      rw [hbound, Bool.true_and] at hplain hmarked
      dsimp only [visit]
      cases hevents : plan.events.isEmpty with
      | true => exact congrArg (·, _) (hplain (by rw [hevents]; rfl))
      | false => exact congrArg (·, _) (hmarked (by rw [hevents]; rfl) _)

section InnerMarkup

variable {seed before behind : Entries C} {key : Value C}

/-- Inner markup that does not count leaves the place to what stands inside. -/
theorem uncounted_coincide (hkey : key.string? = some Vocabulary.innerHtml)
    (hseed : Fresh Vocabulary.innerHtml seed)
    (hnew : Fresh Vocabulary.innerHtml (before ++ behind)) {v : Value C} (hpresent : v.Present)
    (hcounts : v.isTruthy = false) {inside : Attempt (Canvas C σ) C Unit}
    (hinside : Coincide bound inside inside) (tag : Tag String) :
    Coincide bound
      (ofExcept (AttributePlan.prepare seed (some (before ++ slot key (some v) ++ behind))) >>=
        finishTag inside tag)
      (ofExcept (AttributePlan.prepare seed (some (before ++ slot key none ++ behind))) >>=
        finishTag inside tag) := by
  have hgiven := Open.intro hnew key
  have hv : ∀ w ∈ some v, w.Present := by simpa using hpresent
  refine Coincide.bind_map (AttributePlan.prepare_innerMarkup hkey hseed hgiven hv)
    (AttributePlan.prepare_innerMarkup hkey hseed hgiven (by simp)) fun plan _ => ?_
  rw [finishTag_eq inside tag { plan with innerHtml := (some v).getD .null }, Option.getD_some,
    hcounts]
  exact finishTag_coincide hinside tag rfl (writtenAttributes_coincide _)

end InnerMarkup

/-! ## Tags with a False attribute -/

/-- The names under which False leaves something behind: those with text forms, and that of the
marker in a tag that gets one. -/
def Insists (marked : Bool) (name : String) : Prop :=
  name = "class" ∨ name = "style" ∨ marked = true ∧ name = "data-hiccpy-id"

section Tags

variable {B : Behaviour C σ} {selector : String} {before behind : Entries C} {key : Value C}
  {name : String} {children : List (Value C)} {lit : Option (Value C) → Value C}
  (hlit : ∀ x, (lit x).shape =
    .ok (.tag selector (some (before ++ slot key x ++ behind)) children))
  (hkey : key.string? = some name) (hnew : Fresh name (before ++ behind))
  (hsupplied : ∀ tag, Tag.parse selector = .ok tag → name ∉ tag.attributes.map Prod.fst)

theorem fresh_seedOf {tag : Tag String} (h : name ∉ tag.attributes.map Prod.fst) :
    Fresh name (seedOf tag : Entries C) := by
  intro e he hname
  obtain ⟨e', he', rfl⟩ := List.mem_map.1 he
  obtain rfl : e'.1 = name := Option.some.inj hname
  exact h (List.mem_map_of_mem he')

/-- Whether a tag gets a marker depends on its explicit handlers. -/
theorem isEmpty_events_of_prepare {seed : Entries C} {plan : AttributePlan C}
    (h : AttributePlan.prepare seed (some (before ++ slot key none ++ behind)) = .ok plan) :
    plan.events.isEmpty = (before ++ behind).handlers.isEmpty := by
  rw [(AttributePlan.prepare_eq_ok h).2.1, Bool.eq_iff_iff]
  simp [Table.ofPairs_eq_nil, slot]

include hlit hkey hnew hsupplied in
/-- Under any other name False is painted as if it were not there. -/
theorem coincide_omitted (bound : Bool)
    (hname : ¬ Insists (bound && !(before ++ behind).handlers.isEmpty) name) (limit levels : Nat) :
    Coincide bound (paint B limit levels (lit (some (.bool false))))
      (paint B limit levels (lit none)) := by
  refine tag_coincide (hlit _) (hlit none) ?_ limit levels
  intro tag hparse paintChildren hchildren
  have hseed := fresh_seedOf (C := C) (hsupplied tag hparse)
  have hgiven := Open.intro hnew key
  have hform : AttributePlan.form name (.bool false : Value C) = .bool false := by
    unfold AttributePlan.form
    rw [if_neg fun h => hname (Or.inr (Or.inl h)), if_neg fun h => hname (Or.inl h)]
  have hpresent : ∀ v ∈ some (Value.bool false : Value C), v.Present := by
    rintro v ⟨⟩
    rfl
  cases hevent : eventName? key with
  | some event =>
      have hquiet : ∀ v ∈ some (Value.bool false : Value C), v.callable? = none := by
        rintro v ⟨⟩
        rfl
      have hsame : AttributePlan.prepare (seedOf tag)
            (some (before ++ slot key (some (.bool false)) ++ behind)) =
          AttributePlan.prepare (seedOf tag) (some (before ++ slot key none ++ behind)) :=
        AttributePlan.prepare_event hkey hevent hgiven hpresent hquiet
      rw [hsame]
      exact Coincide.bind_except fun plan _ =>
        finishTag_coincide (hchildren children) tag rfl (writtenAttributes_coincide plan)
  | none =>
      by_cases hinner : name = Vocabulary.innerHtml
      · subst hinner
        exact uncounted_coincide hkey hseed hnew (hpresent _ rfl) rfl (hchildren children) tag
      · obtain ⟨attributes, hattributes, hprepare⟩ :=
          AttributePlan.prepare_written hkey hevent hinner hseed hgiven
        have hwithout := hprepare none (by simp)
        refine Coincide.bind_map (hprepare _ hpresent) hwithout fun plan hplan => ?_
        refine finishTag_coincide (hchildren children) tag rfl (writtenAttributes_coincide_of ?_ ?_)
        · exact fun _ => hattributes.writeAttributes_false hform
        · intro hmarked id
          have hother : (Value.str Vocabulary.marker : Value C).string? ≠ some name := by
            intro hmarker
            refine hname (Or.inr (Or.inr ⟨?_, (Option.some.inj hmarker).symm⟩))
            rw [← isEmpty_events_of_prepare hplan]
            exact hmarked
          exact (hattributes.put hkey hother (.str id)).writeAttributes_false hform

include hlit hkey hnew hsupplied in
/-- Under these names False is painted as the empty text. -/
theorem coincide_emptied (bound : Bool)
    (hname : Insists (bound && !(before ++ behind).handlers.isEmpty) name) (limit levels : Nat) :
    Coincide bound (paint B limit levels (lit (some (.bool false))))
      (paint B limit levels (lit (some (.str "")))) := by
  refine tag_coincide (hlit _) (hlit _) ?_ limit levels
  intro tag hparse paintChildren hchildren
  have hseed := fresh_seedOf (C := C) (hsupplied tag hparse)
  have hplainName : ¬ "on:".toList <+: name.toList ∧ name ≠ Vocabulary.innerHtml := by
    rcases hname with rfl | rfl | ⟨-, rfl⟩ <;> decide
  have hevent : eventName? key = none := by
    rw [AttributePlan.eventName?_eq hkey, if_neg hplainName.1]
  obtain ⟨attributes, hattributes, hprepare⟩ :=
    AttributePlan.prepare_written hkey hevent hplainName.2 hseed (Open.intro hnew key)
  refine Coincide.bind_map (hprepare (some (.bool false)) ?_) (hprepare (some (.str "")) ?_)
    fun plan hplan => ?_
  · rintro v ⟨⟩
    rfl
  · rintro v ⟨⟩
    rfl
  refine finishTag_coincide (hchildren children) tag rfl ?_
  have htext : name = "class" ∨ name = "style" →
      attributes (some (.bool false)) = attributes (some (.str "")) := by
    rintro (rfl | rfl) <;> exact hattributes.eq_of_form rfl
  rcases hname with hclass | hstyle | ⟨hmarked, rfl⟩
  · rw [htext (Or.inl hclass)]
    exact writtenAttributes_coincide _
  · rw [htext (Or.inr hstyle)]
    exact writtenAttributes_coincide _
  · -- the marker stands in the place of either value
    rw [← isEmpty_events_of_prepare hplan] at hmarked
    refine writtenAttributes_coincide_of (fun hplain => ?_) fun _ id => ?_
    · rw [hmarked] at hplain
      cases hplain
    · exact congrArg writeAttributes (hattributes.put_self hkey _ _ (.str id))

end Tags

/-- False under a string that neither the explicit mapping nor the selector holds: whatever stands
before and behind it, and wherever the tag stands, a rendering is the same as without it, unless the
string is one of those under which something is left behind. Then the rendering is the same as with
the empty text. -/
theorem false_omitted (B : Behaviour C σ) {selector : String} {before behind : Entries C}
    {key : Value C} {name : String} {children : List (Value C)}
    {lit : Option (Value C) → Value C}
    (hlit : ∀ x, (lit x).shape =
      .ok (.tag selector (some (before ++ slot key x ++ behind)) children))
    (hkey : key.string? = some name) (hnew : Fresh name (before ++ behind))
    (hsupplied : ∀ tag, Tag.parse selector = .ok tag → name ∉ tag.attributes.map Prod.fst) :
    (¬ Insists false name → SameHtml B (lit (some (.bool false))) (lit none)) ∧
      (¬ Insists (!(before ++ behind).handlers.isEmpty) name →
        SameRendering B (lit (some (.bool false))) (lit none)) ∧
      (Insists false name → SameHtml B (lit (some (.bool false))) (lit (some (.str "")))) ∧
      (Insists (!(before ++ behind).handlers.isEmpty) name →
        SameRendering B (lit (some (.bool false))) (lit (some (.str "")))) := by
  refine ⟨fun hname => ?_, fun hname => ?_, fun hname => ?_, fun hname => ?_⟩
  · exact sameHtml_of_coincide (coincide_omitted hlit hkey hnew hsupplied false hname)
  · exact sameRendering_of_coincide (coincide_omitted hlit hkey hnew hsupplied true hname)
  · exact sameHtml_of_coincide (coincide_emptied hlit hkey hnew hsupplied false hname)
  · exact sameRendering_of_coincide (coincide_emptied hlit hkey hnew hsupplied true hname)

/-- A tag with a handler and with an attribute between others. -/
def hideable (x : Option (Value Nat)) : Value Nat :=
  .list [.str "p.a", .mapping ([(.str "id", .str "i")] ++ slot (.str "hidden") x ++
    [(.str "on:click", .callable (.sample "h"))]), .str "z"]

theorem false_omitted_hidden :
    (∀ x, (hideable x).shape = .ok (.tag "p.a" (some ([(.str "id", .str "i")] ++
        slot (.str "hidden") x ++ [(.str "on:click", .callable (.sample "h"))])) [.str "z"])) ∧
      Fresh "hidden" ([(.str "id", .str "i")] ++
        [(.str "on:click", .callable (.sample "h"))] : Entries Nat) ∧
      (∀ tag, Tag.parse "p.a" = .ok tag → "hidden" ∉ tag.attributes.map Prod.fst) ∧
      render .echo .standard [.str "div", hideable (some (.bool false))] (.start 10 ()) =
        render .echo .standard [.str "div", hideable none] (.start 10 ()) ∧
      (render .echo .standard [.str "div", hideable (some (.bool false))]
        (.start 10 ())).1.toOption.map Rendering.markup =
        some "<div><p class=\"a\" id=\"i\" data-hiccpy-id=\"hiccpy-1\">z</p></div>" := by
  have hlit : ∀ x, (hideable x).shape = .ok (.tag "p.a" (some ([(.str "id", .str "i")] ++
      slot (.str "hidden") x ++ [(.str "on:click", .callable (.sample "h"))])) [.str "z"]) :=
    fun _ => rfl
  have hnew : Fresh "hidden" ([(.str "id", .str "i")] ++
      [(.str "on:click", .callable (.sample "h"))] : Entries Nat) := by
    simp [Fresh, Value.string?]
  have hsupplied : ∀ tag, Tag.parse "p.a" = .ok tag → "hidden" ∉ tag.attributes.map Prod.fst := by
    intro tag htag
    have hread : (Tag.parse "p.a").toOption.map (fun tag => tag.attributes.map Prod.fst) =
        some ["class"] := by
      decide +kernel
    rw [htag] at hread
    have hkeys : tag.attributes.map Prod.fst = ["class"] := Option.some.inj hread
    rw [hkeys]
    decide
  have hsame := (false_omitted (.echo : Behaviour Nat Unit) hlit rfl hnew hsupplied).2.1
    (by simp [Insists])
  have hplace : Exchanged (hideable (some (.bool false))) (hideable none)
      (root [.str "div", hideable (some (.bool false))]) (root [.str "div", hideable none]) :=
    .inside [] [] (.tag "div" none) .here rfl rfl
  refine ⟨hlit, hnew, hsupplied, hsame .standard _ _ hplace _ (.start 10 ()), ?_⟩
  decide +kernel

/-- A class that is False is written as an empty class, and a marker takes the place of a False
value under its name. -/
theorem false_left_behind :
    (html .echo .standard [.list [.str "div", .mapping [(.str "class", .bool false)]]]
        (.start 10 () : Press Unit)).1.toOption = some "<div class=\"\"></div>" ∧
      (html .echo .standard [.list [.str "div", .mapping []]]
        (.start 10 () : Press Unit)).1.toOption = some "<div></div>" ∧
      (render .echo .standard [.list [.str "b", .mapping [(.str "data-hiccpy-id", .bool false),
        (.str "on:click", .callable (.sample "h")), (.str "title", .str "t")]]]
        (.start 10 () : Press Unit)).1.toOption.map Rendering.markup =
        some "<b data-hiccpy-id=\"hiccpy-1\" title=\"t\"></b>" ∧
      (render .echo .standard [.list [.str "b", .mapping [
        (.str "on:click", .callable (.sample "h")), (.str "title", .str "t")]]]
        (.start 10 () : Press Unit)).1.toOption.map Rendering.markup =
        some "<b title=\"t\" data-hiccpy-id=\"hiccpy-1\"></b>" := by
  refine ⟨?_, ?_, ?_, ?_⟩ <;> decide +kernel

end Renderer
end MarkupTree
