import MarkupTree.Proofs.Omission

/-!
# Filling — inner markup in the place of children

A tag may be given inner markup: a string, or a value that stands for markup. Either it counts,
and then it is written between the open and the close tag as it is and nothing of the children
happens, or it does not count, and then it is as if it were not there. An empty string does not
count, nor does empty safe markup. Renderings and containers count, also where their markup is
empty, and other objects count as they say themselves, whatever their markup is.

* `Value.markup?` is the markup that a value is or stands for, `Value.counts` says whether it
  counts.
* `Filled` compares a tag around nothing with the tag around some markup.
* `Renderer.innerMarkup_decides` says which of both it is, for every tag that is not void.
-/

namespace MarkupTree

variable {C σ : Type}

open Entries

/-! ## Markup that counts -/

namespace Value

/-- The markup that a value stands for, or the string that it is. -/
def markup? (v : Value C) : Option String :=
  v.html?.or v.string?

/-- Whether a value counts as inner markup. It is the markup that decides for strings and for what
is known to be safe. -/
def counts (v : Value C) (markup : String) : Bool :=
  match v with
  | .str _ | .markupStr _ | .safe _ => markup != ""
  | .markup _ present => present
  | _ => true

variable {v : Value C} {markup : String}

theorem isTruthy_of_markup? (h : v.markup? = some markup) : v.isTruthy = v.counts markup := by
  cases v <;> simp [markup?, html?, string?] at h <;> subst h <;> simp [isTruthy, counts]

theorem present_of_markup? (h : v.markup? = some markup) : v.Present := by
  cases v <;> first | rfl | cases h

end Value

namespace Renderer

open Canvas

theorem innerMarkup_of_markup? {v : Value C} {markup : String} (h : v.markup? = some markup) :
    innerMarkup v = markup := by
  cases v <;> simp [Value.markup?, Value.html?, Value.string?] at h <;> subst h <;> rfl

/-! ## Tags around markup -/

end Renderer

/-- The canvas when a tag is written around some markup. -/
def Canvas.wrapped (canvas : Canvas C σ) (tag : Tag String) (attributes markup : String) :
    Canvas C σ :=
  { canvas with
    markup := canvas.markup ++ ("<" ++ tag.name ++ attributes ++ ">") ++ markup ++
      ("</" ++ tag.name ++ ">") }

/-- A tag is refused with nothing called, or it is written around nothing in one case and around
some markup in the other one, with nothing called and everything else the same. -/
inductive Filled (selector markup : String) (canvas : Canvas C σ) :
    Except (Fault C) Unit × Canvas C σ → Except (Fault C) Unit × Canvas C σ → Prop
  | refused (fault : Fault C) (after : Canvas C σ) :
    after.press.session = canvas.press.session →
    Filled selector markup canvas (.error fault, after) (.error fault, after)
  | filled (tag : Tag String) (attributes : String) (after : Canvas C σ) :
    Tag.parse selector = .ok tag → after.markup = canvas.markup →
    after.press.session = canvas.press.session →
    Filled selector markup canvas (.ok (), after.wrapped tag attributes "")
      (.ok (), after.wrapped tag attributes markup)

namespace Renderer

open Canvas

/-- A tag in which only markup is written. -/
theorem finishTag_write {tag : Tag String} (hvoid : Vocabulary.isVoid tag.name = false)
    (plan : AttributePlan C) (markup : String) (canvas : Canvas C σ) :
    finishTag (write markup) tag { plan with innerHtml := .null } canvas =
      match writtenAttributes plan canvas with
      | (.error fault, after) => (.error fault, after)
      | (.ok attributes, after) => (.ok (), after.wrapped tag attributes markup) := by
  unfold finishTag
  cases hwritten : writtenAttributes plan canvas with
  | mk answer after =>
      have hsame : writtenAttributes { plan with innerHtml := .null } canvas = (answer, after) :=
        hwritten
      cases answer with
      | error fault => exact Attempt.bind_apply_error hsame _
      | ok attributes =>
          rw [Attempt.bind_apply_ok hsame]
          simp only [hvoid]
          rfl

section Tags

variable {B : Behaviour C σ} {selector : String} {before behind : Entries C} {key : Value C}
  {lit : List (Value C) → Option (Value C) → Value C} {v : Value C} {markup : String}
  (hlit : ∀ children x, (lit children x).shape =
    .ok (.tag selector (some (before ++ slot key x ++ behind)) children))
  (hkey : key.string? = some "dangerouslySetInnerHTML")
  (hnew : Fresh "dangerouslySetInnerHTML" (before ++ behind))
  (hmarkup : v.markup? = some markup)

/-- No selector supplies inner markup. -/
theorem fresh_innerMarkup {tag : Tag String} (h : Tag.parse selector = .ok tag) :
    Fresh "dangerouslySetInnerHTML" (seedOf tag : Entries C) := by
  refine fresh_seedOf fun hmem => ?_
  obtain ⟨e, he, hname⟩ := List.mem_map.1 hmem
  rcases (Tag.of_parse_eq_ok h).2 e he with hid | hclass
  · rw [hid] at hname
    exact absurd hname (by decide)
  · rw [hclass] at hname
    exact absurd hname (by decide)

include hlit hkey hnew in
/-- With inner markup that does not count a tag is painted as without it. -/
theorem coincide_uncounted (B : Behaviour C σ) (bound : Bool) (hpresent : v.Present)
    (hcounts : v.isTruthy = false) (children : List (Value C)) (limit levels : Nat) :
    Coincide bound (paint B limit levels (lit children (some v)))
      (paint B limit levels (lit children none)) := by
  refine tag_coincide (hlit _ _) (hlit _ _) ?_ limit levels
  intro tag hparse paintChildren hchildren
  exact uncounted_coincide hkey (fresh_innerMarkup hparse) hnew hpresent hcounts
    (hchildren children) tag

include hlit hkey hnew in
/-- With inner markup that counts the children of a tag are not looked at. -/
theorem coincide_counted (B : Behaviour C σ) (bound : Bool) (hpresent : v.Present)
    (hcounts : v.isTruthy = true) (children others : List (Value C)) (limit levels : Nat) :
    Coincide bound (paint B limit levels (lit children (some v)))
      (paint B limit levels (lit others (some v))) := by
  refine tag_coincide (hlit _ _) (hlit _ _) ?_ limit levels
  intro tag hparse paintChildren _
  have hv : ∀ w ∈ some v, w.Present := by simpa using hpresent
  have hprepare := AttributePlan.prepare_innerMarkup hkey (fresh_innerMarkup hparse)
    (Open.intro hnew key) hv
  refine Coincide.bind_map hprepare hprepare fun plan _ => ?_
  rw [finishTag_eq, finishTag_eq (paintChildren others), Option.getD_some, hcounts]
  exact finishTag_coincide (.write _) tag rfl (writtenAttributes_coincide _)

include hkey hnew hmarkup in
/-- A tag that is read is refused, or it is written around nothing or around the inner markup. -/
theorem finish_filled {tag : Tag String} (hread : Tag.parse selector = .ok tag)
    (hvoid : Vocabulary.isVoid tag.name = false) (hcounts : v.isTruthy = true)
    (inside : Attempt (Canvas C σ) C Unit) {canvas between : Canvas C σ}
    (hbetween : between.markup = canvas.markup)
    (hsession : between.press.session = canvas.press.session) :
    Filled selector markup canvas
      ((ofExcept (AttributePlan.prepare (seedOf tag) (some (before ++ slot key none ++ behind))) >>=
        finishTag (pure ()) tag) between)
      ((ofExcept (AttributePlan.prepare (seedOf tag)
        (some (before ++ slot key (some v) ++ behind))) >>= finishTag inside tag) between) := by
  have hv : ∀ w ∈ some v, w.Present := by simpa using Value.present_of_markup? hmarkup
  have hseed := fresh_innerMarkup (C := C) hread
  have hnone := AttributePlan.prepare_innerMarkup (x := none) hkey hseed (Open.intro hnew key)
    (by simp)
  have hsome := AttributePlan.prepare_innerMarkup hkey hseed (Open.intro hnew key) hv
  rw [hsome]
  cases hplan : AttributePlan.prepare (seedOf tag) (some (before ++ slot key none ++ behind)) with
  | error fault => exact .refused fault between hsession
  | ok plan =>
      rw [hplan] at hnone
      have hnull : plan.innerHtml = .null := congrArg AttributePlan.innerHtml (Except.ok.inj hnone)
      have hbare : finishTag (pure ()) tag plan between =
          finishTag (write "") tag { plan with innerHtml := .null } between := by
        rw [finishTag_eq, hnull, write_empty]
        rfl
      have hfull : finishTag inside tag { plan with innerHtml := v } between =
          finishTag (write markup) tag { plan with innerHtml := .null } between := by
        rw [finishTag_eq, if_pos hcounts, innerMarkup_of_markup? hmarkup]
      show Filled selector markup canvas (finishTag (pure ()) tag plan between)
        (finishTag inside tag { plan with innerHtml := v } between)
      rw [hbare, hfull, finishTag_write hvoid, finishTag_write hvoid]
      have hwritten := writtenAttributes_apply ⟨selector, none, tag, plan⟩ between
      dsimp only at hwritten
      rw [hwritten]
      cases writeAttributes (TagVisit.marked between.recorder ⟨selector, none, tag, plan⟩).1 with
      | error fault => exact .refused fault _ hsession
      | ok attributes => exact .filled tag attributes _ hread hbetween hsession

include hlit hkey hnew hmarkup in
/-- With inner markup that counts a tag is painted as the tag without it and without children, but
for that markup between its open and its close tag. -/
theorem paint_filled
    (hvoid : ∀ tag, Tag.parse selector = .ok tag → Vocabulary.isVoid tag.name = false)
    (hcounts : v.isTruthy = true) (children : List (Value C)) (limit levels : Nat)
    {canvas : Canvas C σ} (hfaithful : canvas.press.cache.Faithful) :
    Filled selector markup canvas (paint B limit levels (lit [] none) canvas)
      (paint B limit levels (lit children (some v)) canvas) := by
  cases levels with
  | zero => exact .refused (.tooDeep limit) canvas rfl
  | succ levels =>
      rw [paint_of_shape B limit levels (hlit [] none),
        paint_of_shape B limit levels (hlit children (some v)), paintShape_tag, paintShape_tag,
        paintTag_eq, paintTag_eq, Attempt.bind_apply, Attempt.bind_apply, readSelector_apply]
      unfold Press.readStored
      cases hparse : canvas.press.cache.parse Tag.parse selector with
      | error fault => cases fault <;> exact .refused _ _ rfl
      | ok found =>
          obtain ⟨tag, stored, left⟩ := found
          have hread := (hfaithful.of_parse_ok hparse).1
          exact finish_filled hkey hnew hmarkup hread (hvoid tag hread) hcounts _ rfl rfl

end Tags

/-- Inner markup that is a string or stands for markup, in a tag that is not void. If it does not
count it is as if it were not there, and the children are rendered. If it counts it is written
between the open and the close tag as it is, whatever is on the canvas already; the children are not
looked at, so that others could stand there, and nothing is called. -/
theorem innerMarkup_decides (B : Behaviour C σ) {selector : String} {before behind : Entries C}
    {key : Value C} {lit : List (Value C) → Option (Value C) → Value C}
    (hlit : ∀ children x, (lit children x).shape =
      .ok (.tag selector (some (before ++ slot key x ++ behind)) children))
    (hkey : key.string? = some "dangerouslySetInnerHTML")
    (hnew : Fresh "dangerouslySetInnerHTML" (before ++ behind))
    (hvoid : ∀ tag, Tag.parse selector = .ok tag → Vocabulary.isVoid tag.name = false)
    {v : Value C} {markup : String} (hmarkup : v.markup? = some markup)
    (children others : List (Value C)) :
    (v.counts markup = false →
        SameHtml B (lit children (some v)) (lit children none) ∧
          SameRendering B (lit children (some v)) (lit children none)) ∧
      (v.counts markup = true →
        (SameHtml B (lit children (some v)) (lit others (some v)) ∧
          SameRendering B (lit children (some v)) (lit others (some v))) ∧
        ∀ (limit levels : Nat) (canvas : Canvas C σ), canvas.press.cache.Faithful →
          Filled selector markup canvas (paint B limit levels (lit [] none) canvas)
            (paint B limit levels (lit children (some v)) canvas)) := by
  have hpresent := Value.present_of_markup? hmarkup
  rw [← Value.isTruthy_of_markup? hmarkup]
  constructor
  · intro hcounts
    have hsame := fun bound =>
      coincide_uncounted hlit hkey hnew B bound hpresent hcounts children
    exact ⟨sameHtml_of_coincide (hsame false), sameRendering_of_coincide (hsame true)⟩
  · intro hcounts
    have hsame := fun bound =>
      coincide_counted hlit hkey hnew B bound hpresent hcounts children others
    refine ⟨⟨sameHtml_of_coincide (hsame false), sameRendering_of_coincide (hsame true)⟩, ?_⟩
    intro limit levels canvas hfaithful
    exact paint_filled hlit hkey hnew hmarkup hvoid hcounts children limit levels hfaithful

/-- A tag with a handler, with perhaps some inner markup between its attributes. -/
def fillable (children : List (Value Nat)) (x : Option (Value Nat)) : Value Nat :=
  .list (.str "div" :: .mapping ([(.str "title", .str "t")] ++
    slot (.str "dangerouslySetInnerHTML") x ++
      [(.str "on:click", .callable (.sample "h"))]) :: children)

/-- A call of a component. -/
def cardCall : Value Nat :=
  .list [.callable (.sample "Card"), .int 7]

theorem innerMarkup_decides_card :
    (∀ children x, (fillable children x).shape = .ok (.tag "div"
        (some ([(.str "title", .str "t")] ++ slot (.str "dangerouslySetInnerHTML") x ++
          [(.str "on:click", .callable (.sample "h"))])) children)) ∧
      Fresh "dangerouslySetInnerHTML" ([(.str "title", .str "t")] ++
        [(.str "on:click", .callable (.sample "h"))] : Entries Nat) ∧
      (∀ tag, Tag.parse "div" = .ok tag → Vocabulary.isVoid tag.name = false) ∧
      html .echo .standard [.str "p", fillable [cardCall] (some (.safe ""))] (.start 10 ()) =
        html .echo .standard [.str "p", fillable [cardCall] none] (.start 10 ()) ∧
      (html .echo .standard [.str "p", fillable [cardCall] (some (.safe ""))]
        (.start 10 ())).1.toOption = some "<p><div title=\"t\">7</div></p>" ∧
      html .echo .standard [.str "p", fillable [cardCall] (some (.container "k" "<i>"))]
          (.start 10 ()) =
        html .echo .standard [.str "p", fillable [] (some (.container "k" "<i>"))]
          (.start 10 ()) ∧
      (html .echo .standard [.str "p", fillable [] (some (.container "k" "<i>"))]
        (.start 10 ())).1.toOption = some "<p><div title=\"t\"><i></div></p>" := by
  have hlit : ∀ children x, (fillable children x).shape = .ok (.tag "div"
      (some ([(.str "title", .str "t")] ++ slot (.str "dangerouslySetInnerHTML") x ++
        [(.str "on:click", .callable (.sample "h"))])) children) :=
    fun _ _ => rfl
  have hnew : Fresh "dangerouslySetInnerHTML" ([(.str "title", .str "t")] ++
      [(.str "on:click", .callable (.sample "h"))] : Entries Nat) := by
    simp [Fresh, Value.string?]
  have hvoid : ∀ tag, Tag.parse "div" = .ok tag → Vocabulary.isVoid tag.name = false := by
    intro tag htag
    have hread : (Tag.parse "div").toOption.map (fun tag => Vocabulary.isVoid tag.name) =
        some false := by
      decide +kernel
    rw [htag] at hread
    exact Option.some.inj hread
  have hempty := ((innerMarkup_decides (.echo : Behaviour Nat Unit) hlit rfl hnew hvoid
    (v := .safe "") rfl [cardCall] []).1 rfl).1
  have hfull := ((innerMarkup_decides (.echo : Behaviour Nat Unit) hlit rfl hnew hvoid
    (v := .container "k" "<i>") rfl [cardCall] []).2 rfl).1.1
  refine ⟨hlit, hnew, hvoid, ?_, by decide +kernel, ?_, by decide +kernel⟩
  · exact hempty .standard _ _ (.inside [] [] (.tag "p" none) .here rfl rfl) _ (.start 10 ())
  · exact hfull .standard _ _ (.inside [] [] (.tag "p" none) .here rfl rfl) _ (.start 10 ())

/-- The result of a rendering with no markup still takes the place of the children. -/
theorem empty_rendering_fills :
    (html .echo .standard [.list [.str "div",
          .mapping [(.str "dangerouslySetInnerHTML", Rendering.toValue ⟨"", []⟩)], .str "child"]]
        (.start 10 () : Press Unit)).1.toOption = some "<div></div>" ∧
      (html .echo .standard [.list [.str "div", .mapping [], .str "child"]]
        (.start 10 () : Press Unit)).1.toOption = some "<div>child</div>" := by
  constructor <;> decide +kernel

end Renderer
end MarkupTree
