import MarkupTree.Proofs.Positions

/-!
# Wellformed — which elements can be rendered

Elements without components are rendered unless something is wrong that can be seen beforehand:
they are nested too deep, something is missing, or a selector is not one.

* `Value.Complete` and `Value.Readable` are what is asked of a single element.
* `Position.Refusal` lists the reasons to refuse an element where it stands.
* `Renderer.html_succeeds_iff` says that elements are rendered unless there is such a reason.
-/

namespace MarkupTree

variable {C σ : Type}

/-! ## Single elements -/

/-- Neither of the two missing values. -/
def Value.Given (v : Value C) : Prop :=
  v ≠ .null ∧ v ≠ .undefined

theorem Value.present_iff_given (v : Value C) : v.Present ↔ v.Given := by
  unfold Present Given
  cases v <;> simp [check]

/-- The element is there, and so is every explicit attribute if it is a tag. -/
structure Value.Complete (v : Value C) : Prop where
  given : v.Given
  attributes : ∀ selector given children, v.presentShape = .tag selector (some given) children →
    ∀ e ∈ given, e.2.Given

/-- The selector is in the grammar, if the element is a tag. -/
def Value.Readable (v : Value C) : Prop :=
  ∀ selector given children, v.presentShape = .tag selector given children →
    Selector.InGrammar selector

/-- Why an element is refused where it stands, if so many levels are allowed. -/
inductive Position.Refusal (limit : Nat) (p : Position C) : Fault C → Prop
  | deep : limit < p.depth → Refusal limit p (.tooDeep limit)
  | null : p.depth ≤ limit → p.element = .null → Refusal limit p .nullElement
  | undefined : p.depth ≤ limit → p.element = .undefined → Refusal limit p .undefinedElement
  | selector {selector : String} {given : Option (Entries C)} {children : List (Value C)}
      {fault : SelectorFault} : p.depth ≤ limit →
      p.element.presentShape = .tag selector given children →
      ¬ Selector.InGrammar selector → Tag.parse selector = .error fault →
      Refusal limit p (.selector fault)
  | attribute {selector : String} {given : Entries C} {children : List (Value C)}
      {key v : Value C} {fault : Fault C} : p.depth ≤ limit →
      p.element.presentShape = .tag selector (some given) children →
      (key, v) ∈ given → ¬ v.Given → Value.checkUnder key v = .error fault →
      Refusal limit p fault

theorem faultsOf_eq_nil_iff {α : Type} (answer : Except (Fault C) α) :
    faultsOf answer = [] ↔ ∃ a, answer = .ok a := by
  cases answer <;> simp [faultsOf]

theorem mem_faultsOf_iff {α : Type} {answer : Except (Fault C) α} {fault : Fault C} :
    fault ∈ faultsOf answer ↔ answer = .error fault := by
  cases answer <;> simp [faultsOf, eq_comm]

/-- A tag has no faults exactly if its selector is in the grammar and no attribute is missing. -/
theorem Shape.faults_tag_eq_nil_iff (selector : String) (given : Option (Entries C))
    (children : List (Value C)) :
    (Shape.tag selector given children).faults = [] ↔
      Selector.InGrammar selector ∧ ∀ e ∈ given.getD [], e.2.Given := by
  have hread : faultsOf ((Tag.parse selector).mapError (Fault.selector (C := C))) = [] ↔
      Selector.InGrammar selector := by
    rw [faultsOf_eq_nil_iff, ← Tag.parse_ok_iff]
    cases Tag.parse selector <;> simp [Except.mapError]
  have hgiven : ∀ e : Value C × Value C, faultsOf (Value.checkUnder e.1 e.2) = [] ↔ e.2.Given := by
    intro e
    rw [faultsOf_eq_nil_iff, ← Value.present_iff_given, ← Value.checkUnder_eq_ok_iff e.1]
    exact ⟨fun ⟨_, h⟩ => h, fun h => ⟨_, h⟩⟩
  simp only [faults, List.append_eq_nil_iff, List.flatMap_eq_nil_iff, hread, hgiven]

/-- An element has no faults exactly if nothing is missing and its selector is in the grammar. -/
theorem Value.faults_eq_nil_iff (v : Value C) : v.faults = [] ↔ v.Complete ∧ v.Readable := by
  have hcheck : faultsOf v.check = [] ↔ v.Given := by
    rw [faultsOf_eq_nil_iff, ← present_iff_given]
    exact ⟨fun ⟨_, h⟩ => h, fun h => ⟨_, h⟩⟩
  unfold faults
  rw [List.append_eq_nil_iff, hcheck]
  constructor
  · rintro ⟨hgiven, hshape⟩
    refine ⟨⟨hgiven, ?_⟩, ?_⟩
    · intro selector given children hv
      rw [hv, Shape.faults_tag_eq_nil_iff] at hshape
      exact hshape.2
    · intro selector given children hv
      rw [hv, Shape.faults_tag_eq_nil_iff] at hshape
      exact hshape.1
  · rintro ⟨hcomplete, hreadable⟩
    refine ⟨hcomplete.given, ?_⟩
    cases hv : v.presentShape with
    | tag selector given children =>
        refine (Shape.faults_tag_eq_nil_iff selector given children).2 ⟨hreadable _ _ _ hv, ?_⟩
        cases given with
        | none => simp
        | some given => exact hcomplete.attributes selector given children hv
    | _ => rfl

namespace Position

theorem faults_eq_nil_iff (limit : Nat) (p : Position C) :
    p.faults limit = [] ↔ p.depth ≤ limit ∧ p.element.Complete ∧ p.element.Readable := by
  unfold faults
  split
  · next hdepth => simp [hdepth, Value.faults_eq_nil_iff]
  · next hdepth => simp [hdepth]

/-- Whatever is wrong with a position is a reason to refuse its element there. -/
theorem Refusal.of_mem_faults {limit : Nat} {p : Position C} {fault : Fault C}
    (h : fault ∈ p.faults limit) : p.Refusal limit fault := by
  unfold faults at h
  split at h
  · next hdepth =>
      rcases List.mem_append.1 h with hmissing | hshape
      · rw [mem_faultsOf_iff] at hmissing
        -- only the two missing values are refused for themselves
        cases hv : p.element <;> rw [hv] at hmissing <;> cases hmissing
        · exact .null hdepth hv
        · exact .undefined hdepth hv
      · cases hv : p.element.presentShape <;> rw [hv] at hshape <;>
          simp only [Shape.faults, List.not_mem_nil] at hshape
        next selector given children =>
          rcases List.mem_append.1 hshape with hselector | hattribute
          · rw [mem_faultsOf_iff] at hselector
            cases hparse : Tag.parse selector with
            | ok tag =>
                rw [hparse] at hselector
                cases hselector
            | error fault =>
                rw [hparse] at hselector
                cases hselector
                refine .selector hdepth hv ?_ hparse
                rw [← Tag.parse_ok_iff, hparse]
                simp
          · rcases List.mem_flatMap.1 hattribute with ⟨⟨key, v⟩, hmem, hrefused⟩
            rw [mem_faultsOf_iff] at hrefused
            cases given with
            | none => cases hmem
            | some given =>
                refine .attribute hdepth hv hmem ?_ hrefused
                rw [← Value.present_iff_given, ← Value.checkUnder_eq_ok_iff key, hrefused]
                simp
  · next hdepth =>
      rw [List.mem_singleton.1 h]
      exact .deep (Nat.lt_of_not_le hdepth)

end Position

/-! ## Renderings -/

namespace Renderer

/-- The positions of elements that are rendered together, after these sources were drawn. -/
def positionsAll (spent : List Nat) (elements : List (Value C)) : List (Position C) :=
  (positions 0 spent [root elements]).1

/-- A rendering fails with the first of all faults at the positions it comes to, and not without
one. -/
theorem head?_faults_html (B : Behaviour C σ) (settings : Settings) (elements : List (Value C))
    {press : Press σ} (reached : press.Reached C) (room : 1 ≤ press.cache.capacity)
    (hcalls : ∀ p ∈ positionsAll press.session.spent elements,
      p.element.startsWithCallable = false) :
    (faultsOf (html B settings elements press).1).head? =
      (faultsAmong settings.maxDepth (positionsAll press.session.spent elements)).head? := by
  have hvisit := visitEach_positions B settings.maxDepth (settings.maxDepth + 1) 0
    (Nat.zero_add _) [root elements] press hcalls
  rw [visitEach_singleton] at hvisit
  rw [html_answer, visitAll_answer_afresh B settings elements reached room]
  unfold visitAll
  cases hrun : visit B Press.readAfresh settings.maxDepth (settings.maxDepth + 1) (root elements)
      press with
  | mk answer press' =>
      rw [hrun] at hvisit
      cases answer with
      | ok forest => exact (congrArg List.head? hvisit.1).symm
      | error fault => exact hvisit.symm

/-- Elements without components are rendered exactly if every position that is visited is at a
depth that is allowed, nothing is missing there, and all selectors are in the grammar. Otherwise
the rendering fails for one of these reasons, and for no other. -/
theorem html_succeeds_iff (B : Behaviour C σ) (settings : Settings) (elements : List (Value C))
    {press : Press σ} (reached : press.Reached C) (room : 1 ≤ press.cache.capacity)
    (hcalls : ∀ p ∈ positionsAll press.session.spent elements,
      p.element.startsWithCallable = false) :
    ((∃ markup after, html B settings elements press = (.ok markup, after)) ↔
      (∀ p ∈ positionsAll press.session.spent elements, p.depth ≤ settings.maxDepth) ∧
      (∀ p ∈ positionsAll press.session.spent elements, p.element.Complete) ∧
      ∀ p ∈ positionsAll press.session.spent elements, p.element.Readable) ∧
    ∀ fault after, html B settings elements press = (.error fault, after) →
      ∃ p ∈ positionsAll press.session.spent elements, p.Refusal settings.maxDepth fault := by
  have hhead := head?_faults_html B settings elements reached room hcalls
  have hclear : faultsAmong settings.maxDepth (positionsAll press.session.spent elements) = [] ↔
      (∀ p ∈ positionsAll press.session.spent elements, p.depth ≤ settings.maxDepth) ∧
      (∀ p ∈ positionsAll press.session.spent elements, p.element.Complete) ∧
      ∀ p ∈ positionsAll press.session.spent elements, p.element.Readable := by
    unfold faultsAmong
    simp only [List.flatMap_eq_nil_iff, Position.faults_eq_nil_iff, forall_and]
  rw [← hclear]
  cases hrun : html B settings elements press with
  | mk answer after =>
      rw [hrun] at hhead
      cases answer with
      | ok markup =>
          -- no first fault means no fault at all
          have hnil := List.head?_eq_none_iff.1 hhead.symm
          refine ⟨⟨fun _ => hnil, fun _ => ⟨markup, after, rfl⟩⟩, ?_⟩
          rintro fault after' h
          cases h
      | error fault =>
          refine ⟨⟨?_, fun hnil => ?_⟩, ?_⟩
          · rintro ⟨markup, after', h⟩
            cases h
          · rw [hnil] at hhead
            cases hhead
          · rintro fault' after' h
            cases h
            obtain ⟨p, hp, hfault⟩ := List.mem_flatMap.1 (List.mem_of_head? hhead.symm)
            exact ⟨p, hp, .of_mem_faults hfault⟩

/-- Children that are never visited: of a void tag, behind inner markup, and of a source that was
drawn; and some that are as deep as may be. -/
def guardedItems : Value Nat :=
  .list [.str "main#top.wide",
    .mapping [(.str "on:click", .callable (.sample "go")), (.str "class", .list [.str "a"])],
    .list [.str "br", .null],
    .list [.str "p", .mapping [(.str "dangerouslySetInnerHTML", .str "<i>")], .undefined],
    .lazy 3 [.mapping [], .list [.str "b", .str "deep"]],
    .lazy 3 [.null]]

theorem html_succeeds_iff_guardedItems :
    (Press.start 10 () : Press Unit).Reached Nat ∧
      (1 : Int) ≤ (Press.start 10 () : Press Unit).cache.capacity ∧
      (∀ p ∈ positionsAll [] [guardedItems], p.element.startsWithCallable = false) ∧
      (html .echo { Settings.standard with maxDepth := 3, one_le_maxDepth := by decide }
        [guardedItems] (.start 10 () : Press Unit)).1.toOption =
          some "<main id=\"top\" class=\"a\"><br><p><i></p>{}<b>deep</b></main>" ∧
      (∀ p ∈ positionsAll [] [guardedItems], p.depth ≤ 3 ∧ p.element.Complete) ∧
      ∀ markup after,
        html .echo { Settings.standard with maxDepth := 2, one_le_maxDepth := by decide }
          [guardedItems] (.start 10 () : Press Unit) ≠ (.ok markup, after) := by
  have hreached : (Press.start 10 () : Press Unit).Reached Nat := .start 10 ()
  have hroom : (1 : Int) ≤ (Press.start 10 () : Press Unit).cache.capacity := by decide
  have hcalls : ∀ p ∈ positionsAll [] [guardedItems], p.element.startsWithCallable = false := by
    decide +kernel
  have hmarkup : (html .echo { Settings.standard with maxDepth := 3, one_le_maxDepth := by decide }
      [guardedItems] (.start 10 () : Press Unit)).1.toOption =
        some "<main id=\"top\" class=\"a\"><br><p><i></p>{}<b>deep</b></main>" := by
    decide +kernel
  obtain ⟨hdepth, hcomplete, -⟩ := (html_succeeds_iff .echo
    { Settings.standard with maxDepth := 3, one_le_maxDepth := by decide } [guardedItems] hreached
    hroom hcalls).1.1 ⟨_, _, Attempt.apply_eq_of_toOption hmarkup⟩
  refine ⟨hreached, hroom, hcalls, hmarkup, fun p hp => ⟨hdepth p hp, hcomplete p hp⟩, ?_⟩
  intro markup after h
  obtain ⟨hshallow, -⟩ := (html_succeeds_iff .echo
    { Settings.standard with maxDepth := 2, one_le_maxDepth := by decide } [guardedItems] hreached
    hroom hcalls).1.1 ⟨markup, after, h⟩
  have hdeep : ¬ ∀ p ∈ positionsAll [] [guardedItems], p.depth ≤ 2 := by
    decide +kernel
  exact hdeep hshallow

end Renderer
end MarkupTree
