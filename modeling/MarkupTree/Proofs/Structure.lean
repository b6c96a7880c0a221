import MarkupTree.Proofs.History
import MarkupTree.Proofs.Reader
import MarkupTree.Proofs.Visited

/-!
# Structure — rendered markup says what the element says

A reader that knows only markup finds in a rendering exactly the tags, attributes and texts of the
element that was rendered. Whatever stands in a text, an attribute, an id or a class, it cannot
pass for a tag or an attribute.

* `Visited.normalForm` is what markup should say, `Visited.skeleton` its tags and attribute names.
* `Renderer.read_html` reads it back.
-/

namespace MarkupTree

variable {C σ : Type}

/-! ## Normal forms -/

namespace Visited

/-- The tags and texts of a visited forest, with neighbouring texts merged. -/
def normalForm (forest : Visited C) : Document :=
  (forest.map Leaf.content TagVisit.plainLabel).settle ""

/-- The tags of a visited forest with the names of their attributes, and nothing of any text. -/
def skeleton (forest : Visited C) : Forest Empty (String × List String) :=
  forest.outline fun t => (t.tag.name, (writtenPairs t.plan.attributes).map Prod.fst)

/-- Nothing was written verbatim, and all explicit keys are plain names. -/
structure Plain (forest : Visited C) : Prop where
  no_verbatim : ∀ a ∈ forest.leaves, a.IsText
  plain_keys : ∀ t ∈ forest.labels, ∀ e ∈ t.explicit, isPlainName e.1.text = true

instance (forest : Visited C) : Decidable forest.Plain :=
  decidable_of_iff
    ((∀ a ∈ forest.leaves, a.IsText) ∧
      ∀ t ∈ forest.labels, ∀ e ∈ t.explicit, isPlainName e.1.text = true)
    ⟨fun h => ⟨h.1, h.2⟩, fun h => ⟨h.1, h.2⟩⟩

end Visited

/-- The tags of a document with the names of their attributes. -/
def Document.skeleton (document : Document) : Forest Empty (String × List String) :=
  document.outline fun label => (label.name, label.attributes.map Prod.fst)

/-! ## What is printed can be read -/

theorem name_of_mem_writtenPairs {es : Entries C} {p : String × Option String}
    (h : p ∈ writtenPairs es) : ∃ e ∈ es, p.1 = e.1.text := by
  rcases List.mem_filterMap.1 h with ⟨e, he, hpair⟩
  refine ⟨e, he, ?_⟩
  unfold writtenPair? at hpair
  split at hpair
  · cases hpair
  · split at hpair
    · cases hpair
    · cases hpair
      rfl
  · cases hpair
    rfl

/-- A property of `id`, of `class` and of every explicit key holds of every attribute written. -/
theorem TagVisit.Sound.name_of_mem {t : TagVisit C} (h : t.Sound) {P : String → Prop}
    (hid : P Vocabulary.identity) (hclass : P Vocabulary.className)
    (hkeys : ∀ e ∈ t.explicit, P e.1.text) :
    ∀ p ∈ writtenPairs t.plan.attributes, P p.1 := by
  intro p hp
  rcases name_of_mem_writtenPairs hp with ⟨e, he, hname⟩
  rw [hname]
  rcases h.key_mem he with hkey | hkey | ⟨e', he', hkey⟩
  · rw [hkey]
    exact hid
  · rw [hkey]
    exact hclass
  · rw [← hkey]
    exact hkeys e' he'

namespace Visited

/-- A sound forest without anything verbatim is printed so that it can be read. -/
theorem Sound.readable {forest : Visited C} (h : forest.Sound)
    (htext : ∀ a ∈ forest.leaves, a.IsText)
    (hkeys : ∀ t ∈ forest.labels, ∀ e ∈ t.explicit, isPlainName e.1.text = true) :
    (forest.map id TagVisit.plainLabel).Readable := by
  induction forest with
  | nil => trivial
  | leaf a rest ih =>
      have hleaf := htext a (by simp [Forest.leaves])
      exact ⟨hleaf, ih h (fun b hb => htext b (List.mem_cons_of_mem _ hb)) hkeys⟩
  | node t inside rest ihi ihr =>
      rcases h with ⟨htag, hvoid, hinside, hrest⟩
      -- the names that are not explicit keys are `id` and `class`
      have hnames := htag.name_of_mem (P := fun name => isPlainName name = true) (by decide)
        (by decide) (hkeys t (by simp [Forest.labels]))
      refine ⟨⟨htag.isTagName, hnames⟩, ?_, ?_, ?_⟩
      · intro hv
        rw [hvoid hv]
        rfl
      · apply ihi hinside
        · intro a ha
          exact htext a (by simp [Forest.leaves, ha])
        · intro t' ht'
          exact hkeys t' (by simp [Forest.labels, ht'])
      · apply ihr hrest
        · intro a ha
          exact htext a (by simp [Forest.leaves, ha])
        · intro t' ht'
          exact hkeys t' (by simp [Forest.labels, ht'])

end Visited

namespace Renderer

/-- Rendered markup is read back as the normal form of what was visited. -/
theorem read_html {B : Behaviour C σ} {settings : Settings} {elements : List (Value C)}
    {press after : Press σ} {markup : String} (reached : press.Reached C)
    (h : html B settings elements press = (.ok markup, after)) :
    ∃ forest visited,
      visitAll B Press.readAfresh settings elements press = (.ok forest, visited) ∧
      visited.session = after.session ∧
      (forest.Plain →
        Reader.read markup = some forest.normalForm ∧
        forest.normalForm.Merged ∧
        forest.normalForm.skeleton = forest.skeleton) := by
  rcases visit_of_html reached h with ⟨forest, visited, hvisit, hsession, hmarkup⟩
  refine ⟨forest, visited, hvisit, hsession, ?_⟩
  intro hplain
  have hreadable := (visitAll_sound hvisit).readable hplain.no_verbatim hplain.plain_keys
  refine ⟨?_, Forest.merged_settle "" _, ?_⟩
  · calc
      Reader.read markup
          = Reader.read (forest.map id TagVisit.plainLabel).print := by
            rw [hmarkup, Visited.labelled_none]
      _ = some (forest.map id TagVisit.plainLabel).document := Reader.read_print hreadable
      _ = some forest.normalForm := by
            rw [Forest.document, Forest.map_map]
            rfl
  · calc
      forest.normalForm.skeleton
          = (forest.map Leaf.content TagVisit.plainLabel).outline
              fun label => (label.name, label.attributes.map Prod.fst) :=
            Forest.outline_settle _ "" _
      _ = forest.skeleton := Forest.outline_map _ _ _ _

/-- A tag with markup characters in its id, in an attribute and around a void tag. -/
def quotedTag : Value Nat :=
  .list [.str "p#a\"b.c",
    .mapping [(.str "title", .str "\"><br>"), (.str "hidden", .bool false),
      (.str "inert", .bool true)],
    .str "x<", .bool false, .list [.str "br"], .str "y",
    .list [.callable (.sample "Card"), .list [.str ":<>", .str "&"], .str "z"]]

def quotedMarkup : String :=
  "<p id=\"a&quot;b\" class=\"c\" title=\"&quot;&gt;&lt;br&gt;\" inert>" ++
    "x&lt;<br>y&amp;z</p>"

def quotedDocument : Document :=
  .node
    ⟨"p", [("id", some "a\"b"), ("class", some "c"), ("title", some "\"><br>"), ("inert", none)]⟩
    (.leaf "x<" (.node ⟨"br", []⟩ .nil (.leaf "y&z" .nil))) .nil

theorem read_html_quotedTag :
    (Press.start 10 () : Press Unit).Reached Nat ∧
      (html .echo .standard [quotedTag] (.start 10 ())).1.toOption = some quotedMarkup ∧
      Reader.read quotedMarkup = some quotedDocument := by
  have hreached : (Press.start 10 () : Press Unit).Reached Nat := .start 10 ()
  have hmarkup : (html .echo .standard [quotedTag] (.start 10 ())).1.toOption =
      some quotedMarkup := by
    decide +kernel
  obtain ⟨forest, visited, hvisit, -, hread⟩ :=
    read_html hreached (Attempt.apply_eq_of_toOption hmarkup)
  have hforest : (visitAll .echo Press.readAfresh .standard [quotedTag] (.start 10 ())).1.toOption.map
      (fun forest => (decide forest.Plain, forest.normalForm)) = some (true, quotedDocument) := by
    decide +kernel
  rw [hvisit] at hforest
  rcases Prod.mk.inj (Option.some.inj hforest) with ⟨hplain, hnormal⟩
  refine ⟨hreached, hmarkup, ?_⟩
  rw [(hread (of_decide_eq_true hplain)).1, hnormal]

end Renderer
end MarkupTree
