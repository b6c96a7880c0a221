import MarkupTree.Vocabulary

/-!
# Forest — trees side by side

Markup is a forest: leaves and labelled nodes side by side, and the same again inside every node.
A forest is empty, or its first tree and the rest, so that one induction runs through all of it.

* `Forest.labels` lists the labels in document order, `Forest.leaves` the leaves.
* `Forest.thread` relabels a forest from front to back with a state that is passed along.
* `Forest.settle` merges neighbouring texts.
* `Forest.outline` forgets everything but how the nodes are nested.
-/

namespace MarkupTree

/-- Trees side by side: nothing, a leaf and the rest, or a node with its inside and the rest. -/
inductive Forest (L T : Type)
  | nil
  | leaf (a : L) (rest : Forest L T)
  | node (t : T) (inside rest : Forest L T)
  deriving DecidableEq, Repr

namespace Forest

variable {L L' L'' M S T U : Type}

/-! ## Side by side -/

def append : Forest L T → Forest L T → Forest L T
  | nil, g => g
  | leaf a rest, g => leaf a (rest.append g)
  | node t inside rest, g => node t inside (rest.append g)

instance : Append (Forest L T) := ⟨append⟩

@[simp]
theorem nil_append (g : Forest L T) : nil ++ g = g := rfl

@[simp]
theorem leaf_append (a : L) (f g : Forest L T) : leaf a f ++ g = leaf a (f ++ g) := rfl

@[simp]
theorem node_append (t : T) (inside f g : Forest L T) :
    node t inside f ++ g = node t inside (f ++ g) := rfl

@[simp]
theorem append_nil (f : Forest L T) : f ++ nil = f := by
  induction f with
  | nil => rfl
  | leaf a rest ih => simp [ih]
  | node t inside rest _ ih => simp [ih]

theorem append_assoc (f g h : Forest L T) : f ++ g ++ h = f ++ (g ++ h) := by
  induction f with
  | nil => rfl
  | leaf a rest ih => simp [ih]
  | node t inside rest _ ih => simp [ih]

/-! ## Labels and leaves -/

/-- The labels in document order: a node comes before its inside. -/
def labels : Forest L T → List T
  | nil => []
  | leaf _ rest => rest.labels
  | node t inside rest => t :: (inside.labels ++ rest.labels)

def leaves : Forest L T → List L
  | nil => []
  | leaf a rest => a :: rest.leaves
  | node _ inside rest => inside.leaves ++ rest.leaves

def map (f : L → M) (g : T → U) : Forest L T → Forest M U
  | nil => nil
  | leaf a rest => leaf (f a) (rest.map f g)
  | node t inside rest => node (g t) (inside.map f g) (rest.map f g)

theorem map_map (f : L → L') (f' : L' → L'') (g : T → U) (g' : U → S)
    (F : Forest L T) : (F.map f g).map f' g' = F.map (f' ∘ f) (g' ∘ g) := by
  induction F with
  | nil => rfl
  | leaf a rest ih => simp [map, ih]
  | node t inside rest ihi ihr => simp [map, ihi, ihr]

/-! ## Relabelling with a state -/

/-- Relabels a forest in document order, passing a state from label to label. -/
def thread (step : S → T → U × S) : S → Forest L T → Forest L U × S
  | s, nil => (nil, s)
  | s, leaf a rest =>
      let (rest, s) := thread step s rest
      (leaf a rest, s)
  | s, node t inside rest =>
      let (u, s) := step s t
      let (inside, s) := thread step s inside
      let (rest, s) := thread step s rest
      (node u inside rest, s)

theorem thread_append (step : S → T → U × S) (s : S) (f g : Forest L T) :
    thread step s (f ++ g) =
      ((thread step s f).1 ++ (thread step (thread step s f).2 g).1,
        (thread step (thread step s f).2 g).2) := by
  induction f generalizing s with
  | nil => rfl
  | leaf a rest ih => simp [thread, ih]
  | node t inside rest _ ih => simp [thread, ih]

theorem leaves_thread (step : S → T → U × S) (s : S) (F : Forest L T) :
    (thread step s F).1.leaves = F.leaves := by
  induction F generalizing s with
  | nil => rfl
  | leaf a rest ih => simp [thread, leaves, ih]
  | node t inside rest ihi ihr => simp [thread, leaves, ihi, ihr]

/-- What holds of every single label that can come out holds of all of them. -/
theorem forall_labels_thread {step : S → T → U × S} {P : U → Prop} {F : Forest L T}
    (h : ∀ t ∈ F.labels, ∀ s, P (step s t).1) (s : S) :
    ∀ u ∈ (thread step s F).1.labels, P u := by
  induction F generalizing s with
  | nil => simp [thread, labels]
  | leaf a rest ih => exact ih h s
  | node t inside rest ihi ihr =>
      intro u hu
      rcases List.mem_cons.1 hu with rfl | hu
      · exact h t (by simp [labels]) s
      · rcases List.mem_append.1 hu with hinside | hrest
        · exact ihi (fun t' ht' => h t' (by simp [labels, ht'])) _ u hinside
        · exact ihr (fun t' ht' => h t' (by simp [labels, ht'])) _ u hrest

theorem thread_of_const {step : S → T → U × S} {s : S} {g : T → U}
    (h : ∀ t, step s t = (g t, s)) (f : Forest L T) : thread step s f = (f.map id g, s) := by
  induction f with
  | nil => rfl
  | leaf a rest ih => simp [thread, ih, map]
  | node t inside rest ihi ihr => simp [thread, h, ihi, ihr, map]

/-! ## Merging texts -/

/-- A text as a forest: nothing, if it is empty. -/
def ofText (s : String) : Forest String T :=
  if s = "" then nil else leaf s nil

/-- Merges neighbouring texts and drops empty ones. The text in front is not settled yet. -/
def settle (pending : String) : Forest String T → Forest String T
  | nil => ofText pending
  | leaf s rest => settle (pending ++ s) rest
  | node t inside rest => ofText pending ++ node t (settle "" inside) (settle "" rest)

/-- No text is empty, and none stands directly behind another. -/
def Merged : Forest String T → Prop
  | nil => True
  | leaf s rest => s ≠ "" ∧ (∀ s' rest', rest ≠ leaf s' rest') ∧ rest.Merged
  | node _ inside rest => inside.Merged ∧ rest.Merged

theorem merged_ofText_append (s : String) {F : Forest String T} (h : F.Merged)
    (hfront : ∀ s' rest', F ≠ leaf s' rest') : (ofText s ++ F).Merged := by
  unfold ofText
  split
  · exact h
  · next hs => exact ⟨hs, hfront, h⟩

theorem merged_settle (pending : String) (F : Forest String T) :
    (settle pending F).Merged := by
  induction F generalizing pending with
  | nil =>
      have hmerged : (ofText pending ++ nil : Forest String T).Merged :=
        merged_ofText_append pending trivial (by simp)
      rw [append_nil] at hmerged
      exact hmerged
  | leaf s rest ih => exact ih (pending ++ s)
  | node t inside rest ihi ihr =>
      exact merged_ofText_append pending ⟨ihi "", ihr ""⟩ (by simp)

/-! ## Nesting -/

/-- The nodes alone, each under what remains of its label. -/
def outline (g : T → U) : Forest L T → Forest Empty U
  | nil => nil
  | leaf _ rest => outline g rest
  | node t inside rest => node (g t) (outline g inside) (outline g rest)

@[simp]
theorem outline_map (f : L → L') (h : T → M) (g : M → U) (F : Forest L T) :
    outline g (F.map f h) = outline (g ∘ h) F := by
  induction F with
  | nil => rfl
  | leaf a rest ih => simpa [map, outline] using ih
  | node t inside rest ihi ihr => simp [map, outline, ihi, ihr]

theorem outline_settle (g : T → U) (pending : String) (F : Forest String T) :
    outline g (settle pending F) = outline g F := by
  -- the text in front is a leaf or nothing, and leaves are not nested
  have hpending : ∀ (s : String) (rest : Forest String T),
      outline g (ofText s ++ rest) = outline g rest := by
    intro s rest
    unfold ofText
    split <;> rfl
  induction F generalizing pending with
  | nil => simpa [settle, outline] using hpending pending nil
  | leaf s rest ih => simpa [settle, outline] using ih (pending ++ s)
  | node t inside rest ihi ihr => simp [settle, hpending, outline, ihi, ihr]

end Forest
end MarkupTree
