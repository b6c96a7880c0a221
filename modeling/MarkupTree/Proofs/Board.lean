import MarkupTree.Leaderboard
import MarkupTree.Proofs.Attach
import MarkupTree.Proofs.Printing

/-!
# Board — what the pages of the site are made of

The page of the site is always rendered, whoever is ranked, if only their numbers can be written.
The markup of the counter stands in one place of it. The counter is rendered with one binding, for
the click on its button; nothing but the count itself depends on what has been counted. A count
that is too long to be written cannot be rendered.

* `Leaderboard.countMarkup` and `Leaderboard.counterMarkup` are the markup of a count and of the
  counter.
* `Leaderboard.Rankable` are users whose numbers can be written.
* `Leaderboard.frames_page` says that the page is rendered around the markup of the counter.
* `Leaderboard.finds_answer` and `Leaderboard.finds_counter` say what is rendered for a click and
  for the counter, `Leaderboard.ends_counter` says when the counter cannot be rendered.
-/

namespace MarkupTree

variable {C : Type}

/-! ## Numbers in markup -/

namespace Text

/-- A number is written with digits and a sign, and none of them needs an entity. -/
theorem toList_toString_int (n : Int) :
    ∀ c ∈ (toString n).toList, c.isDigit = true ∨ c = '-' := by
  have hdigit : ∀ (m : Nat), ∀ c ∈ (toString m).toList, c.isDigit = true := fun m c hc =>
    Nat.isDigit_of_mem_toDigits (b := 10) (by decide) (by decide) (by simpa using hc)
  intro c hc
  cases n with
  | ofNat m => exact Or.inl (hdigit m c hc)
  | negSucc m =>
      have hsign : (toString (Int.negSucc m)).toList = '-' :: (toString (m + 1)).toList := by
        show ("-" ++ toString (m + 1)).toList = _
        rw [String.toList_append]
        rfl
      rw [hsign] at hc
      rcases List.mem_cons.1 hc with rfl | hrest
      · exact Or.inr rfl
      · exact Or.inl (hdigit (m + 1) c hrest)

theorem escape_toString_int (n : Int) : escape (toString n) = toString n := by
  have hsame : ∀ cs : List Char, (∀ c ∈ cs, c.isDigit = true ∨ c = '-') → escapeChars cs = cs := by
    intro cs
    induction cs with
    | nil => exact fun _ => rfl
    | cons c rest ih =>
        intro h
        have hrest := ih fun d hd => h d (List.mem_cons_of_mem _ hd)
        have hfirst : escapeChars [c] = [c] := by
          rcases h c (by simp) with hdigit | rfl
          · exact escapeChars_of_isDigit (by simpa using hdigit)
          · decide
        rw [← List.singleton_append, escapeChars_append, hfirst, hrest]
  unfold escape
  rw [hsame _ (toList_toString_int n), String.ofList_toList]

end Text

namespace Leaderboard

open Renderer

/-! ## The counter -/

/-- The markup of a count. -/
def countMarkup (n : Int) : String :=
  "<span id=\"count\">" ++ toString n ++ "</span>"

/-- The markup of the counter, with the marker of its button. -/
def counterMarkup (n : Int) : String :=
  "<div id=\"counter\">" ++ countMarkup n ++
    "<button type=\"button\" data-hiccpy-id=\"hiccpy-1\">+1</button></div>"

/-- What is called for a click. -/
def increment : Callable Val Part :=
  Part.increment.callable "increment" ["event"]

def buttonId : String := "hiccpy-1"

theorem holdsHalf_countMarkup (n : Int) : Text.holdsHalf (countMarkup n) = false := by
  refine Text.holdsHalf_of_not_mem fun hmem => ?_
  unfold countMarkup at hmem
  rw [String.toList_append, String.toList_append, List.mem_append, List.mem_append] at hmem
  -- there is no mark in the tags, and the number has digits and a sign only
  rcases hmem with (hopen | hnumber) | hclose
  · exact absurd hopen (by decide +kernel)
  · rcases Text.toList_toString_int n _ hnumber with hdigit | hsign
    · exact absurd hdigit (by decide)
    · exact absurd hsign (by decide)
  · exact absurd hclose (by decide +kernel)

theorem counterMarkup_ne_empty (n : Int) : counterMarkup n ≠ "" := by
  unfold counterMarkup
  simp only [ne_eq, String.append_eq_empty_iff, not_and]
  intro hempty
  exact absurd hempty.1 (by decide)

/-! ## Numbers that can be written -/

@[simp] theorem isWritable_int (n : Int) : isWritable (.int n : Val) = Decimal.isWritable n :=
  rfl

theorem writing_of_writable {values : List Val} (h : ∀ v ∈ values, isWritable v = true)
    (element : Val) : writing values element = .ok element :=
  if_pos (List.all_eq_true.2 h)

theorem writing_int {n : Int} (h : Decimal.isWritable n = false) (element : Val) :
    writing [.int n] element = .error .tooManyDigits := by
  have hvalues : ¬ ([.int n] : List Val).all isWritable = true := by
    rw [List.all_cons, isWritable_int, h, Bool.false_and]
    exact Bool.false_ne_true
  exact if_neg hvalues

/-- Users all of whose numbers can be written: their points, and their ranks. -/
structure Rankable (ranked : List User) : Prop where
  points : ∀ user ∈ ranked, Decimal.isWritable user.points = true
  ranks : Decimal.isWritable ranked.length = true

theorem Rankable.rank {ranked : List User} (h : Rankable ranked) {i : Nat}
    (hi : i < ranked.length) : Decimal.isWritable (i + 1 : Int) = true := by
  have hlength := of_decide_eq_true h.ranks
  refine decide_eq_true ?_
  -- the last rank is the highest one
  omega

/-! ## Shapes of the parts -/

theorem shape_tag {name : String} (hname : name ≠ Vocabulary.fragment) (children : List Val)
    (keywords : Table Val) :
    (tag name children keywords).shape =
      .ok (.tag name (some (Factory.attributes keywords)) children) :=
  Factory.shape_element hname children keywords

/-- The value of an attribute is the value of a keyword. -/
theorem present_attributes {keywords : Table Val} (h : ∀ kw ∈ keywords, kw.2.Present) :
    ∀ e ∈ (some (Factory.attributes keywords)).getD [], e.2.Present := by
  intro e he
  rcases (Entries.mem_update he).2 with hold | hnew
  · cases hold
  · obtain ⟨e', he', heq⟩ := List.mem_map.1 hnew
    obtain ⟨kw, hkw, rfl⟩ := List.mem_map.1 he'
    exact heq ▸ h kw hkw

section Parts

variable {limit levels : Nat}

theorem certain_tag {name : String} {read : Tag String} (hname : name ≠ Vocabulary.fragment)
    (hselector : Tag.parse name = .ok read) {keywords : Table Val}
    (hpresent : ∀ kw ∈ keywords, kw.2.Present) {children : List Val}
    (h : CertainEach Part.behaviour limit levels children) :
    Certain Part.behaviour limit (levels + 1) (tag name children keywords) :=
  .tag (shape_tag hname children keywords) hselector (present_attributes hpresent) h

theorem frames_tag {name : String} {read : Tag String} (hname : name ≠ Vocabulary.fragment)
    (hselector : Tag.parse name = .ok read) (hvoid : Vocabulary.isVoid read.name = false)
    {keywords : Table Val} (hpresent : ∀ kw ∈ keywords, kw.2.Present)
    (hinner : carriesMarkup (some (Factory.attributes keywords)) = false)
    {arounds : String → List Val} (h : FramesEach Part.behaviour limit levels arounds) :
    Frames Part.behaviour limit (levels + 1) fun markup => tag name (arounds markup) keywords :=
  .tag (fun markup => shape_tag hname (arounds markup) keywords) hselector
    (present_attributes hpresent) hvoid hinner h

/-! ## The page around the counter -/

theorem certain_stat (label : String) {n : Int} (hwritable : Decimal.isWritable n = true) :
    Certain Part.behaviour limit (levels + 4) (stat label n) := by
  have hnumber : Certain Part.behaviour limit (levels + 2)
      (.list [.str "h3", .str (grouped n)]) :=
    .tag rfl (by rfl : Tag.parse "h3" = .ok ⟨"h3", []⟩) (by simp) (.cons (.str _) .nil)
  have hlabel : Certain Part.behaviour limit (levels + 2)
      (.list [.str "small", .str label]) :=
    .tag rfl (by rfl : Tag.parse "small" = .ok ⟨"small", []⟩) (by simp) (.cons (.str _) .nil)
  have hcard : Certain Part.behaviour limit (levels + 3) (statCard (.str label) (.int n)) :=
    .tag rfl (by rfl : Tag.parse "article.stat" = .ok ⟨"article", [("class", "stat")]⟩) (by simp)
      (.cons hnumber (.cons hlabel .nil))
  have hcall : Responds Part.behaviour (Part.statCard.callable "StatCard" ["label", "value"])
      [(.str "label", .str label), (.str "value", .int n)] []
      (writing [.int n] (statCard (.str label) (.int n))) :=
    .of_bound rfl rfl rfl fun _ _ => rfl
  rw [writing_of_writable (by simpa using hwritable)] at hcall
  exact .component rfl hcall hcard

theorem certain_userRow (user : User) (rank : Int)
    (hpoints : Decimal.isWritable user.points = true) (hrank : Decimal.isWritable rank = true) :
    Certain Part.behaviour limit (levels + 4)
      ((Part.userRow user).element "UserRow" [("rank", .int rank)] []) := by
  have hspan : Tag.parse "span" = .ok ⟨"span", []⟩ := by rfl
  have hname : Certain Part.behaviour limit (levels + 2)
      (.list [.str "strong", .str user.username]) :=
    .tag rfl (by rfl : Tag.parse "strong" = .ok ⟨"strong", []⟩) (by simp) (.cons (.str _) .nil)
  have hrow : Certain Part.behaviour limit (levels + 3) (userRow user (.int rank)) := by
    refine .tag rfl (by rfl : Tag.parse "li" = .ok ⟨"li", []⟩) ?_
      (.cons ?_ (.cons hname (.cons ?_ .nil)))
    · intro e he
      rw [List.mem_singleton.1 he]
      rfl
    · exact certain_tag (by decide) hspan (by simp) (.cons (.str _) .nil)
    · exact certain_tag (by decide) hspan (by simp [Value.Present, Value.check])
        (.cons (.str _) .nil)
  have hcall : Responds Part.behaviour ((Part.userRow user).callable "UserRow" ["rank"])
      [(.str "rank", .int rank)] []
      (writing [.int rank, .int user.points] (userRow user (.int rank))) :=
    .of_bound rfl rfl rfl fun _ _ => rfl
  rw [writing_of_writable (by simpa using ⟨hrank, hpoints⟩)] at hcall
  exact .component rfl hcall hrow

theorem certain_ranking {ranked : List User} (h : Rankable ranked) :
    Certain Part.behaviour limit (levels + 6)
      (.list [.str "ol", .list (ranking ranked)]) := by
  have hrows : CertainEach Part.behaviour limit (levels + 4) (ranking ranked) := by
    refine .of_forall fun row hrow => ?_
    obtain ⟨i, hi, rfl⟩ := List.mem_mapIdx.1 hrow
    exact certain_userRow _ _ (h.points _ (List.getElem_mem hi)) (h.rank hi)
  -- the rows stand in a list of their own, which starts with a row or is empty
  have hitems : (Value.list (ranking ranked) : Val).shape = .ok (.items (ranking ranked)) := by
    refine congrArg Except.ok (Value.sequenceShape_items fun first hfirst => ?_)
    obtain ⟨i, hi, rfl⟩ := List.mem_mapIdx.1 (List.mem_of_mem_head? hfirst)
    exact ⟨fun f heq => (by cases heq), fun s heq => (by cases heq)⟩
  exact .tag rfl (by rfl : Tag.parse "ol" = .ok ⟨"ol", []⟩) (by simp)
    (.cons (.items hitems hrows) .nil)

/-- The place of the counter takes its markup as it is. -/
theorem read_root (markup : String) : ∃ t : TagVisit Part,
    TagVisit.read "div#counter-root" (some [(.str Vocabulary.innerHtml, .str markup)]) = .ok t ∧
      t.plainLabel = ⟨"div", [("id", some "counter-root")]⟩ ∧ t.plan.innerHtml = .str markup := by
  have hselector : Tag.parse "div#counter-root" = .ok ⟨"div", [("id", "counter-root")]⟩ := by rfl
  -- inner markup goes by a key of its own, which is none of those that are treated differently
  have hid : (Value.str "id" : Val).sameKey (.str Vocabulary.innerHtml) = false := by
    decide +kernel
  have hself : (Value.str Vocabulary.innerHtml : Val).sameKey
      (.str Vocabulary.innerHtml) = true := by
    decide +kernel
  have hstyle : (Value.str Vocabulary.innerHtml : Val).sameKey
      (.str Vocabulary.style) = false := by
    decide +kernel
  have hclass : (Value.str Vocabulary.innerHtml : Val).sameKey
      (.str Vocabulary.className) = false := by
    decide +kernel
  have hevent : eventName? (.str Vocabulary.innerHtml : Val) = none := by decide +kernel
  have hpresent : ∀ e ∈ [((.str Vocabulary.innerHtml, .str markup) : Val × Val)],
      e.2.Present := by
    simp [Value.present_str]
  have hsort := AttributePlan.sort_eq_of_present
    ⟨seedOf ⟨"div", [("id", "counter-root")]⟩, [], .null⟩ hpresent
  -- the selector gives the only attribute that is printed, the mapping the markup inside
  unfold TagVisit.read AttributePlan.prepare
  rw [hselector]
  dsimp only [Except.mapError, bind, Except.bind, Option.getD_some]
  rw [hsort]
  refine ⟨_, rfl, ?_, ?_⟩
  · simp [TagVisit.plainLabel, AttributePlan.takeInnerHtml, AttributePlan.normalize, seedOf,
      Entries.get?, Entries.plain, Entries.update, Entries.put, Entries.remove, hevent, hstyle,
      hclass, hid, hself, writtenPairs, writtenPair?, Value.text, Value.leafText]
  · simp [AttributePlan.takeInnerHtml, AttributePlan.normalize, seedOf, Entries.get?,
      Entries.plain, Entries.update, Entries.put, hevent, hstyle, hclass, hid, hself]

theorem frames_root :
    Frames Part.behaviour limit (levels + 1) fun markup =>
      .list [.str "div#counter-root", .mapping [(.str Vocabulary.innerHtml, .str markup)]] := by
  choose t hread hlabel hinner using read_root
  exact .inner (fun _ => rfl) hread hlabel (by decide) hinner

/-- The layout of a page is rendered around what stands in its main part. -/
theorem frames_layout (title : String) {arounds : String → List Val}
    (h : FramesEach Part.behaviour limit (levels + 6) arounds) :
    Frames Part.behaviour limit (levels + 10) fun markup =>
      layout (.str title) (arounds markup) := by
  have hhead : Certain Part.behaviour limit (levels + 8)
      (tag "head"
        [tag "meta" [] [("charset", .str "utf-8")],
          tag "title" [.str title] [],
          tag "link" []
            [("rel", .str "stylesheet"),
              ("href", .str "https://unpkg.com/@picocss/pico@2/css/pico.min.css")]] []) := by
    refine certain_tag (by decide) (by rfl : Tag.parse "head" = .ok ⟨"head", []⟩) (by simp)
      (.cons ?_ (.cons ?_ (.cons ?_ .nil)))
    · exact certain_tag (by decide) (by rfl : Tag.parse "meta" = .ok ⟨"meta", []⟩)
        (by simp [Value.present_str]) .nil
    · exact certain_tag (by decide) (by rfl : Tag.parse "title" = .ok ⟨"title", []⟩) (by simp)
        (.cons (.str _) .nil)
    · exact certain_tag (by decide) (by rfl : Tag.parse "link" = .ok ⟨"link", []⟩)
        (by simp [Value.present_str]) .nil
  have hheader : Certain Part.behaviour limit (levels + 7)
      (tag "header"
        [tag "nav"
          [tag "ul" [tag "li" [tag "a" [.str "Leaderboard"] [("href", .str "/")]] []] []]
          [("class_", .str "container")]] []) := by
    refine certain_tag (by decide) (by rfl : Tag.parse "header" = .ok ⟨"header", []⟩) (by simp)
      (.cons ?_ .nil)
    refine certain_tag (by decide) (by rfl : Tag.parse "nav" = .ok ⟨"nav", []⟩)
      (by simp [Value.present_str]) (.cons ?_ .nil)
    refine certain_tag (by decide) (by rfl : Tag.parse "ul" = .ok ⟨"ul", []⟩) (by simp)
      (.cons ?_ .nil)
    refine certain_tag (by decide) (by rfl : Tag.parse "li" = .ok ⟨"li", []⟩) (by simp)
      (.cons ?_ .nil)
    exact certain_tag (by decide) (by rfl : Tag.parse "a" = .ok ⟨"a", []⟩)
      (by simp [Value.present_str]) (.cons (.str _) .nil)
  have hfooter : Certain Part.behaviour limit (levels + 7)
      (tag "footer" [tag "p" [.str "Made with hiccpy"] []] [("class_", .str "container")]) := by
    refine certain_tag (by decide) (by rfl : Tag.parse "footer" = .ok ⟨"footer", []⟩)
      (by simp [Value.present_str]) (.cons ?_ .nil)
    exact certain_tag (by decide) (by rfl : Tag.parse "p" = .ok ⟨"p", []⟩) (by simp)
      (.cons (.str _) .nil)
  have hmain : Frames Part.behaviour limit (levels + 7) fun markup =>
      tag "main" (arounds markup) [("class_", .str "container")] :=
    frames_tag (by decide) (by rfl : Tag.parse "main" = .ok ⟨"main", []⟩) (by decide)
      (by simp [Value.present_str]) (by decide +kernel) h
  -- the header stands in front of the main part and the footer behind it
  have hbody : Frames Part.behaviour limit (levels + 8) fun markup => tag "body" _ [] :=
    frames_tag (by decide) (by rfl : Tag.parse "body" = .ok ⟨"body", []⟩) (by decide) (by simp)
      (by decide +kernel) (.cons hheader (.of_frames hmain (.cons hfooter .nil)))
  have hhtml : Frames Part.behaviour limit (levels + 9) fun markup =>
      tag "html" _ [("lang", .str "en")] :=
    frames_tag (by decide) (by rfl : Tag.parse "html" = .ok ⟨"html", []⟩) (by decide)
      (by simp [Value.present_str]) (by decide +kernel) (.cons hhead (.of_frames hbody .nil))
  exact .fragment (fun _ => rfl) (.cons (.markup _ _) (.of_frames hhtml .nil))

/-- The page is rendered around the markup of the counter. -/
theorem frames_page {ranked : List User} (h : Rankable ranked) :
    Frames Part.behaviour limit (levels + 11) (page ranked) := by
  have hheading : ∀ (name text : String), name ≠ Vocabulary.fragment →
      Tag.parse name = .ok ⟨name, []⟩ →
      Certain Part.behaviour limit (levels + 6) (tag name [.str text] []) := fun name text hname
      hselector => certain_tag hname hselector (by simp) (.cons (.str _) .nil)
  have hh2 : Tag.parse "h2" = .ok ⟨"h2", []⟩ := by rfl
  have hstats : Certain Part.behaviour limit (levels + 6)
      (tag "section"
        [stat "Commits" 12847, stat "Participants" 342, stat "Days left" 18]
        [("class_", .str "grid")]) :=
    certain_tag (by decide) (by rfl : Tag.parse "section" = .ok ⟨"section", []⟩)
      (by simp [Value.present_str])
      (.cons (certain_stat _ (by decide +kernel)) (.cons (certain_stat _ (by decide +kernel))
        (.cons (certain_stat _ (by decide +kernel)) .nil)))
  -- only the last part of the page depends on the markup of the counter
  have hchildren := FramesEach.cons (hheading "h1" "Leaderboard" (by decide) (by rfl))
    (.cons hstats (.cons (hheading "h2" "Top users" (by decide) hh2)
      (.cons (certain_ranking h) (.cons (hheading "h2" "Counter" (by decide) hh2)
        (.of_frames frames_root .nil)))))
  exact .component (fun _ => rfl) (fun _ _ => ⟨_, rfl, rfl⟩) (frames_layout "Leaderboard" hchildren)

end Parts

/-! ## What the counter prints -/

def countSketch : Sketch :=
  ⟨"span", " id=\"count\"", false, false, true⟩

def counterSketch : Sketch :=
  ⟨"div", " id=\"counter\"", false, false, true⟩

def buttonSketch : Sketch :=
  ⟨"button", " type=\"button\"", false, true, true⟩

theorem read_count : ∃ t : TagVisit Part,
    TagVisit.read "span" (some (Factory.attributes [("id", .str "count")])) = .ok t ∧
      t.sketch = countSketch :=
  TagVisit.exists_read_of_sketch (by decide +kernel)

/-- The count is text between the tags of its place. -/
theorem finds_shown {t : TagVisit Part}
    (hread : TagVisit.read "span" (some (Factory.attributes [("id", .str "count")])) = .ok t)
    (hsketch : t.sketch = countSketch) {limit levels : Nat} (n : Int) :
    Finds (visit Part.behaviour Press.readAfresh limit (levels + 2) (shown (.int n)))
      (.node t (.leaf (.text (toString n)) .nil) .nil) := by
  have hvoid : Vocabulary.isVoid t.tag.name = false :=
    (congrArg (fun sketch => Vocabulary.isVoid sketch.name) hsketch).trans (by decide)
  have hnumber : Finds (visit Part.behaviour Press.readAfresh limit (levels + 1) (.int n))
      (.leaf (.text (toString n)) .nil) :=
    .text (w := .int n) rfl
  exact .tag (shape_tag (by decide) _ _) hread hvoid (congrArg Sketch.carries hsketch)
    (hnumber.cons .nil)

theorem markup_shown {t : TagVisit Part} (hsketch : t.sketch = countSketch) (n : Int) :
    Visited.markup (.node t (.leaf (.text (toString n)) .nil) .nil) = countMarkup n := by
  rw [Visited.markup_node, Visited.markup_leaf, TagVisit.openTag_of_sketch hsketch,
    TagVisit.closeTag_of_sketch hsketch (by decide)]
  show _ ++ (Text.escape (toString n) ++ _) = _
  rw [Text.escape_toString_int, ← String.append_assoc]
  rfl

/-- The answer of a click prints the count. -/
theorem finds_answer (n : Int) : ∃ forest : Visited Part,
    Finds (visitAll Part.behaviour Press.readAfresh .standard
      [.list [.str ":<>", shown (.int n)]]) forest ∧ forest.markup = countMarkup n := by
  obtain ⟨t, hread, hsketch⟩ := read_count
  refine ⟨_, ?_, markup_shown hsketch n⟩
  have hshown : Finds (visit Part.behaviour Press.readAfresh 100 100 (shown (.int n))) _ :=
    finds_shown hread hsketch n
  exact .fragment rfl (hshown.cons .nil)

def buttonGiven : Entries Part :=
  Factory.attributes [("type", .str "button"), ("on_click", .callable increment)]

theorem handlers_button : buttonGiven.handlers = [("click", increment)] := by
  have htype : Factory.attributeName "type" = "type" := by decide +kernel
  have hclick : Factory.attributeName "on_click" = "on:click" := by decide +kernel
  have hother : (Value.str "type" : Val).sameKey (.str "on:click") = false := by decide +kernel
  have hplain : eventName? (.str "type" : Val) = none := by decide +kernel
  have hevent : eventName? (.str "on:click" : Val) = some "click" := by decide +kernel
  simp [buttonGiven, Factory.attributes, htype, hclick, Entries.ofPairs, Entries.put, hother,
    Entries.handlers, Entries.handler?, hplain, hevent, Value.callable?]

/-- What is read of the three tags of the counter. -/
structure CounterTags (counts root pushes : TagVisit Part) : Prop where
  counts : counts.sketch = countSketch
  root : root.sketch = counterSketch
  pushes : pushes.sketch = buttonSketch

/-- The tags of the counter, and the texts in them. -/
def counterForest (counts root pushes : TagVisit Part) (n : Int) : Visited Part :=
  .node root
    (.node counts (.leaf (.text (toString n)) .nil) (.node pushes (.leaf (.text "+1") .nil) .nil))
    .nil

namespace CounterTags

variable {counts root pushes : TagVisit Part}

/-- The button is the only tag with handlers. -/
theorem handled (h : CounterTags counts root pushes) (n : Int) :
    (counterForest counts root pushes n).handled = [pushes] := by
  have hcounts : counts.isHandled = false := congrArg Sketch.handled h.counts
  have hroot : root.isHandled = false := congrArg Sketch.handled h.root
  have hpushes : pushes.isHandled = true := congrArg Sketch.handled h.pushes
  simp [counterForest, Visited.handled, Forest.labels, hcounts, hroot, hpushes]

/-- The first number that is given away goes to the button. -/
theorem fill (h : CounterTags counts root pushes) {mark : Nat → String}
    (hmark : mark 1 = " data-hiccpy-id=\"hiccpy-1\"") (n : Int) :
    (counterForest counts root pushes n).pieces.fill mark 1 = counterMarkup n := by
  -- the texts have no slots, so they are the same under any number
  have hnumber : ∀ m, Slotted.fill mark m
      (Visited.pieces (.leaf (.text (toString n)) .nil : Visited Part)) = toString n := fun m => by
    rw [Visited.pieces, Slotted.fill, Leaf.print, Text.escape_toString_int]
    exact String.append_empty
  have hsign : ∀ m, Slotted.fill mark m
      (Visited.pieces (.leaf (.text "+1") .nil : Visited Part)) = "+1" := fun m => by
    rw [Visited.pieces, Slotted.fill, Leaf.print, show Text.escape "+1" = "+1" by decide +kernel]
    exact String.append_empty
  have hroot : "<" ++ "div" ++ " id=\"counter\"" ++ "" ++ ">" = "<div id=\"counter\">" := by
    decide +kernel
  have hcount : "<" ++ "span" ++ " id=\"count\"" ++ "" ++ ">" = "<span id=\"count\">" := by
    decide +kernel
  have hcountEnd : "</" ++ "span" ++ ">" = "</span>" := by decide +kernel
  have hend : "<" ++ "button" ++ " type=\"button\"" ++ " data-hiccpy-id=\"hiccpy-1\"" ++ ">" ++
      ("+1" ++ ("</" ++ "button" ++ ">" ++ "")) ++ ("</" ++ "div" ++ ">" ++ "") =
        "<button type=\"button\" data-hiccpy-id=\"hiccpy-1\">+1</button></div>" := by
    decide +kernel
  calc (counterForest counts root pushes n).pieces.fill mark 1
      = "<" ++ "div" ++ " id=\"counter\"" ++ "" ++ ">" ++
          ("<" ++ "span" ++ " id=\"count\"" ++ "" ++ ">" ++ (toString n ++
            ("</" ++ "span" ++ ">" ++ ("<" ++ "button" ++ " type=\"button\"" ++ mark 1 ++ ">" ++
              ("+1" ++ ("</" ++ "button" ++ ">" ++ ""))))) ++ ("</" ++ "div" ++ ">" ++ "")) := by
        -- tag by tag, each around what stands in it
        unfold counterForest
        rw [Visited.fill_node h.root (by decide), Visited.fill_node h.counts (by decide),
          Visited.fill_node h.pushes (by decide), hsign, hnumber]
        rfl
    _ = counterMarkup n := by
        unfold counterMarkup countMarkup
        rw [hmark, hroot, hcount, hcountEnd, ← hend]
        simp only [String.append_assoc]

/-- The rendering of the counter. -/
theorem rendering (h : CounterTags counts root pushes) (hgiven : pushes.given = some buttonGiven)
    {n : Int} (hsound : (counterForest counts root pushes n).Sound) :
    (counterForest counts root pushes n).rendering Settings.standard.idStem =
      ⟨counterMarkup n, [⟨buttonId, [("click", increment)]⟩]⟩ := by
  have hunmarked : ∀ t ∈ (counterForest counts root pushes n).handled, t.Unmarked := by
    intro t ht
    rw [h.handled, List.mem_singleton] at ht
    exact ht ▸ of_decide_eq_true (congrArg Sketch.unmarked h.pushes)
  have hmarkup := Visited.rendering_markup hsound hunmarked Settings.standard.idStem
  rw [h.fill (by decide +kernel)] at hmarkup
  have hexplicit : pushes.explicit = buttonGiven := by
    unfold TagVisit.explicit
    rw [hgiven]
    rfl
  have hid : Recorder.idOf Settings.standard.idStem 1 = buttonId := by decide +kernel
  have hbindings : ((counterForest counts root pushes n).rendering
      Settings.standard.idStem).bindings = [⟨buttonId, [("click", increment)]⟩] := by
    rw [Visited.rendering_bindings hsound, h.handled]
    show [pushes.binding Settings.standard.idStem 1] = _
    unfold TagVisit.binding
    rw [hid, hexplicit, handlers_button]
    rfl
  rw [← hmarkup, ← hbindings]

end CounterTags

/-- The element of the counter. -/
def counterElement (n : Int) : Val :=
  Part.counter.element "Counter" [("count", .int n)] []

/-- Calling the component of the counter. -/
theorem responds_counter (n : Int) :
    Responds Part.behaviour (Part.counter.callable "Counter" ["count"])
      [(.str "count", .int n)] [] (writing [.int n] (counter (.int n))) :=
  .of_bound rfl rfl rfl fun _ _ => rfl

/-- The counter cannot be rendered with a count that is too long. -/
theorem ends_counter {n : Int} (h : Decimal.isWritable n = false) :
    Ends (visitAll Part.behaviour Press.readAfresh .standard [counterElement n])
      (.error .tooManyDigits) := by
  have hcall := responds_counter n
  rw [writing_int h] at hcall
  exact .of_responds rfl hcall

/-- The counter is rendered with the count, and with one binding for the click on its button. -/
theorem finds_counter {n : Int} (hwritable : Decimal.isWritable n = true) :
    ∃ forest : Visited Part,
      Finds (visitAll Part.behaviour Press.readAfresh .standard [counterElement n]) forest ∧
        forest.Sound ∧ forest.rendering Settings.standard.idStem =
          ⟨counterMarkup n, [⟨buttonId, [("click", increment)]⟩]⟩ := by
  obtain ⟨counts, hcounts, hcountsSketch⟩ := read_count
  obtain ⟨root, hroot, hrootSketch⟩ : ∃ t : TagVisit Part,
      TagVisit.read "div" (some (Factory.attributes [("id", .str "counter")])) = .ok t ∧
        t.sketch = counterSketch :=
    TagVisit.exists_read_of_sketch (by decide +kernel)
  obtain ⟨pushes, hpushes, hpushesSketch⟩ : ∃ t : TagVisit Part,
      TagVisit.read "button" (some buttonGiven) = .ok t ∧ t.sketch = buttonSketch :=
    TagVisit.exists_read_of_sketch (by decide +kernel)
  have htags : CounterTags counts root pushes := ⟨hcountsSketch, hrootSketch, hpushesSketch⟩
  have hopen : ∀ {t : TagVisit Part} {sketch : Sketch}, t.sketch = sketch →
      Vocabulary.isVoid sketch.name = false → Vocabulary.isVoid t.tag.name = false :=
    fun hsketch hvoid => (congrArg (fun s => Vocabulary.isVoid s.name) hsketch).trans hvoid
  -- from the inside out: the texts, the tags around them, and the component around it all
  have hshown : Finds (visit Part.behaviour Press.readAfresh 100 99 (shown (.int n))) _ :=
    finds_shown hcounts hcountsSketch n
  have hlabel : Finds (visit Part.behaviour Press.readAfresh 100 98 (.str "+1"))
      (.leaf (.text "+1") .nil) :=
    .text (w := .str "+1") rfl
  have hbutton : Finds (visit Part.behaviour Press.readAfresh 100 99
      (tag "button" [.str "+1"] [("type", .str "button"), ("on_click", .callable increment)]))
      (.node pushes (.leaf (.text "+1") .nil) .nil) :=
    .tag (shape_tag (by decide) _ _) hpushes (hopen hpushesSketch (by decide))
      (congrArg Sketch.carries hpushesSketch) (hlabel.cons .nil)
  have hwhole : Finds (visit Part.behaviour Press.readAfresh 100 100 (counter (.int n)))
      (counterForest counts root pushes n) :=
    .tag (shape_tag (by decide) _ _) hroot (hopen hrootSketch (by decide))
      (congrArg Sketch.carries hrootSketch) (hshown.cons (hbutton.cons .nil))
  have hsound := hwhole.sound (Press.start 0 (.whole 0))
  have hcall := responds_counter n
  rw [writing_of_writable (by simpa using hwritable)] at hcall
  exact ⟨_, .component rfl hcall hwhole, hsound,
    htags.rendering (TagVisit.read_given hpushes) hsound⟩

end Leaderboard
end MarkupTree
