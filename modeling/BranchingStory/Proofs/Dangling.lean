import BranchingStory.Proofs.Foreseen
import BranchingStory.Proofs.Locations
import BranchingStory.Proofs.Topics

/-!
# Dangling references

A review looks a named node up in the list of leaves, and playback follows its address down the
tree. What the review reports never contradicts playback, but it keeps silent about an address that
is listed and does not resolve (`review_of_dottedName`). Such an address takes a name
with a dot in it: in other trees a review reports exactly the names that do not resolve, and says
why they do not (`dangling_iff`).
-/

namespace BranchingStory

open Playback Review

/-- A step names a node: the place in the step, and the address. -/
inductive Step.NamesAt (p : StepPlace) : Step → Location → String → Prop
  | jump (target : String) : NamesAt p (.jump (some target)) (p.field "nodeId") target
  | branch (test : Option Test) (target : String) (otherwise : Option String) :
    NamesAt p (.branch test (some target) otherwise) (p.field "thenNodeId") target
  | otherwise (test : Option Test) (given : Option String) (target : String) :
    NamesAt p (.branch test given (some target)) (p.field "elseNodeId") target
  | option (prompt : Option String) {options : List ChoiceOption} {number : Nat} {o : ChoiceOption}
    {target : String} (ho : options[number]? = some o) (ht : o.target = some target) :
    NamesAt p (.choice prompt options) (p.option number) target

/-- Some step of a story names a node. -/
def Story.NamesAt (story : Story) (location : Location) (target : String) : Prop :=
  ∃ leaf ∈ story.nodes.leaves, ∃ (index : Nat) (step : Step), leaf.2[index]? = some step ∧
    step.NamesAt ⟨leaf.1, index⟩ location target

/-- The issue of a step that names a node which does not resolve. -/
def NodeTree.AddressProblem.issue (problem : AddressProblem) (target : String) : Issue :=
  match problem with
  | .isGroup _ => .targetIsGroup target
  | .notFound _ _ => .targetMissing target

/-- An issue says that a name does not resolve. -/
def Review.Issue.IsAbout (issue : Issue) (target : String) : Prop :=
  issue = .targetIsGroup target ∨ issue = .targetMissing target

namespace Review

variable {story : Story} {p : StepPlace} {step : Step} {location : Location} {target : String}

/-! ## References -/

theorem mem_reference_iff {name : String} {given : Option String} {reference : Reference} :
    reference ∈ p.reference name given ↔
      given = some reference.target ∧ reference.location = p.field name := by
  obtain ⟨location, target⟩ := reference
  cases given with
  | none => simp [StepPlace.reference]
  | some found =>
    constructor
    · intro h
      obtain ⟨rfl, rfl⟩ := Reference.mk.inj (List.mem_singleton.1 h)
      exact ⟨rfl, rfl⟩
    · rintro ⟨hfound, hlocation⟩
      obtain rfl : found = target := Option.some.inj hfound
      obtain rfl : location = p.field name := hlocation
      exact List.mem_singleton_self _

theorem mem_stepReferences_iff :
    ⟨location, target⟩ ∈ stepReferences p step ↔ step.NamesAt p location target := by
  constructor
  · intro h
    cases step with
    | jump given =>
      obtain ⟨rfl, rfl⟩ := mem_reference_iff.1 h
      exact .jump target
    | branch test given otherwise =>
      rcases List.mem_append.1 h with h | h
      · obtain ⟨rfl, rfl⟩ := mem_reference_iff.1 h
        exact .branch test target otherwise
      · obtain ⟨rfl, rfl⟩ := mem_reference_iff.1 h
        exact .otherwise test given target
    | choice prompt options =>
      obtain ⟨⟨o, number⟩, hin, hreference⟩ := List.mem_filterMap.1 h
      obtain ⟨found, ht, heq⟩ := Option.map_eq_some_iff.1 hreference
      obtain ⟨rfl, rfl⟩ := Reference.mk.inj heq
      exact .option prompt (List.mem_zipIdx_iff_getElem?.1 hin) ht
    | _ => exact absurd h List.not_mem_nil
  · intro h
    cases h with
    | jump => exact mem_reference_iff.2 ⟨rfl, rfl⟩
    | branch => exact List.mem_append_left _ (mem_reference_iff.2 ⟨rfl, rfl⟩)
    | otherwise => exact List.mem_append_right _ (mem_reference_iff.2 ⟨rfl, rfl⟩)
    | @option _ options number o _ ho ht =>
      have hin : (o, number) ∈ options.zipIdx := List.mem_zipIdx_iff_getElem?.2 ho
      exact List.mem_filterMap.2 ⟨_, hin, Option.map_eq_some_iff.2 ⟨target, ht, rfl⟩⟩

theorem mem_references_iff :
    ⟨location, target⟩ ∈ references story ↔ story.NamesAt location target := by
  constructor
  · intro h
    obtain ⟨leaf, hleaf, h⟩ := List.mem_flatMap.1 h
    obtain ⟨⟨p, step⟩, hplaced, h⟩ := List.mem_flatMap.1 h
    obtain ⟨⟨found, index⟩, hstep, heq⟩ := List.mem_map.1 hplaced
    obtain ⟨rfl, rfl⟩ := Prod.mk.inj heq
    exact ⟨leaf, hleaf, index, found, List.mem_zipIdx_iff_getElem?.1 hstep,
      mem_stepReferences_iff.1 h⟩
  · rintro ⟨leaf, hleaf, index, step, hstep, hnames⟩
    refine List.mem_flatMap.2 ⟨leaf, hleaf, List.mem_flatMap.2 ⟨_, mem_placedSteps hstep, ?_⟩⟩
    exact mem_stepReferences_iff.2 hnames

end Review

section

variable {p q : StepPlace} {step other : Step} {location : Location} {target given : String}

theorem Location.Within.place_eq {first second : Cursor} (hf : location.Within first)
    (hs : location.Within second) : first = second := by
  obtain ⟨node, index⟩ := first
  obtain ⟨node', index'⟩ := second
  cases hf <;> cases hs <;> rfl

theorem Step.NamesAt.within (h : step.NamesAt p location target) :
    location.Within ⟨p.path, p.index⟩ := by
  cases h with
  | jump => exact .field "nodeId"
  | branch => exact .field "thenNodeId"
  | otherwise => exact .field "elseNodeId"
  | option prompt ho ht => exact .option _

theorem Step.NamesAt.isPart (h : step.NamesAt p location target) : location.IsPart := by
  cases h with
  | jump => exact .field _ _ (by decide)
  | branch => exact .field _ _ (by decide)
  | otherwise => exact .field _ _ (by decide)
  | option prompt ho ht => exact .option _ _ _

theorem Step.NamesAt.target_eq (h : step.NamesAt p location target)
    (hg : step.NamesAt p location given) : target = given := by
  cases h with
  | jump =>
    cases hg with
    | jump => rfl
  | branch =>
    generalize hl : p.field "thenNodeId" = location at hg
    cases hg with
    | branch => rfl
    | otherwise => exact absurd hl (by simp [StepPlace.field])
  | otherwise =>
    generalize hl : p.field "elseNodeId" = location at hg
    cases hg with
    | branch => exact absurd hl (by simp [StepPlace.field])
    | otherwise => rfl
  | option prompt ho ht =>
    cases hg with
    | option prompt ho' ht' =>
      obtain rfl := Option.some.inj (ho.symm.trans ho')
      exact Option.some.inj (ht.symm.trans ht')

theorem Story.NamesAt.target_eq {story : Story} (ho : story.nodes.Ordered)
    (hd : story.nodes.DotFree) (h : story.NamesAt location target)
    (hg : story.NamesAt location given) : target = given := by
  obtain ⟨⟨path, steps⟩, hleaf, index, step, hstep, hnames⟩ := h
  obtain ⟨⟨path', steps'⟩, hleaf', index', step', hstep', hnames'⟩ := hg
  obtain ⟨rfl, rfl⟩ := Cursor.mk.inj (hnames.within.place_eq hnames'.within)
  -- Two leaves with one address would be two answers of `resolve`.
  have hresolve := NodeTree.resolve_of_mem_leaves ho hd hleaf
  rw [NodeTree.resolve_of_mem_leaves ho hd hleaf'] at hresolve
  obtain rfl := Except.ok.inj hresolve
  obtain rfl := Option.some.inj (hstep.symm.trans hstep')
  exact hnames.target_eq hnames'

end

namespace Review

variable {story : Story} {location : Location} {target : String} {f : Finding}

/-! ## Names that do not resolve -/

theorem targetIssue?_eq_some_iff {issue : Issue} :
    targetIssue? story target = some issue ↔
      ∃ problem, story.nodes.resolve target = .error problem ∧
        target ∉ story.nodes.leafPaths ∧ issue = problem.issue target := by
  by_cases hin : target ∈ story.nodes.leafPaths
  · simp [targetIssue?, hin]
  · cases hr : story.nodes.resolve target with
    | ok steps =>
      have hleaf := NodeTree.mem_leaves_of_resolve hr
      exact absurd (List.mem_map.2 ⟨_, hleaf, rfl⟩) hin
    | error problem =>
      have hissue : targetIssue? story target = some (problem.issue target) := by
        rw [targetIssue?, if_neg hin, hr]
        cases problem with
        | isGroup path => rfl
        | notFound path reached => rfl
      rw [hissue]
      constructor
      · intro h
        exact ⟨problem, rfl, hin, (Option.some.inj h).symm⟩
      · rintro ⟨found, hp, -, rfl⟩
        rw [Except.error.inj hp]

theorem exists_of_topic_eq (hf : f ∈ review story) (ht : f.issue.topic = .references) :
    ∃ location target problem, story.NamesAt location target ∧
      story.nodes.resolve target = .error problem ∧ target ∉ story.nodes.leafPaths ∧
        f = ⟨.error, location, problem.issue target⟩ := by
  rw [mem_review_iff, ht] at hf
  obtain ⟨⟨location, target⟩, hr, issue, hissue, rfl⟩ := mem_referenceFindings_iff.1 hf
  obtain ⟨problem, hp, hin, rfl⟩ := targetIssue?_eq_some_iff.1 hissue
  exact ⟨location, target, problem, mem_references_iff.1 hr, hp, hin, rfl⟩

theorem mem_review_of_unlisted {problem : NodeTree.AddressProblem}
    (hn : story.NamesAt location target) (hp : story.nodes.resolve target = .error problem)
    (hin : target ∉ story.nodes.leafPaths) :
    ⟨.error, location, problem.issue target⟩ ∈ review story := by
  have hissue := targetIssue?_eq_some_iff.2 ⟨problem, hp, hin, rfl⟩
  have hf : ⟨.error, location, problem.issue target⟩ ∈ referenceFindings story :=
    mem_referenceFindings_iff.2 ⟨_, mem_references_iff.2 hn, _, hissue, rfl⟩
  rw [mem_review_iff, topic_of_mem_referenceFindings hf]
  exact hf

theorem Issue.isAbout_issue (problem : NodeTree.AddressProblem) (target : String) :
    (problem.issue target).IsAbout target := by
  cases problem with
  | isGroup path => exact .inl rfl
  | notFound path reached => exact .inr rfl

theorem Issue.IsAbout.topic_eq {issue : Issue} (h : issue.IsAbout target) :
    issue.topic = .references := by
  rcases h with rfl | rfl
  · rfl
  · rfl

theorem Issue.IsAbout.target_eq {issue : Issue} {given : String} (h : issue.IsAbout target)
    (hg : issue.IsAbout given) : target = given := by
  rcases h with rfl | rfl
  · simpa [IsAbout] using hg
  · simpa [IsAbout] using hg

/-- At a place where a step names a node, a review reports that the name does not resolve, and why,
unless the name is listed as an address of a leaf. If no name in the tree holds a dot, then a review
reports at that place what keeps the name from resolving, and nothing else about names. -/
theorem dangling_iff (hn : story.NamesAt location target) :
    (∀ f, (f ∈ review story ∧ f.location.text = location.text ∧ f.issue.IsAbout target) ↔
      ∃ problem, story.nodes.resolve target = .error problem ∧ target ∉ story.nodes.leafPaths ∧
        f = ⟨.error, location, problem.issue target⟩) ∧
    (story.nodes.Ordered → story.nodes.DotFree →
      ∀ f, (f ∈ review story ∧ f.location.text = location.text ∧ f.issue.topic = .references) ↔
        ∃ problem, story.nodes.resolve target = .error problem ∧
          f = ⟨.error, location, problem.issue target⟩) := by
  have hsame : ∀ f ∈ review story, f.location.text = location.text →
      f.issue.topic = .references → f.location = location := by
    intro f hf htext ht
    obtain ⟨place, given, problem, hplace, -, -, rfl⟩ := exists_of_topic_eq hf ht
    obtain ⟨_, -, _, _, -, hfirst⟩ := hplace
    obtain ⟨_, -, _, _, -, hsecond⟩ := hn
    exact Location.eq_of_text_eq hfirst.isPart hsecond.isPart htext
  constructor
  · intro f
    constructor
    · rintro ⟨hf, htext, habout⟩
      obtain rfl := hsame f hf htext habout.topic_eq
      obtain ⟨place, given, problem, -, hp, hin, rfl⟩ := exists_of_topic_eq hf habout.topic_eq
      obtain rfl := habout.target_eq (Issue.isAbout_issue problem given)
      exact ⟨problem, hp, hin, rfl⟩
    · rintro ⟨problem, hp, hin, rfl⟩
      exact ⟨mem_review_of_unlisted hn hp hin, rfl, Issue.isAbout_issue problem target⟩
  · intro ho hd f
    constructor
    · rintro ⟨hf, htext, ht⟩
      obtain rfl := hsame f hf htext ht
      obtain ⟨place, given, problem, hplace, hp, -, rfl⟩ := exists_of_topic_eq hf ht
      -- Without dots, a place that is written in this way holds one name only.
      obtain rfl := hn.target_eq ho hd hplace
      exact ⟨problem, hp, rfl⟩
    · rintro ⟨problem, hp, rfl⟩
      have hin : target ∉ story.nodes.leafPaths := by
        intro hin
        obtain ⟨steps, hok⟩ := (NodeTree.mem_leafPaths_iff ho hd).1 hin
        exact absurd (hp.symm.trans hok) (by simp)
      exact ⟨mem_review_of_unlisted hn hp hin, rfl, (Issue.isAbout_issue problem target).topic_eq⟩

/-- A story in which a step names a group and a node that is not there. -/
def looseEnds : Story where
  start := "A"
  vars := some []
  nodes := .group [("A", .leaf [.branch (some fun _ => .ok true) (some "B") (some "C")]),
    ("B", .group [("D", .leaf [.ending])])]
  characters := []
  places := []

theorem dangling_of_looseEnds :
    (∀ f ∈ review looseEnds, f.location.text = "A[0].thenNodeId" → f.issue.topic = .references →
      f.issue = .targetIsGroup "B") ∧
    ⟨.error, .field "A" 0 "elseNodeId", .targetMissing "C"⟩ ∈ review looseEnds := by
  have hleaf : ("A", [.branch (some fun _ => .ok true) (some "B") (some "C")]) ∈
      looseEnds.nodes.leaves := List.mem_cons_self
  have hgroup : looseEnds.NamesAt (.field "A" 0 "thenNodeId") "B" :=
    ⟨_, hleaf, 0, _, rfl, .branch _ _ _⟩
  have hmissing : looseEnds.NamesAt (.field "A" 0 "elseNodeId") "C" :=
    ⟨_, hleaf, 0, _, rfl, .otherwise _ _ _⟩
  have hevery : ∀ {P : List (String × NodeTree) → Prop}, P [("D", .leaf [.ending])] →
      P [("A", .leaf [.branch (some fun _ => .ok true) (some "B") (some "C")]),
        ("B", .group [("D", .leaf [.ending])])] → looseEnds.nodes.EveryGroup P := by
    intro P hbelow htop
    have hinner : (NodeTree.group [("D", .leaf [.ending])]).EveryGroup P :=
      .group hbelow (List.forall_mem_singleton.2 (.leaf _))
    exact .group htop (List.forall_mem_cons.2 ⟨.leaf _, List.forall_mem_singleton.2 hinner⟩)
  have ho : looseEnds.nodes.Ordered := hevery (List.pairwise_singleton _ _)
    (List.pairwise_pair.2 (by decide))
  have hd : looseEnds.nodes.DotFree := hevery (by decide) (by decide)
  constructor
  · intro f hf htext ht
    obtain ⟨problem, hp, rfl⟩ := ((dangling_iff hgroup).2 ho hd f).1 ⟨hf, htext, ht⟩
    obtain rfl : .isGroup "B" = problem := Except.error.inj hp
    rfl
  · exact (((dangling_iff hmissing).1 _).2 ⟨.notFound "C" "", rfl, by decide, rfl⟩).1

/-- A story with a node whose name is an address of two names, as no loaded story has it. -/
def dottedName : Story where
  start := "A"
  vars := some []
  nodes := ((NodeTree.group []).addChild "A" (.leaf [.jump (some "a.b")])).addChild "a.b"
    (.leaf [.ending])
  characters := []
  places := []

/-- Playback does not find the node, but a review has nothing to say about the jump to it. -/
theorem review_of_dottedName :
    dottedName.NamesAt (.field "A" 0 "nodeId") "a.b" ∧
      dottedName.nodes.resolve "a.b" = .error (.notFound "a.b" "") ∧ review dottedName = [] := by
  refine ⟨⟨("A", [.jump (some "a.b")]), List.mem_cons_self, 0, _, rfl, .jump "a.b"⟩, ?_, ?_⟩
  · rfl
  · rfl

end Review

end BranchingStory
