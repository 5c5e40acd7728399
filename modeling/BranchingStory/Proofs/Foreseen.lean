import BranchingStory.Proofs.LoadedTree
import BranchingStory.Proofs.Perform
import BranchingStory.Proofs.Walk
import BranchingStory.Review.Basic

/-!
# What a review foresees

Whatever can be wrong with a step of a story, a review has a finding about that step, and an error
if the step cannot lead where it should (`announce_of_fault`). Most findings come from the rules for
steps; a node that is not there comes out when the references of all steps are looked up, which
takes that the listed leaves are the addresses that resolve.
-/

namespace BranchingStory

open Playback Review

/-- A location is the step at a place, or something in that step. -/
inductive Location.Within (place : Cursor) : Location → Prop
  | step : Within place (.step place.node place.index)
  | field (name : String) : Within place (.field place.node place.index name)
  | option (number : Nat) : Within place (.option place.node place.index number)
  | part (number piece : Nat) : Within place (.part place.node place.index number piece)

/-- A location in a step is written as the step, or as the step, a dot and more. -/
theorem Location.text_of_within {place : Cursor} {location : Location} (h : location.Within place) :
    location.text = place.text ∨ ∃ rest, location.text = place.text ++ "." ++ rest := by
  have hdot : ".options" = "." ++ "options" := rfl
  cases h with
  | step => exact .inl rfl
  | field name => exact .inr ⟨name, rfl⟩
  | option number =>
    refine .inr ⟨"options" ++ bracket number, ?_⟩
    rw [text, hdot]
    simp only [String.append_assoc]
    rfl
  | part number piece =>
    refine .inr ⟨"options" ++ bracket number ++ bracket piece, ?_⟩
    rw [text, hdot]
    simp only [String.append_assoc]
    rfl

/-- Nothing is wrong with where the steps of a story lead. -/
def Story.Connected (story : Story) : Prop :=
  ∀ place step complaint, story.stepAt? place = some step → complaint.isAboutTarget = true →
    ¬ story.Fault step complaint

namespace Review

variable {story : Story} {place : Cursor} {step : Step}

/-- The step at a place, as the place of findings. -/
def stepPlace (place : Cursor) : StepPlace :=
  ⟨place.node, place.index⟩

/-- Findings announce a complaint about the step at a place if one of them is about that step; a
complaint about where the step should lead takes an error. -/
def Announce (findings : List Finding) (place : Cursor) (complaint : Complaint) : Prop :=
  ∃ f ∈ findings, f.location.Within place ∧ (complaint.isAboutTarget = true → f.isError = true)

theorem Announce.mono {findings findings' : List Finding} {complaint : Complaint}
    (h : Announce findings place complaint) (hsub : ∀ f ∈ findings, f ∈ findings') :
    Announce findings' place complaint := by
  obtain ⟨f, hf, hw⟩ := h
  exact ⟨f, hsub f hf, hw⟩

/-! ## Findings about steps -/

theorem mem_placedSteps {leaf : String × List Step} {index : Nat}
    (h : leaf.2[index]? = some step) : (⟨leaf.1, index⟩, step) ∈ placedSteps leaf :=
  List.mem_map.2 ⟨(step, index), List.mem_zipIdx_iff_getElem?.2 h, rfl⟩

/-- A step of a story stands in a leaf, among the steps that a review looks at. -/
theorem exists_leaf_of_stepAt? (hs : story.stepAt? place = some step) :
    ∃ leaf ∈ story.nodes.leaves, (stepPlace place, step) ∈ placedSteps leaf := by
  obtain ⟨steps, hr, hstep⟩ := Story.stepAt?_eq_some_iff.1 hs
  exact ⟨(place.node, steps), NodeTree.mem_leaves_of_resolve hr, mem_placedSteps hstep⟩

theorem mem_review_of_mem_stepFindings (hs : story.stepAt? place = some step) {f : Finding}
    (h : f ∈ stepFindings story (stepPlace place) step) : f ∈ review story := by
  obtain ⟨leaf, hleaf, hplaced⟩ := exists_leaf_of_stepAt? hs
  have hin : f ∈ leafFindings story leaf :=
    List.mem_append_right _ (List.mem_flatMap.2 ⟨_, hplaced, h⟩)
  have hall : f ∈ story.nodes.leaves.flatMap (leafFindings story) :=
    List.mem_flatMap.2 ⟨leaf, hleaf, hin⟩
  simp only [review, List.mem_append]
  exact .inl (.inl (.inl (.inr hall)))

/-! ## References -/

theorem exists_reference (place : Cursor) {target : String} (ht : target ∈ step.targets) :
    ∃ reference ∈ stepReferences (stepPlace place) step,
      reference.target = target ∧ reference.location.Within place := by
  cases step with
  | jump given =>
    obtain rfl := Option.mem_toList.1 ht
    exact ⟨_, List.mem_singleton.2 rfl, rfl, .field "nodeId"⟩
  | branch test given otherwise =>
    rcases List.mem_append.1 ht with ht | ht
    · obtain rfl := Option.mem_toList.1 ht
      exact ⟨_, List.mem_append_left _ (List.mem_singleton.2 rfl), rfl, .field "thenNodeId"⟩
    · obtain rfl := Option.mem_toList.1 ht
      exact ⟨_, List.mem_append_right _ (List.mem_singleton.2 rfl), rfl, .field "elseNodeId"⟩
  | choice prompt options =>
    obtain ⟨o, ho, hto⟩ := List.mem_filterMap.1 ht
    obtain ⟨number, hnumber⟩ := List.mem_iff_getElem?.1 ho
    refine ⟨⟨(stepPlace place).option number, target⟩, ?_, rfl, .option number⟩
    refine List.mem_filterMap.2 ⟨(o, number), List.mem_zipIdx_iff_getElem?.2 hnumber, ?_⟩
    simp only [hto, Option.map_some]
  | _ => exact absurd ht (by simp [Step.targets])

theorem mem_references (hs : story.stepAt? place = some step) {reference : Reference}
    (h : reference ∈ stepReferences (stepPlace place) step) : reference ∈ references story := by
  obtain ⟨leaf, hleaf, hplaced⟩ := exists_leaf_of_stepAt? hs
  exact List.mem_flatMap.2 ⟨leaf, hleaf, List.mem_flatMap.2 ⟨_, hplaced, h⟩⟩

theorem exists_targetIssue (ho : story.nodes.Ordered) (hd : story.nodes.DotFree) {target : String}
    {problem : NodeTree.AddressProblem} (hr : story.nodes.resolve target = .error problem) :
    ∃ issue, targetIssue? story target = some issue := by
  have hn : target ∉ story.nodes.leafPaths := by
    intro hin
    obtain ⟨steps, hok⟩ := (NodeTree.mem_leafPaths_iff ho hd).1 hin
    exact absurd (hr.symm.trans hok) (by simp)
  rw [targetIssue?, if_neg hn]
  split
  · exact ⟨_, rfl⟩
  · exact ⟨_, rfl⟩

/-- A review finds every target that does not resolve. -/
theorem announce_unresolvedTarget (ho : story.nodes.Ordered) (hd : story.nodes.DotFree)
    (hs : story.stepAt? place = some step) {target : String} (ht : target ∈ step.targets)
    {problem : NodeTree.AddressProblem} (hr : story.nodes.resolve target = .error problem) :
    Announce (review story) place (.unresolvedTarget problem) := by
  obtain ⟨reference, href, rfl, hwithin⟩ := exists_reference place ht
  obtain ⟨issue, hissue⟩ := exists_targetIssue ho hd hr
  refine ⟨⟨.error, reference.location, issue⟩, ?_, hwithin, fun _ => rfl⟩
  have hin : ⟨.error, reference.location, issue⟩ ∈ referenceFindings story :=
    List.mem_filterMap.2 ⟨reference, mem_references hs href, by rw [hissue]; rfl⟩
  simp only [review, List.mem_append]
  exact .inl (.inl (.inr hin))

/-! ## What is wrong with a step -/

theorem announce_singleton {complaint : Complaint} {f : Finding} (hw : f.location.Within place)
    (hs : f.severity = .error ∨ complaint.isAboutTarget = false) :
    Announce [f] place complaint := by
  refine ⟨f, List.mem_singleton.2 rfl, hw, fun ht => ?_⟩
  rcases hs with hs | hs
  · rw [Finding.isError, hs]
    rfl
  · exact absurd (ht.symm.trans hs) (by simp)

theorem announce_requires {α : Type} {complaint : Complaint} {kind name : String} :
    Announce ((stepPlace place).requires .error kind name (none : Option α)) place complaint :=
  announce_singleton (.field name) (.inl rfl)

theorem announce_requiresCharacter {complaint : Complaint} {kind name : String}
    {character : Option String}
    (h : ∀ given, character = some given → story.characters.get? given = none) :
    Announce ((stepPlace place).requiresCharacter story kind name character) place complaint := by
  cases character with
  | none => exact announce_singleton (.field name) (.inl rfl)
  | some given =>
    have hn : ¬ story.characters.contains given = true := by simp [Dict.contains, h given rfl]
    rw [StepPlace.requiresCharacter, if_neg hn]
    exact announce_singleton (.field name) (.inl rfl)

theorem announce_incompleteAppearance {name pose : Option String} {position : Option Position}
    (h : name = none ∨ pose = none ∨ position = none) :
    Announce (stepFindings story (stepPlace place) (.showCharacter name pose position)) place
      .incompleteAppearance := by
  rw [stepFindings]
  rcases h with rfl | rfl | rfl
  · have hn : Announce ((stepPlace place).requiresCharacter story "show_character" "id" none) place
        .incompleteAppearance := announce_requiresCharacter (by simp)
    exact hn.mono fun f hf => List.mem_append_left _ (List.mem_append_left _ hf)
  · have hp : Announce (poseFindings story (stepPlace place) name none) place
        .incompleteAppearance := announce_singleton (.field "pose") (.inr rfl)
    exact hp.mono fun f hf => List.mem_append_left _ (List.mem_append_right _ hf)
  · have hp : Announce ((stepPlace place).requires .warning "show_character" "position"
        (none : Option Position)) place .incompleteAppearance :=
      announce_singleton (.field "position") (.inr rfl)
    exact hp.mono fun f hf => List.mem_append_right _ hf

theorem announce_unknownPose {name pose : String} {position : Position} {character : Character}
    (hc : story.characters.get? name = some character) (hp : character.poses.get? pose = none) :
    Announce (stepFindings story (stepPlace place)
      (.showCharacter (some name) (some pose) (some position))) place (.unknownPose name pose) := by
  have hn : ¬ character.poses.contains pose = true := by simp [Dict.contains, hp]
  have hf : Announce (poseFindings story (stepPlace place) (some name) (some pose)) place
      (.unknownPose name pose) := by
    rw [poseFindings]
    simp only [hc, if_neg hn]
    exact announce_singleton (.field "pose") (.inl rfl)
  exact hf.mono fun f hf => List.mem_append_left _ (List.mem_append_right _ hf)

/-- The rules for steps announce what can be wrong with a step, apart from targets that do not
resolve. -/
theorem announce_stepFindings {complaint : Complaint} (hf : story.Fault step complaint)
    (ht : ∀ problem, complaint ≠ .unresolvedTarget problem) :
    Announce (stepFindings story (stepPlace place) step) place complaint := by
  cases hf with
  | noPlace => exact announce_singleton (.field "id") (.inl rfl)
  | @unknownPlace name h =>
    have hn : ¬ story.places.contains name = true := by simp [Dict.contains, h]
    rw [stepFindings, placeFindings, if_neg hn]
    exact announce_singleton (.field "id") (.inl rfl)
  | incompleteAppearance h => exact announce_incompleteAppearance h
  | unknownCharacter h =>
    refine (announce_requiresCharacter ?_).mono fun f hf =>
      List.mem_append_left _ (List.mem_append_left _ hf)
    rintro given ⟨⟩
    exact h
  | unknownPose hc hp => exact announce_unknownPose hc hp
  | nobodyToHide => exact announce_singleton (.field "id") (.inl rfl)
  | noDialogueText speaker => exact announce_requires.mono fun f hf => List.mem_append_right _ hf
  | noNarrationText => exact announce_singleton (.field "text") (.inl rfl)
  | noSpeaker text =>
    exact (announce_requiresCharacter (by simp)).mono fun f hf => List.mem_append_left _ hf
  | unknownSpeaker text h =>
    refine (announce_requiresCharacter ?_).mono fun f hf => List.mem_append_left _ hf
    rintro given ⟨⟩
    exact h
  | incompleteAssignment h =>
    rcases h with rfl | rfl
    · exact announce_requires.mono fun f hf => List.mem_append_left _ hf
    · exact announce_requires.mono fun f hf => List.mem_append_right _ hf
  | noJumpTarget => exact announce_singleton (.field "nodeId") (.inl rfl)
  | noBranchTarget test otherwise =>
    exact announce_requires.mono fun f hf => List.mem_append_right _ hf
  | unresolvedTarget => exact absurd rfl (ht _)
  | noTest target otherwise => exact announce_requires.mono fun f hf => List.mem_append_left _ hf
  | noOptions prompt =>
    have hn : Announce (optionFindings (stepPlace place) []) place .noOptions :=
      announce_singleton (.field "options") (.inl rfl)
    exact hn.mono fun f hf => List.mem_append_right _ hf
  | unknownKind kind => exact announce_singleton .step (.inl rfl)

/-- A review announces whatever can be wrong with a step of a story. -/
theorem announce_of_fault (ho : story.nodes.Ordered) (hd : story.nodes.DotFree)
    (hs : story.stepAt? place = some step) {complaint : Complaint}
    (hf : story.Fault step complaint) : Announce (review story) place complaint := by
  by_cases ht : ∃ problem, complaint = .unresolvedTarget problem
  · obtain ⟨problem, rfl⟩ := ht
    cases hf with
    | unresolvedTarget ht hr => exact announce_unresolvedTarget ho hd hs ht hr
  · have hne : ∀ problem, complaint ≠ .unresolvedTarget problem :=
      fun problem h => ht ⟨problem, h⟩
    exact (announce_stepFindings hf hne).mono fun f hf => mem_review_of_mem_stepFindings hs hf

/-! ## Reviews without errors -/

theorem isError_eq_false {findings : List Finding} (h : hasErrors findings = false) {f : Finding}
    (hf : f ∈ findings) : f.isError = false := by
  rw [hasErrors, List.any_eq_false] at h
  exact Bool.eq_false_iff.2 (h f hf)

/-- If a review has no errors, then every step of the story leads where it should. -/
theorem connected_of_no_errors (ho : story.nodes.Ordered) (hd : story.nodes.DotFree)
    (he : hasErrors (review story) = false) : story.Connected := by
  intro place step complaint hs ht hf
  obtain ⟨f, hmem, -, herror⟩ := announce_of_fault ho hd hs hf
  exact absurd ((herror ht).symm.trans (isError_eq_false he hmem)) (by simp)

/-- If a review has no errors, then the node to start with is there. -/
theorem resolve_start_of_no_errors (he : hasErrors (review story) = false) :
    ∃ steps, story.nodes.resolve story.start = .ok steps := by
  have hin : ∀ f ∈ storyFindings story, f ∈ review story := by
    intro f hf
    simp only [review, List.mem_append]
    exact .inl (.inl (.inl (.inl hf)))
  cases hstart : hasStart story with
  | false =>
    have hf : ⟨.error, .story "start", .noStart⟩ ∈ storyFindings story := by
      simp [storyFindings, findingIf, hstart]
    exact absurd (isError_eq_false he (hin _ hf)) (by simp [Finding.isError])
  | true =>
    cases hr : story.nodes.resolve story.start with
    | ok steps => exact ⟨steps, rfl⟩
    | error problem =>
      have hf : ⟨.error, .story "start", .startUnresolved problem⟩ ∈ storyFindings story := by
        simp [storyFindings, startFindings, hstart, hr]
      exact absurd (isError_eq_false he (hin _ hf)) (by simp [Finding.isError])

end Review

end BranchingStory
