import BranchingStory.Proofs.Foreseen

/-!
# What findings are about

A review consists of five parts, and the issue of a finding tells which part it comes from. So a
finding with some issue is looked for in one part only (`mem_review_iff`).
-/

namespace BranchingStory.Review

/-- The parts of a review. -/
inductive Topic
  | story
  | steps
  | references
  | reach
  | ends

/-- The part of a review that tells about an issue. -/
def Issue.topic : Issue → Topic
  | noStart | noNodes | noVariables | startUnresolved _ => .story
  | targetIsGroup _ | targetMissing _ => .references
  | unreachable => .reach
  | abruptEnd _ => .ends
  | _ => .steps

/-- The findings in one part of a review. -/
def findingsAbout (story : Story) : Topic → List Finding
  | .story => storyFindings story
  | .steps => story.nodes.leaves.flatMap (leafFindings story)
  | .references => referenceFindings story
  | .reach => reachFindings story
  | .ends => story.nodes.leaves.filterMap endFinding?

variable {story : Story} {p : StepPlace} {f : Finding}

theorem eq_of_mem_findingIf {condition : Bool} {severity : Severity} {location : Location}
    {issue : Issue} (h : f ∈ findingIf condition severity location issue) :
    condition = true ∧ f = ⟨severity, location, issue⟩ := by
  rw [findingIf] at h
  split at h
  · next hc => exact ⟨hc, List.mem_singleton.1 h⟩
  · exact absurd h List.not_mem_nil

theorem topic_of_mem_singleton {severity : Severity} {location : Location} {issue : Issue}
    {topic : Topic} (h : f ∈ [⟨severity, location, issue⟩]) (ht : issue.topic = topic) :
    f.issue.topic = topic := by
  rw [List.mem_singleton.1 h]
  exact ht

theorem topic_of_mem_findingIf {condition : Bool} {severity : Severity} {location : Location}
    {issue : Issue} {topic : Topic} (h : f ∈ findingIf condition severity location issue)
    (ht : issue.topic = topic) : f.issue.topic = topic := by
  rw [(eq_of_mem_findingIf h).2]
  exact ht

theorem topic_of_mem_storyFindings (h : f ∈ storyFindings story) : f.issue.topic = .story := by
  rw [storyFindings] at h
  rcases List.mem_append.1 h with h | h
  · rcases List.mem_append.1 h with h | h
    · rcases List.mem_append.1 h with h | h
      · exact topic_of_mem_findingIf h rfl
      · exact topic_of_mem_findingIf h rfl
    · exact topic_of_mem_findingIf h rfl
  · rw [startFindings] at h
    split at h
    · exact topic_of_mem_singleton h rfl
    · exact absurd h List.not_mem_nil

/-! ## Steps -/

/-- A finding of the rules for steps: its issue says that it is one, and its location is the step at
a place or something in that step. -/
structure Finding.OfStep (p : StepPlace) (f : Finding) : Prop where
  topic : f.issue.topic = .steps
  within : f.location.Within ⟨p.path, p.index⟩

theorem ofStep_of_mem_singleton {severity : Severity} {location : Location} {issue : Issue}
    (h : f ∈ [⟨severity, location, issue⟩]) (ht : issue.topic = .steps)
    (hw : location.Within ⟨p.path, p.index⟩) : f.OfStep p := by
  rw [List.mem_singleton.1 h]
  exact ⟨ht, hw⟩

theorem ofStep_of_mem_requires {α : Type} {severity : Severity} {kind name : String}
    {value : Option α} (h : f ∈ p.requires severity kind name value) : f.OfStep p := by
  cases value with
  | some value => exact absurd h List.not_mem_nil
  | none => exact ofStep_of_mem_singleton h rfl (.field name)

theorem ofStep_of_mem_requiresCharacter {kind name : String} {character : Option String}
    (h : f ∈ p.requiresCharacter story kind name character) : f.OfStep p := by
  cases character with
  | none =>
    have hr : f ∈ p.requires .error kind name (none : Option String) := h
    exact ofStep_of_mem_requires hr
  | some character =>
    rw [StepPlace.requiresCharacter] at h
    split at h
    · exact absurd h List.not_mem_nil
    · exact ofStep_of_mem_singleton h rfl (.field name)

theorem ofStep_of_mem_poseFindings {character pose : Option String}
    (h : f ∈ poseFindings story p character pose) : f.OfStep p := by
  cases pose with
  | none =>
    have hr : f ∈ p.requires .warning "show_character" "pose" (none : Option String) := h
    exact ofStep_of_mem_requires hr
  | some pose =>
    cases character with
    | none => exact absurd h List.not_mem_nil
    | some name =>
      unfold poseFindings at h
      dsimp only at h
      split at h
      · exact absurd h List.not_mem_nil
      · split at h
        · exact absurd h List.not_mem_nil
        · exact ofStep_of_mem_singleton h rfl (.field "pose")

theorem ofStep_of_mem_placeFindings {place : Option String} (h : f ∈ placeFindings story p place) :
    f.OfStep p := by
  cases place with
  | none =>
    have hr : f ∈ p.requires .error "background" "id" (none : Option String) := h
    exact ofStep_of_mem_requires hr
  | some name =>
    rw [placeFindings] at h
    split at h
    · exact absurd h List.not_mem_nil
    · exact ofStep_of_mem_singleton h rfl (.field "id")

theorem ofStep_of_mem_optionFindings {options : List ChoiceOption}
    (h : f ∈ optionFindings p options) : f.OfStep p := by
  rcases List.mem_append.1 h with h | h
  · split at h
    · exact ofStep_of_mem_singleton h rfl (.field "options")
    · exact absurd h List.not_mem_nil
  · obtain ⟨⟨o, number⟩, -, hf⟩ := List.mem_filterMap.1 h
    dsimp only at hf
    split at hf
    · exact absurd hf (by simp)
    · rw [← Option.some.inj hf]
      exact ⟨rfl, .option number⟩

theorem ofStep_of_mem_stepFindings {step : Step} (h : f ∈ stepFindings story p step) :
    f.OfStep p := by
  cases step with
  | background place => exact ofStep_of_mem_placeFindings h
  | showCharacter character pose position =>
    rcases List.mem_append.1 h with h | h
    · rcases List.mem_append.1 h with h | h
      · exact ofStep_of_mem_requiresCharacter h
      · exact ofStep_of_mem_poseFindings h
    · exact ofStep_of_mem_requires h
  | hideCharacter character => exact ofStep_of_mem_requires h
  | dialogue speaker text =>
    rcases List.mem_append.1 h with h | h
    · exact ofStep_of_mem_requiresCharacter h
    · exact ofStep_of_mem_requires h
  | narration text => exact ofStep_of_mem_requires h
  | setVariable key source =>
    rcases List.mem_append.1 h with h | h
    · exact ofStep_of_mem_requires h
    · exact ofStep_of_mem_requires h
  | jump target => exact ofStep_of_mem_requires h
  | branch test target otherwise =>
    rcases List.mem_append.1 h with h | h
    · exact ofStep_of_mem_requires h
    · exact ofStep_of_mem_requires h
  | choice prompt options =>
    rcases List.mem_append.1 h with h | h
    · exact ofStep_of_mem_requires h
    · exact ofStep_of_mem_optionFindings h
  | ending => exact absurd h List.not_mem_nil
  | unrecognized kind => exact ofStep_of_mem_singleton h rfl .step

/-! ## Whole reviews -/

theorem topic_of_mem_leafFindings {leaf : String × List Step} (h : f ∈ leafFindings story leaf) :
    f.issue.topic = .steps := by
  rcases List.mem_append.1 h with h | h
  · exact topic_of_mem_findingIf h rfl
  · obtain ⟨⟨place, step⟩, -, hf⟩ := List.mem_flatMap.1 h
    exact (ofStep_of_mem_stepFindings hf).topic

theorem targetIssue?_eq_some {target : String} {issue : Issue}
    (h : targetIssue? story target = some issue) :
    issue = .targetIsGroup target ∨ issue = .targetMissing target := by
  rw [targetIssue?] at h
  split at h
  · exact absurd h (by simp)
  · split at h
    · exact .inl (Option.some.inj h).symm
    · exact .inr (Option.some.inj h).symm

theorem mem_referenceFindings_iff :
    f ∈ referenceFindings story ↔ ∃ reference ∈ references story, ∃ issue,
      targetIssue? story reference.target = some issue ∧
        f = ⟨.error, reference.location, issue⟩ := by
  constructor
  · intro h
    obtain ⟨reference, hr, hf⟩ := List.mem_filterMap.1 h
    obtain ⟨issue, hissue, hf⟩ := Option.map_eq_some_iff.1 hf
    exact ⟨reference, hr, issue, hissue, hf.symm⟩
  · rintro ⟨reference, hr, issue, hissue, rfl⟩
    exact List.mem_filterMap.2 ⟨reference, hr, Option.map_eq_some_iff.2 ⟨issue, hissue, rfl⟩⟩

theorem topic_of_mem_referenceFindings (h : f ∈ referenceFindings story) :
    f.issue.topic = .references := by
  obtain ⟨reference, -, issue, hissue, rfl⟩ := mem_referenceFindings_iff.1 h
  rcases targetIssue?_eq_some hissue with rfl | rfl
  · rfl
  · rfl

theorem topic_of_mem_reachFindings (h : f ∈ reachFindings story) : f.issue.topic = .reach := by
  obtain ⟨path, -, hf⟩ := List.mem_flatMap.1 h
  exact topic_of_mem_findingIf hf rfl

theorem topic_of_endFinding? {leaf : String × List Step} (h : endFinding? leaf = some f) :
    f.issue.topic = .ends := by
  obtain ⟨last, -, hf⟩ := Option.bind_eq_some_iff.1 h
  split at hf
  · exact absurd hf (by simp)
  · rw [← Option.some.inj hf]
    rfl

/-- A finding is in a review if it is in the part that tells about its issue. -/
theorem mem_review_iff : f ∈ review story ↔ f ∈ findingsAbout story f.issue.topic := by
  constructor
  · intro h
    rcases List.mem_append.1 h with h | h
    · rcases List.mem_append.1 h with h | h
      · rcases List.mem_append.1 h with h | h
        · rcases List.mem_append.1 h with h | h
          · rw [topic_of_mem_storyFindings h]
            exact h
          · obtain ⟨leaf, -, hf⟩ := List.mem_flatMap.1 h
            rw [topic_of_mem_leafFindings hf]
            exact h
        · rw [topic_of_mem_referenceFindings h]
          exact h
      · rw [topic_of_mem_reachFindings h]
        exact h
    · obtain ⟨leaf, -, hf⟩ := List.mem_filterMap.1 h
      rw [topic_of_endFinding? hf]
      exact h
  · intro h
    simp only [review, List.mem_append]
    cases ht : f.issue.topic with
    | story =>
      rw [ht] at h
      exact .inl (.inl (.inl (.inl h)))
    | steps =>
      rw [ht] at h
      exact .inl (.inl (.inl (.inr h)))
    | references =>
      rw [ht] at h
      exact .inl (.inl (.inr h))
    | reach =>
      rw [ht] at h
      exact .inl (.inr h)
    | ends =>
      rw [ht] at h
      exact .inr h

end BranchingStory.Review
