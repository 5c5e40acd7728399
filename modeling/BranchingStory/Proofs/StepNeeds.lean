import BranchingStory.Proofs.StepDemands
import BranchingStory.Review.StepRules

/-!
# What a review needs of steps

A field that is missing in a document, or `null`, becomes a missing field of a step, which a review
reports. Two tables have to fit for this: the fields that a kind of step reads, and the fields that
a review looks at. What a review needs is written here as a third one, in terms of the document
(`RawStep.needs`), and both others are compared with it: of the findings about a step that mirrors
an object, those that say something to be missing are about the needs that the object does not meet
(`mem_stepFindings_iff_tells`).
-/

namespace BranchingStory

open Review

namespace Review

/-- What can be missing. -/
inductive Omission
  /-- A field of a step. -/
  | field
  /-- The label of an option. -/
  | label
  /-- The kind of a step. -/
  | kind
deriving DecidableEq

/-- What an issue says to be missing, if it says that. -/
def Issue.omission? : Issue → Option Omission
  | missingField _ _ => some .field
  | noOptions => some .field
  | noLabel => some .label
  | unknownKind _ => some .kind
  | _ => none

variable {story : Story} {p : StepPlace} {f : Finding}

theorem mem_requires_iff {α : Type} {severity : Severity} {kind name : String} {value : Option α} :
    f ∈ p.requires severity kind name value ↔
      value = none ∧ f = ⟨severity, p.field name, .missingField kind name⟩ := by
  cases value with
  | none => simp [StepPlace.requires]
  | some value => simp [StepPlace.requires]

/-- What is there may be unknown, but then it is not missing. -/
theorem notMem_of_omission (ho : f.issue.omission? ≠ none) {severity : Severity}
    {location : Location} {issue : Issue} (hi : issue.omission? = none) :
    f ∉ [⟨severity, location, issue⟩] := by
  intro h
  rw [List.mem_singleton.1 h] at ho
  exact ho hi

theorem mem_placeFindings_iff (ho : f.issue.omission? ≠ none) {place : Option String} :
    f ∈ placeFindings story p place ↔ f ∈ p.requires .error "background" "id" place := by
  cases place with
  | none => rfl
  | some given =>
    rw [placeFindings, StepPlace.requires]
    split
    · rfl
    · exact iff_of_false (notMem_of_omission ho rfl) List.not_mem_nil

theorem mem_requiresCharacter_iff (ho : f.issue.omission? ≠ none) {kind name : String}
    {character : Option String} :
    f ∈ p.requiresCharacter story kind name character ↔
      f ∈ p.requires .error kind name character := by
  cases character with
  | none => rfl
  | some given =>
    rw [StepPlace.requiresCharacter, StepPlace.requires]
    split
    · rfl
    · exact iff_of_false (notMem_of_omission ho rfl) List.not_mem_nil

theorem mem_poseFindings_iff (ho : f.issue.omission? ≠ none) {character pose : Option String} :
    f ∈ poseFindings story p character pose ↔
      f ∈ p.requires .warning "show_character" "pose" pose := by
  cases pose with
  | none => rfl
  | some given =>
    rw [StepPlace.requires]
    unfold poseFindings
    dsimp only
    split
    · rfl
    · split
      · rfl
      · split
        · rfl
        · exact iff_of_false (notMem_of_omission ho rfl) List.not_mem_nil

theorem mem_optionFindings_iff {options : List ChoiceOption} :
    f ∈ optionFindings p options ↔
      (options = [] ∧ f = ⟨.error, p.field "options", .noOptions⟩) ∨
        ∃ number o, options[number]? = some o ∧ hasLabel o = false ∧
          f = ⟨.error, p.option number, .noLabel⟩ := by
  rw [optionFindings, List.mem_append]
  refine or_congr ?_ ?_
  · cases options with
    | nil => simp
    | cons o rest => simp
  · rw [List.mem_filterMap]
    constructor
    · rintro ⟨⟨o, number⟩, hin, hf⟩
      dsimp only at hf
      split at hf
      · exact absurd hf (by simp)
      · next hn =>
        exact ⟨number, o, List.mem_zipIdx_iff_getElem?.1 hin, Bool.not_eq_true _ ▸ hn,
          (Option.some.inj hf).symm⟩
    · rintro ⟨number, o, hin, hn, rfl⟩
      exact ⟨(o, number), List.mem_zipIdx_iff_getElem?.2 hin, by simp [hn]⟩

end Review

namespace Document

/-- A field is missing or `null`. -/
def Absent (field : Option Json) : Prop :=
  field = none ∨ field = some .null

/-- An option of a choice whose label is `null` or empty. -/
inductive Unlabelled : Json → Prop
  | null (rest : List Json) : Unlabelled (.array (.null :: rest))
  | empty (rest : List Json) : Unlabelled (.array (.string "" :: rest))

/-- Something that a review needs of a step, and what it says without it. -/
structure Need where
  /-- How bad it is to be without it. -/
  severity : Severity
  /-- Where it should be. -/
  location : Location
  /-- What is said without it. -/
  issue : Issue
  /-- The step is without it. -/
  unmet : Prop

/-- The finding that a need is not met. -/
def Need.finding (need : Need) : Finding :=
  ⟨need.severity, need.location, need.issue⟩

/-- A need is not met, and a finding is about that. -/
def Need.Tells (need : Need) (f : Finding) : Prop :=
  need.unmet ∧ f = need.finding

/-- The kinds of steps. -/
def stepKinds : List String :=
  ["background", "show_character", "hide_character", "dialogue", "narration", "set_variable",
    "jump_to", "conditional_jump", "choice", "end_story"]

/-- The fields that a step of a kind cannot do without, each by itself. -/
def requiredFields : String → List (String × Severity)
  | "background" => [("id", .error)]
  | "show_character" => [("id", .error), ("pose", .warning), ("position", .warning)]
  | "hide_character" => [("id", .error)]
  | "dialogue" => [("who", .error), ("text", .error)]
  | "narration" => [("text", .error)]
  | "set_variable" => [("key", .error)]
  | "jump_to" => [("nodeId", .error)]
  | "conditional_jump" => [("test", .error), ("thenNodeId", .error)]
  | "choice" => [("prompt", .warning)]
  | _ => []

namespace RawStep

variable (raw : RawStep)

/-- A step of a kind needs a field. -/
def needsField (kind : String) (field : String × Severity) : Need where
  severity := field.2
  location := raw.place field.1
  issue := .missingField kind field.1
  unmet := Absent (raw.fields.get? field.1)

/-- A variable needs a value, which may be computed. -/
def needsValue : Need where
  severity := .error
  location := raw.place "value"
  issue := .missingField "set_variable" "value"
  unmet := Absent (raw.fields.get? "value") ∧ Absent (raw.fields.get? "compute")

/-- A choice needs an option. -/
def needsOptions : Need where
  severity := .error
  location := raw.place "options"
  issue := .noOptions
  unmet := Absent (raw.fields.get? "options") ∨ raw.fields.get? "options" = some (.array [])

/-- The option with a number needs a label. -/
def needsLabel (item : Json × Nat) : Need where
  severity := .error
  location := .option raw.path raw.index item.2
  issue := .noLabel
  unmet := Unlabelled item.1

/-- The step needs a kind that is known. -/
def needsKind : Need where
  severity := .error
  location := .step raw.path raw.index
  issue := .unknownKind ((raw.textAt "kind").getD "")
  unmet := Absent (raw.fields.get? "kind") ∨
    ∃ kind, raw.fields.get? "kind" = some (.string kind) ∧ kind ∉ stepKinds

/-- What is needed of the options in a field. -/
def labelNeeds : Option Json → List Need
  | some (.array items) => items.zipIdx.map raw.needsLabel
  | _ => []

/-- What a step of a kind needs besides the fields that it cannot do without. -/
def furtherNeeds : String → List Need
  | "set_variable" => [raw.needsValue]
  | "choice" => raw.needsOptions :: raw.labelNeeds (raw.fields.get? "options")
  | _ => []

/-- What a step of a kind needs. -/
def needsOf (kind : String) : List Need :=
  (requiredFields kind).map (raw.needsField kind) ++ raw.furtherNeeds kind

/-- What a step needs. -/
def needs : List Need :=
  raw.needsKind ::
    match raw.textAt "kind" with
    | some kind => raw.needsOf kind
    | none => []

/-! ## Fields -/

variable {raw}

theorem string?_eq_none_iff {P : String → Prop} {field : Option Json} (h : OptionalText P field) :
    field.bind Json.string? = none ↔ Absent field := by
  cases h with
  | absent => exact ⟨fun _ => .inl rfl, fun _ => rfl⟩
  | null => exact ⟨fun _ => .inr rfl, fun _ => rfl⟩
  | text _ => simp [Absent, Json.string?]

theorem textAt_eq_some_iff {name s : String} :
    raw.textAt name = some s ↔ raw.fields.get? name = some (.string s) := by
  rw [textAt]
  constructor
  · intro h
    obtain ⟨json, hjson, hs⟩ := Option.bind_eq_some_iff.1 h
    rw [hjson]
    cases json with
    | string t =>
      obtain rfl : t = s := Option.some.inj hs
      rfl
    | _ => exact absurd hs (by simp [Json.string?])
  · intro h
    rw [h]
    rfl

/-- A step meets all demands. -/
def Meets (raw : RawStep) : Prop :=
  ∀ d ∈ raw.demands, d.holds

/-- A field that a rule for texts is about holds a text unless it is absent. -/
theorem Meets.textAt_eq_none_iff (h : raw.Meets) (name : String) {kind : String} {rule : FieldRule}
    (hk : raw.textAt "kind" = some kind) (hin : (name, rule) ∈ fieldsRead kind)
    (hrule : rule ≠ .value ∧ rule ≠ .options) :
    raw.textAt name = none ↔ Absent (raw.fields.get? name) := by
  have hfield : ∀ d ∈ raw.fieldDemands name rule, d.holds := by
    intro d hd
    refine h d (List.mem_append_right _ ?_)
    rw [hk]
    exact List.mem_flatMap.2 ⟨_, hin, hd⟩
  cases rule with
  | text | position | formula => exact string?_eq_none_iff (hfield _ (List.mem_singleton_self _))
  | value => exact absurd rfl hrule.1
  | options => exact absurd rfl hrule.2

theorem position?_eq_none_iff {field : Option Json}
    (h : OptionalText (fun s => s ∈ ["left", "center", "right"]) field) :
    (field.bind Json.string?).bind Position.ofName? = none ↔ Absent field := by
  cases h with
  | absent => exact ⟨fun _ => .inl rfl, fun _ => rfl⟩
  | null => exact ⟨fun _ => .inr rfl, fun _ => rfl⟩
  | @text s hs =>
    have hsome := isSome_ofName?_iff.2 hs
    cases hp : Position.ofName? s with
    | none => exact absurd hsome (by simp [hp])
    | some p => simp [Absent, Json.string?, hp]

theorem Meets.position_eq_none_iff (h : raw.Meets)
    (hk : raw.textAt "kind" = some "show_character") :
    (raw.textAt "position").bind Position.ofName? = none ↔
      Absent (raw.fields.get? "position") := by
  refine position?_eq_none_iff (h ⟨raw.place "position", _⟩ (List.mem_append_right _ ?_))
  rw [hk]
  simp [fieldsRead, fieldDemands]

/-- A variable is without a value if none is given and none is computed. -/
theorem Meets.source_eq_none_iff (h : raw.Meets) (hk : raw.textAt "kind" = some "set_variable")
    {source : Option ValueSource} (hs : raw.SourceMirrors source) :
    source = none ↔ raw.needsValue.unmet := by
  have hcompute := h.textAt_eq_none_iff "compute" hk (.tail _ (.head _)) (by simp)
  cases hs with
  | computed hc _ =>
    refine ⟨fun h => absurd h (by simp), fun h => ?_⟩
    exact absurd (hc.symm.trans (hcompute.2 h.2)) (by simp)
  | @literal json value hc hj hv =>
    refine ⟨fun h => absurd h (by simp), fun h => ?_⟩
    rcases h.1 with hnone | hnull
    · exact absurd (hj.symm.trans hnone) (by simp)
    · obtain rfl : json = .null := Option.some.inj (hj.symm.trans hnull)
      exact absurd hv (by simp [Value.ofJson?])
  | absent hc hv => exact ⟨fun _ => ⟨hv, hcompute.1 hc⟩, fun _ => rfl⟩

theorem TestMirrors.eq_none_iff {test : Option Test} (h : raw.TestMirrors test) :
    test = none ↔ raw.textAt "test" = none := by
  cases h with
  | formula ht _ => simp [ht]
  | absent ht => simp [ht]

theorem Meets.kind_eq_none_iff (h : raw.Meets) :
    raw.textAt "kind" = none ↔ Absent (raw.fields.get? "kind") :=
  string?_eq_none_iff (h _ (List.mem_append_left _ (List.mem_singleton_self _)))

/-! ## Steps -/

variable {story : Story} {step : Step} {f : Finding}

/-- If the kind of a step is known, then what it needs is what its kind needs. -/
theorem exists_needs_iff {kind : String} (hk : raw.textAt "kind" = some kind)
    (hin : kind ∈ stepKinds) :
    (∃ need ∈ raw.needs, need.Tells f) ↔
      (∃ field ∈ requiredFields kind, (raw.needsField kind field).Tells f) ∨
        ∃ need ∈ raw.furtherNeeds kind, need.Tells f := by
  have hkind : ¬ raw.needsKind.unmet := by
    have hfield := textAt_eq_some_iff.1 hk
    rintro (habsent | ⟨other, hother, hn⟩)
    · rcases habsent with h | h
      · exact absurd (hfield.symm.trans h) (by simp)
      · exact absurd (hfield.symm.trans h) (by simp)
    · obtain rfl : kind = other := by simpa using hfield.symm.trans hother
      exact hn hin
  rw [needs, hk]
  simp only [List.mem_cons, needsOf, List.mem_append, List.mem_map]
  constructor
  · rintro ⟨need, rfl | ⟨field, hfield, rfl⟩ | hneed, ht⟩
    · exact absurd ht.1 hkind
    · exact .inl ⟨field, hfield, ht⟩
    · exact .inr ⟨need, hneed, ht⟩
  · rintro (⟨field, hfield, ht⟩ | ⟨need, hneed, ht⟩)
    · exact ⟨_, .inr (.inl ⟨field, hfield, rfl⟩), ht⟩
    · exact ⟨need, .inr (.inr hneed), ht⟩

/-- Of a step whose kind is not known nothing else is needed. -/
theorem needsOf_of_notMem {kind : String} (h : kind ∉ stepKinds) : raw.needsOf kind = [] := by
  have hrequired : requiredFields kind = [] := by
    unfold requiredFields
    split <;> first | rfl | exact absurd (by decide) h
  have hfurther : raw.furtherNeeds kind = [] := by
    unfold furtherNeeds
    split <;> first | rfl | exact absurd (by decide) h
  rw [needsOf, hrequired, hfurther]
  rfl

theorem exists_needs_iff_of_eq (hneeds : raw.needs = [raw.needsKind])
    (hunmet : raw.needsKind.unmet) :
    (∃ need ∈ raw.needs, need.Tells f) ↔ f ∈ [raw.needsKind.finding] := by
  rw [hneeds]
  simp [Need.Tells, hunmet]

/-- The rule for a field says what the need says. -/
theorem mem_requires_iff_tells {α : Type} {kind name : String} {severity : Severity}
    {value : Option α} (h : value = none ↔ Absent (raw.fields.get? name)) :
    f ∈ (StepPlace.mk raw.path raw.index).requires severity kind name value ↔
      (raw.needsField kind (name, severity)).Tells f := by
  rw [mem_requires_iff, h]
  rfl

/-- An option has no label to read if the value that it is read from is unlabelled. -/
theorem hasLabel_eq_false_iff {number : Nat} {json : Json} {o : ChoiceOption}
    (hformed : OptionFormed raw.language json) (hm : raw.OptionMirrors number json o) :
    hasLabel o = false ↔ Unlabelled json := by
  cases hm with
  | @array parts effect _ =>
    cases hformed with
    | array hlen hlabel _ _ =>
      rcases parts with _ | ⟨first, rest⟩
      · exact absurd hlen (by simp)
      · cases hlabel with
        | null => exact ⟨fun _ => .null rest, fun _ => rfl⟩
        | @text s _ =>
          have hs : hasLabel ⟨some s, rest[0]?.bind Json.string?, effect⟩ = false ↔ s = "" := by
            simp [hasLabel]
          refine hs.trans ⟨?_, ?_⟩
          · rintro rfl
            exact .empty rest
          · intro h
            cases h
            rfl

/-- The options that a choice is read from are formed as options are. -/
theorem Meets.optionFormed (h : raw.Meets) (hk : raw.textAt "kind" = some "choice")
    {items : List Json} (ho : raw.fields.get? "options" = some (.array items)) {number : Nat}
    {item : Json} (hitem : items[number]? = some item) : OptionFormed raw.language item := by
  refine h ⟨.option raw.path raw.index number, _⟩ (List.mem_append_right _ ?_)
  rw [hk]
  simp only [fieldsRead, List.flatMap_cons, List.mem_append, fieldDemands, ho, optionDemands]
  refine .inr (.inl (.tail _ (List.mem_map.2 ⟨(item, number), ?_, rfl⟩)))
  exact List.mem_zipIdx_iff_getElem?.2 hitem

theorem exists_labelNeeds_iff {items : List Json} :
    (∃ need ∈ raw.labelNeeds (some (.array items)), need.Tells f) ↔
      ∃ number item, items[number]? = some item ∧ (raw.needsLabel (item, number)).Tells f := by
  constructor
  · rintro ⟨need, hneed, ht⟩
    obtain ⟨⟨item, number⟩, hin, rfl⟩ := List.mem_map.1 hneed
    exact ⟨number, item, List.mem_zipIdx_iff_getElem?.1 hin, ht⟩
  · rintro ⟨number, item, hitem, ht⟩
    exact ⟨_, List.mem_map.2 ⟨(item, number), List.mem_zipIdx_iff_getElem?.2 hitem, rfl⟩, ht⟩

theorem mem_optionFindings_iff_tells (hmeets : raw.Meets) (hk : raw.textAt "kind" = some "choice")
    {options : List ChoiceOption} (hm : raw.OptionsMirror (raw.fields.get? "options") options) :
    f ∈ optionFindings ⟨raw.path, raw.index⟩ options ↔
      ∃ need ∈ raw.furtherNeeds "choice", need.Tells f := by
  rw [mem_optionFindings_iff, furtherNeeds]
  simp only [List.mem_cons, exists_eq_or_imp]
  generalize hfield : raw.fields.get? "options" = field at hm
  have htells : ∀ unmet : Prop, (raw.needsOptions.unmet ↔ unmet) →
      (raw.needsOptions.Tells f ↔
        unmet ∧ f = ⟨.error, (StepPlace.mk raw.path raw.index).field "options", .noOptions⟩) :=
    fun unmet h => and_congr_left' h
  cases hm with
  | absent | null =>
    rw [htells True (by simp [needsOptions, hfield, Absent])]
    simp [labelNeeds]
  | @array items options hnumbered =>
    have hempty : raw.needsOptions.unmet ↔ options = [] := by
      rw [← List.length_eq_zero_iff, hnumbered.length_eq, List.length_eq_zero_iff]
      simp [needsOptions, hfield, Absent]
    rw [htells _ hempty, exists_labelNeeds_iff]
    refine or_congr_right (exists_congr fun number => ?_)
    constructor
    · rintro ⟨o, ho, hlabel, rfl⟩
      obtain ⟨item, hitem, hbuilt⟩ := hnumbered.exists_built ho
      have hformed := hmeets.optionFormed hk hfield hitem
      exact ⟨item, hitem, (hasLabel_eq_false_iff hformed hbuilt).1 hlabel, rfl⟩
    · rintro ⟨item, hitem, hunmet, rfl⟩
      obtain ⟨o, ho, hbuilt⟩ := hnumbered.exists_of_built hitem
      have hformed := hmeets.optionFormed hk hfield hitem
      exact ⟨o, ho, (hasLabel_eq_false_iff hformed hbuilt).2 hunmet, rfl⟩

/-! ## Kinds of steps -/

/-- A step of a kind that cannot do without one field needs nothing but that. -/
theorem mem_requires_iff_needs {α : Type} {kind name : String} {severity : Severity}
    {value : Option α} (hk : raw.textAt "kind" = some kind) (hin : kind ∈ stepKinds)
    (hrequired : requiredFields kind = [(name, severity)]) (hfurther : raw.furtherNeeds kind = [])
    (h : value = none ↔ Absent (raw.fields.get? name)) :
    f ∈ (StepPlace.mk raw.path raw.index).requires severity kind name value ↔
      ∃ need ∈ raw.needs, need.Tells f := by
  rw [exists_needs_iff hk hin, hrequired, hfurther, mem_requires_iff_tells h]
  simp

/-- A step of a kind that cannot do without two fields needs nothing but these. -/
theorem mem_requires_or_iff_needs {α β : Type} {kind name other : String}
    {severity severity' : Severity} {value : Option α} {value' : Option β}
    (hk : raw.textAt "kind" = some kind) (hin : kind ∈ stepKinds)
    (hrequired : requiredFields kind = [(name, severity), (other, severity')])
    (hfurther : raw.furtherNeeds kind = []) (h : value = none ↔ Absent (raw.fields.get? name))
    (h' : value' = none ↔ Absent (raw.fields.get? other)) :
    f ∈ (StepPlace.mk raw.path raw.index).requires severity kind name value ∨
        f ∈ (StepPlace.mk raw.path raw.index).requires severity' kind other value' ↔
      ∃ need ∈ raw.needs, need.Tells f := by
  rw [exists_needs_iff hk hin, hrequired, hfurther, mem_requires_iff_tells h,
    mem_requires_iff_tells h']
  simp

theorem mem_backgroundFindings_iff (hmeets : raw.Meets) (ho : f.issue.omission? ≠ none)
    (hk : raw.textAt "kind" = some "background") :
    f ∈ stepFindings story ⟨raw.path, raw.index⟩ (.background (raw.textAt "id")) ↔
      ∃ need ∈ raw.needs, need.Tells f := by
  have hid := hmeets.textAt_eq_none_iff "id" hk (.head _) (by simp)
  rw [stepFindings, mem_placeFindings_iff ho]
  exact mem_requires_iff_needs hk (by decide) rfl rfl hid

theorem mem_showCharacterFindings_iff (hmeets : raw.Meets) (ho : f.issue.omission? ≠ none)
    (hk : raw.textAt "kind" = some "show_character") :
    f ∈ stepFindings story ⟨raw.path, raw.index⟩ (.showCharacter (raw.textAt "id")
        (raw.textAt "pose") ((raw.textAt "position").bind Position.ofName?)) ↔
      ∃ need ∈ raw.needs, need.Tells f := by
  have hid := hmeets.textAt_eq_none_iff "id" hk (.head _) (by simp)
  have hpose := hmeets.textAt_eq_none_iff "pose" hk (.tail _ (.head _)) (by simp)
  have hposition := hmeets.position_eq_none_iff hk
  rw [exists_needs_iff hk (by decide), stepFindings, List.mem_append, List.mem_append,
    mem_requiresCharacter_iff ho, mem_poseFindings_iff ho, mem_requires_iff_tells hid,
    mem_requires_iff_tells hpose, mem_requires_iff_tells hposition]
  simp [requiredFields, furtherNeeds, or_assoc]

theorem mem_dialogueFindings_iff (hmeets : raw.Meets) (ho : f.issue.omission? ≠ none)
    (hk : raw.textAt "kind" = some "dialogue") :
    f ∈ stepFindings story ⟨raw.path, raw.index⟩
        (.dialogue (raw.textAt "who") (raw.textAt "text")) ↔
      ∃ need ∈ raw.needs, need.Tells f := by
  have hwho := hmeets.textAt_eq_none_iff "who" hk (.head _) (by simp)
  have htext := hmeets.textAt_eq_none_iff "text" hk (.tail _ (.head _)) (by simp)
  rw [stepFindings, List.mem_append, mem_requiresCharacter_iff ho]
  exact mem_requires_or_iff_needs hk (by decide) rfl rfl hwho htext

/-- A variable needs its name, and a value that is given or computed. -/
theorem mem_setVariableFindings_iff (hmeets : raw.Meets)
    (hk : raw.textAt "kind" = some "set_variable") {source : Option ValueSource}
    (hs : raw.SourceMirrors source) :
    f ∈ stepFindings story ⟨raw.path, raw.index⟩ (.setVariable (raw.textAt "key") source) ↔
      ∃ need ∈ raw.needs, need.Tells f := by
  have hkey := hmeets.textAt_eq_none_iff "key" hk (.head _) (by simp)
  have hvalue := hmeets.source_eq_none_iff hk hs
  rw [exists_needs_iff hk (by decide), stepFindings, List.mem_append,
    mem_requires_iff_tells hkey, mem_requires_iff, hvalue]
  simp [requiredFields, furtherNeeds, Need.Tells, Need.finding, needsValue, StepPlace.field, place]

theorem mem_branchFindings_iff (hmeets : raw.Meets)
    (hk : raw.textAt "kind" = some "conditional_jump") {test : Option Test}
    (ht : raw.TestMirrors test) :
    f ∈ stepFindings story ⟨raw.path, raw.index⟩
        (.branch test (raw.textAt "thenNodeId") (raw.textAt "elseNodeId")) ↔
      ∃ need ∈ raw.needs, need.Tells f := by
  have htest := hmeets.textAt_eq_none_iff "test" hk (.head _) (by simp)
  have htarget := hmeets.textAt_eq_none_iff "thenNodeId" hk (.tail _ (.head _)) (by simp)
  rw [stepFindings, List.mem_append]
  exact mem_requires_or_iff_needs hk (by decide) rfl rfl (ht.eq_none_iff.trans htest) htarget

theorem mem_choiceFindings_iff (hmeets : raw.Meets) (hk : raw.textAt "kind" = some "choice")
    {options : List ChoiceOption} (hm : raw.OptionsMirror (raw.fields.get? "options") options) :
    f ∈ stepFindings story ⟨raw.path, raw.index⟩ (.choice (raw.textAt "prompt") options) ↔
      ∃ need ∈ raw.needs, need.Tells f := by
  have hprompt := hmeets.textAt_eq_none_iff "prompt" hk (.head _) (by simp)
  rw [exists_needs_iff hk (by decide), stepFindings, List.mem_append,
    mem_requires_iff_tells hprompt, mem_optionFindings_iff_tells hmeets hk hm]
  simp [requiredFields]

/-- A step whose kind is missing or not known needs a kind, and nothing else. -/
theorem mem_unrecognizedFindings_iff {kind : String} (hkind : (raw.textAt "kind").getD "" = kind)
    (hunmet : raw.needsKind.unmet) (hneeds : raw.needs = [raw.needsKind]) :
    f ∈ stepFindings story ⟨raw.path, raw.index⟩ (.unrecognized kind) ↔
      ∃ need ∈ raw.needs, need.Tells f := by
  rw [stepFindings, exists_needs_iff_of_eq hneeds hunmet, Need.finding, needsKind, hkind]

/-- The findings of the rules for steps that say that something is missing are about the needs of
the step that are not met. -/
theorem mem_stepFindings_iff_tells (hm : raw.Mirrors step) (hmeets : raw.Meets)
    (ho : f.issue.omission? ≠ none) :
    f ∈ stepFindings story ⟨raw.path, raw.index⟩ step ↔ ∃ need ∈ raw.needs, need.Tells f := by
  -- The rules look at the fields of the step. In each case these are missing if and only if those
  -- of the object that its kind requires are absent.
  cases hm with
  | background hk => exact mem_backgroundFindings_iff hmeets ho hk
  | showCharacter hk => exact mem_showCharacterFindings_iff hmeets ho hk
  | hideCharacter hk =>
    have hid := hmeets.textAt_eq_none_iff "id" hk (.head _) (by simp)
    exact mem_requires_iff_needs hk (by decide) rfl rfl hid
  | dialogue hk => exact mem_dialogueFindings_iff hmeets ho hk
  | narration hk =>
    have htext := hmeets.textAt_eq_none_iff "text" hk (.head _) (by simp)
    exact mem_requires_iff_needs hk (by decide) rfl rfl htext
  | setVariable hk hs => exact mem_setVariableFindings_iff hmeets hk hs
  | jump hk =>
    have htarget := hmeets.textAt_eq_none_iff "nodeId" hk (.head _) (by simp)
    exact mem_requires_iff_needs hk (by decide) rfl rfl htarget
  | branch hk ht => exact mem_branchFindings_iff hmeets hk ht
  | choice hk hoptions => exact mem_choiceFindings_iff hmeets hk hoptions
  | ending hk =>
    rw [exists_needs_iff hk (by decide), stepFindings]
    simp [requiredFields, furtherNeeds]
  | @unrecognized kind hk hn =>
    have hneeds : raw.needs = [raw.needsKind] := by
      rw [needs, hk]
      exact congrArg _ (needsOf_of_notMem hn)
    exact mem_unrecognizedFindings_iff (by rw [hk]; rfl) (.inr ⟨kind, textAt_eq_some_iff.1 hk, hn⟩)
      hneeds
  | unnamed hk =>
    have hneeds : raw.needs = [raw.needsKind] := by rw [needs, hk]
    exact mem_unrecognizedFindings_iff (by rw [hk]; rfl) (.inl (hmeets.kind_eq_none_iff.1 hk))
      hneeds

end RawStep

end Document

end BranchingStory
