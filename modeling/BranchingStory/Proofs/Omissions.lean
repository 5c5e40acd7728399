import BranchingStory.Proofs.Locations
import BranchingStory.Proofs.Mirrored
import BranchingStory.Proofs.ScriptPlaces
import BranchingStory.Proofs.StepNeeds

/-!
# What documents leave out

A review of a story reports what its document leaves out, at the place where it is missing
(`omissions_reported`). Steps of the story and items of the document correspond to each other
(`ReadFrom`), and what is found missing in a step are its needs that are not met.

Places are compared as they are written. A written place may belong to two steps, but not if one
knows what is said to be missing there (`Omission.At.eq_of_text_eq`), so a finding at the place of a
need is about this need.
-/

namespace BranchingStory

open Playback Review

namespace Review

/-- A place where something can be missing in the step with a number. -/
inductive Omission.At (path : String) (index : Nat) : Omission → Location → Prop
  | field {name : String} (h : ']' ∉ name.toList) : At path index .field (.field path index name)
  | label (number : Nat) : At path index .label (.option path index number)
  | kind : At path index .kind (.step path index)

theorem Omission.At.within {path : String} {index : Nat} {o : Omission} {location : Location}
    (h : o.At path index location) : location.Within ⟨path, index⟩ := by
  cases h with
  | field _ => exact .field _
  | label number => exact .option number
  | kind => exact .step

/-- If it is known what is missing, then its place can be read off how it is written. -/
theorem Omission.At.eq_of_text_eq {path path' : String} {index index' : Nat} {o : Omission}
    {location location' : Location} (h : o.At path index location)
    (h' : o.At path' index' location') (ht : location.text = location'.text) :
    location = location' := by
  cases h with
  | field hn =>
    cases h' with
    | field hn' => exact Location.field_text_inj hn hn' ht
  | label number =>
    cases h' with
    | label number' => exact Location.option_text_inj ht
  | kind =>
    cases h' with
    | kind =>
      obtain ⟨rfl, rfl⟩ := Location.append_bracket_inj ht
      rfl

end Review

namespace Document

namespace RawStep

variable {raw : RawStep}

/-! ## Places of needs -/

theorem eq_of_mem_labelNeeds {field : Option Json} {need : Need}
    (h : need ∈ raw.labelNeeds field) : ∃ item, need = raw.needsLabel item := by
  unfold labelNeeds at h
  split at h
  · obtain ⟨item, -, rfl⟩ := List.mem_map.1 h
    exact ⟨item, rfl⟩
  · exact absurd h List.not_mem_nil

theorem eq_of_mem_furtherNeeds {kind : String} {need : Need} (h : need ∈ raw.furtherNeeds kind) :
    (kind = "set_variable" ∧ need = raw.needsValue) ∨ (kind = "choice" ∧ need = raw.needsOptions) ∨
      ∃ item, need = raw.needsLabel item := by
  unfold furtherNeeds at h
  split at h
  · exact .inl ⟨rfl, List.mem_singleton.1 h⟩
  · rcases List.mem_cons.1 h with h | h
    · exact .inr (.inl ⟨rfl, h⟩)
    · exact .inr (.inr (eq_of_mem_labelNeeds h))
  · exact absurd h List.not_mem_nil

theorem notMem_of_mem_requiredFields {kind : String} {field : String × Severity}
    (h : field ∈ requiredFields kind) : ']' ∉ field.1.toList := by
  have hall : ∀ field ∈ requiredFields kind, ']' ∉ field.1.toList := by
    unfold requiredFields
    split <;> decide
  exact hall field h

theorem at_of_mem_needsOf {kind : String} {need : Need} (h : need ∈ raw.needsOf kind) :
    ∃ o, need.issue.omission? = some o ∧ o.At raw.path raw.index need.location ∧ o ≠ .kind := by
  rcases List.mem_append.1 h with h | h
  · obtain ⟨field, hfield, rfl⟩ := List.mem_map.1 h
    exact ⟨.field, rfl, .field (notMem_of_mem_requiredFields hfield), by decide⟩
  · obtain ⟨-, rfl⟩ | ⟨-, rfl⟩ | ⟨item, rfl⟩ := eq_of_mem_furtherNeeds h
    · exact ⟨.field, rfl, .field (by decide), by decide⟩
    · exact ⟨.field, rfl, .field (by decide), by decide⟩
    · exact ⟨.label, rfl, .label item.2, by decide⟩

/-- The place of a need fits what is missing there. -/
theorem at_of_mem_needs {need : Need} (h : need ∈ raw.needs) :
    ∃ o, need.issue.omission? = some o ∧ o.At raw.path raw.index need.location := by
  rcases List.mem_cons.1 h with rfl | h
  · exact ⟨.kind, rfl, .kind⟩
  · split at h
    · obtain ⟨o, ho, hat, -⟩ := at_of_mem_needsOf h
      exact ⟨o, ho, hat⟩
    · exact absurd h List.not_mem_nil

theorem place_ne {first second : String} (h : first ≠ second) :
    raw.place first ≠ raw.place second :=
  fun heq => h (Location.field.inj heq).2.2

theorem pairwise_requiredFields (kind : String) :
    ((requiredFields kind).map (raw.needsField kind)).Pairwise
      fun first second => first.location ≠ second.location := by
  have hnames : ((requiredFields kind).map Prod.fst).Nodup := by
    unfold requiredFields
    split <;> decide
  rw [List.pairwise_map]
  exact (List.pairwise_map.1 hnames).imp place_ne

theorem pairwise_labelNeeds (field : Option Json) :
    (raw.labelNeeds field).Pairwise fun first second => first.location ≠ second.location := by
  unfold labelNeeds
  split
  · next items =>
    have hnumbers : (items.zipIdx.map Prod.snd).Nodup := by
      rw [List.zipIdx_map_snd]
      exact List.nodup_range'
    rw [List.pairwise_map]
    refine (List.pairwise_map.1 hnumbers).imp fun hne heq => hne ?_
    exact (Location.option.inj heq).2.2
  · exact .nil

theorem pairwise_furtherNeeds (kind : String) :
    (raw.furtherNeeds kind).Pairwise fun first second => first.location ≠ second.location := by
  unfold furtherNeeds
  split
  · exact List.pairwise_singleton _ _
  · refine List.pairwise_cons.2 ⟨fun need h => ?_, pairwise_labelNeeds _⟩
    obtain ⟨item, rfl⟩ := eq_of_mem_labelNeeds h
    exact Location.noConfusion
  · exact .nil

theorem pairwise_needsOf (kind : String) :
    (raw.needsOf kind).Pairwise fun first second => first.location ≠ second.location := by
  refine List.pairwise_append.2 ⟨pairwise_requiredFields kind, pairwise_furtherNeeds kind, ?_⟩
  intro need hneed other hother
  obtain ⟨field, hfield, rfl⟩ := List.mem_map.1 hneed
  obtain ⟨rfl, rfl⟩ | ⟨rfl, rfl⟩ | ⟨item, rfl⟩ := eq_of_mem_furtherNeeds hother
  · rw [List.mem_singleton.1 hfield]
    exact place_ne (by decide)
  · rw [List.mem_singleton.1 hfield]
    exact place_ne (by decide)
  · exact Location.noConfusion

theorem pairwise_needs (raw : RawStep) :
    raw.needs.Pairwise fun first second => first.location ≠ second.location := by
  refine List.pairwise_cons.2 ⟨fun need h heq => ?_, ?_⟩
  · split at h
    · obtain ⟨o, -, hat, hne⟩ := at_of_mem_needsOf h
      rw [← heq] at hat
      cases hat
      exact hne rfl
    · exact absurd h List.not_mem_nil
  · split
    · exact pairwise_needsOf _
    · exact .nil

/-- No two needs of a step have one place. -/
theorem eq_of_location_eq {first second : Need} (hf : first ∈ raw.needs) (hs : second ∈ raw.needs)
    (h : first.location = second.location) : first = second := by
  have hplaces : (raw.needs.map Need.location).Nodup := List.pairwise_map.2 raw.pairwise_needs
  exact List.inj_on_of_nodup_map hplaces hf hs h

end RawStep

/-! ## Items -/

mutual

theorem step_mem_elementsOf {path : String} {items : List Json} {index : Nat} {item : Json}
    (hi : items[index]? = some item) : ∀ (base : String) (json : Json),
    Element.node path (.array items) ∈ elementsOf base json →
      Element.step path index item ∈ elementsOf base json
  | base, .object children, h => by
    rcases List.mem_cons.1 h with h | h
    · exact absurd h (by simp)
    · exact .tail _ (step_mem_elementsAmong hi base children h)
  | base, .array others, h => by
    rcases List.mem_cons.1 h with h | h
    · obtain ⟨rfl, harray⟩ := Element.node.inj h
      obtain rfl := Json.array.inj harray
      exact .tail _ (List.mem_map.2 ⟨(item, index), List.mem_zipIdx_iff_getElem?.2 hi, rfl⟩)
    · obtain ⟨_, -, h⟩ := List.mem_map.1 h
      exact absurd h (by simp)
  | base, .null, h | base, .bool _, h | base, .number _, h | base, .string _, h =>
    absurd (List.mem_singleton.1 h) (by simp)

theorem step_mem_elementsAmong {path : String} {items : List Json} {index : Nat} {item : Json}
    (hi : items[index]? = some item) : ∀ (base : String) (children : List (String × Json)),
    Element.node path (.array items) ∈ elementsAmong base children →
      Element.step path index item ∈ elementsAmong base children
  | _, [], h => absurd h List.not_mem_nil
  | base, (name, json) :: rest, h => by
    rcases List.mem_cons.1 h with h | h
    · exact absurd h (by simp)
    · rcases List.mem_append.1 h with h | h
      · exact .tail _ (List.mem_append_left _ (step_mem_elementsOf hi _ json h))
      · exact .tail _ (List.mem_append_right _ (step_mem_elementsAmong hi base rest h))

end

/-- The items of the arrays in a document are elements of it. -/
theorem step_mem_elements {d : Document} {path : String} {items : List Json} {index : Nat}
    {item : Json} (ha : (path, items) ∈ d.arrays) (hi : items[index]? = some item) :
    Element.step path index item ∈ d.elements := by
  have hnode : Element.node path (.array items) ∈ d.elements := by
    obtain ⟨x, hx, harray⟩ := List.mem_filterMap.1 ha
    unfold Element.array? at harray
    split at harray
    · obtain ⟨rfl, rfl⟩ := Prod.mk.inj (Option.some.inj harray)
      exact hx
    · exact absurd harray (by simp)
  rw [elements] at hnode ⊢
  rcases List.mem_cons.1 hnode with h | h
  · exact absurd h (by simp)
  · rcases List.mem_cons.1 h with h | h
    · exact absurd h (by simp)
    · refine .tail _ (.tail _ ?_)
      unfold elementsOfNodes at h ⊢
      split at h
      · exact step_mem_elementsAmong hi _ _ h
      · exact absurd h List.not_mem_nil

/-- A step of a story was read from an object in the document. -/
structure ReadFrom (d : Document) (story : Story) (raw : RawStep) (step : Step) : Prop where
  item : ∃ items, (raw.path, items) ∈ d.arrays ∧ items[raw.index]? = some (.object raw.fields)
  stepAt? : story.stepAt? ⟨raw.path, raw.index⟩ = some step
  mirrors : raw.Mirrors step
  meets : raw.Meets

variable {language : Script.Language} {d : Document} {story : Story}

theorem exists_of_forall₂ {α β : Type} {R : α → β → Prop} {xs : List α} {ys : List β}
    (h : List.Forall₂ R xs ys) {x : α} (hx : x ∈ xs) : ∃ y ∈ ys, R x y := by
  induction h with
  | nil => exact absurd hx List.not_mem_nil
  | cons hr _ ih =>
    rcases List.mem_cons.1 hx with rfl | hx
    · exact ⟨_, .head _, hr⟩
    · obtain ⟨y, hy, hr⟩ := ih hx
      exact ⟨y, .tail _ hy, hr⟩

/-- The items of a document and the steps of its story correspond to each other. -/
theorem readFrom_of_mirrors {text : String} (hload : Story.load text language = .ok story)
    (hparse : parse text = .ok d) {leaf : String × List Step} (hleaf : leaf ∈ story.nodes.leaves)
    {array : String × List Json} (harray : array ∈ d.arrays)
    (hm : LeafMirrors language leaf array) {index : Nat} {item : Json} {step : Step}
    (hitem : array.2[index]? = some item) (hstep : leaf.2[index]? = some step)
    (hbuilt : StepMirrors language leaf.1 index item step) :
    ∃ fields, item = .object fields ∧ ReadFrom d story ⟨fields, leaf.1, index, language⟩ step := by
  obtain ⟨hwell, -, -⟩ := load_mirrors hparse language
  have hmeets := hwell.1 ⟨story, hload⟩ _ (step_mem_elements harray hitem)
  cases hbuilt with
  | @object fields step hbuilt =>
    refine ⟨fields, rfl, ⟨array.2, ?_, hitem⟩, ?_, hbuilt, ?_⟩
    · rw [hm.path_eq]
      exact harray
    · exact stepAt?_of_mem_leaves (Story.ordered_of_load hload) (Story.dotFree_of_load hload)
        hleaf hstep
    · intro demand hd
      rw [← hm.path_eq] at hmeets
      exact hmeets demand (.tail _ hd)

theorem exists_readFrom_of_mem_arrays {text : String}
    (hload : Story.load text language = .ok story) (hparse : parse text = .ok d)
    {array : String × List Json} (harray : array ∈ d.arrays) {index : Nat} {item : Json}
    (hitem : array.2[index]? = some item) :
    ∃ fields step, item = .object fields ∧
      ReadFrom d story ⟨fields, array.1, index, language⟩ step := by
  obtain ⟨-, hmirrored, -⟩ := load_mirrors hparse language
  obtain ⟨leaf, hleaf, hm⟩ := exists_of_forall₂ (hmirrored story hload).leaves.flip harray
  obtain ⟨step, hstep, hbuilt⟩ := hm.steps.exists_of_built hitem
  obtain ⟨fields, hfields, hread⟩ :=
    readFrom_of_mirrors hload hparse hleaf harray hm hitem hstep hbuilt
  rw [hm.path_eq] at hread
  exact ⟨fields, step, hfields, hread⟩

theorem exists_readFrom_of_mem_leaves {text : String}
    (hload : Story.load text language = .ok story) (hparse : parse text = .ok d)
    {leaf : String × List Step} (hleaf : leaf ∈ story.nodes.leaves) {index : Nat} {step : Step}
    (hstep : leaf.2[index]? = some step) :
    ∃ fields, ReadFrom d story ⟨fields, leaf.1, index, language⟩ step := by
  obtain ⟨-, hmirrored, -⟩ := load_mirrors hparse language
  obtain ⟨array, harray, hm⟩ := exists_of_forall₂ (hmirrored story hload).leaves hleaf
  obtain ⟨item, hitem, hbuilt⟩ := hm.steps.exists_built hstep
  obtain ⟨fields, -, hread⟩ :=
    readFrom_of_mirrors hload hparse hleaf harray hm hitem hstep hbuilt
  exact ⟨fields, hread⟩

/-! ## Reviews -/

variable {raw : RawStep} {step : Step} {f : Finding}

theorem topic_of_omission (ho : f.issue.omission? ≠ none) : f.issue.topic = .steps := by
  cases hi : f.issue <;> simp_all [Issue.omission?, Issue.topic]

/-- What a review finds missing in a step are the needs of the step that are not met. -/
theorem ReadFrom.tells_iff {text : String} (hload : Story.load text language = .ok story)
    (h : ReadFrom d story raw step) (ho : f.issue.omission? ≠ none) :
    (f ∈ review story ∧ f.location.Within ⟨raw.path, raw.index⟩) ↔
      ∃ need ∈ raw.needs, need.Tells f := by
  rw [← RawStep.mem_stepFindings_iff_tells h.mirrors h.meets ho]
  constructor
  · rintro ⟨hf, hw⟩
    exact mem_stepFindings_of_within (Story.ordered_of_load hload) (Story.dotFree_of_load hload)
      h.stepAt? hf (topic_of_omission ho) hw
  · intro hf
    exact ⟨mem_review_of_mem_stepFindings h.stepAt? hf, (ofStep_of_mem_stepFindings hf).within⟩

/-- Whatever a review finds missing it finds missing in a step of the document. -/
theorem exists_needs_of_mem_review {text : String} (hload : Story.load text language = .ok story)
    (hparse : parse text = .ok d) (hf : f ∈ review story) (ho : f.issue.omission? ≠ none) :
    ∃ raw step, ReadFrom d story raw step ∧ ∃ need ∈ raw.needs, need.Tells f := by
  rw [mem_review_iff, topic_of_omission ho] at hf
  obtain ⟨leaf, hleaf, hf⟩ := List.mem_flatMap.1 hf
  rcases List.mem_append.1 hf with hf | hf
  · rw [(eq_of_mem_findingIf hf).2] at ho
    exact absurd rfl ho
  · obtain ⟨⟨place, step⟩, hplaced, hf⟩ := List.mem_flatMap.1 hf
    obtain ⟨⟨found, index⟩, hin, heq⟩ := List.mem_map.1 hplaced
    obtain ⟨rfl, rfl⟩ := Prod.mk.inj heq
    obtain ⟨fields, hread⟩ :=
      exists_readFrom_of_mem_leaves hload hparse hleaf (List.mem_zipIdx_iff_getElem?.1 hin)
    refine ⟨_, _, hread, ?_⟩
    exact (RawStep.mem_stepFindings_iff_tells hread.mirrors hread.meets ho).1 hf

/-- A finding that is written at the place of a need, and says such a thing to be missing, is in the
step that has the need. -/
theorem location_eq_of_mem_review {text : String} (hload : Story.load text language = .ok story)
    (hparse : parse text = .ok d) {need : Need} (hneed : need ∈ raw.needs) (hf : f ∈ review story)
    (ht : f.location.text = need.location.text) (ho : f.issue.omission? = need.issue.omission?) :
    f.location = need.location := by
  obtain ⟨o, hissue, hat⟩ := RawStep.at_of_mem_needs hneed
  have hsome : f.issue.omission? ≠ none := by
    rw [ho, hissue]
    exact Option.some_ne_none o
  obtain ⟨raw', step', -, need', hneed', -, rfl⟩ :=
    exists_needs_of_mem_review hload hparse hf hsome
  obtain ⟨o', hissue', hat'⟩ := RawStep.at_of_mem_needs hneed'
  obtain rfl : o' = o := Option.some.inj (hissue'.symm.trans (ho.trans hissue))
  exact hat'.eq_of_text_eq hat ht

/-- A review reports what a step of a document is without. -/
structure Reported (story : Story) (raw : RawStep) : Prop where
  /-- Where the step needs something, it is reported to be missing if and only if it is. -/
  needed : ∀ need ∈ raw.needs, ∀ f,
    (f ∈ review story ∧ f.location.text = need.location.text ∧
      f.issue.omission? = need.issue.omission?) ↔ need.unmet ∧ f = need.finding
  /-- Nothing else is reported to be missing in the step. -/
  only : ∀ f ∈ review story, f.issue.omission? ≠ none →
    f.location.Within ⟨raw.path, raw.index⟩ → ∃ need ∈ raw.needs, need.unmet ∧ f = need.finding

/-- A review reports what the steps of a document are without, where it is missing, and only then.
-/
theorem omissions_reported {text : String} (hload : Story.load text language = .ok story) :
    ∃ d, parse text = .ok d ∧ ∀ array ∈ d.arrays, ∀ index item, array.2[index]? = some item →
      ∃ fields, item = .object fields ∧
        Reported story ⟨fields, array.1, index, language⟩ := by
  obtain ⟨d, hparse, -⟩ := bind_eq_ok.1 hload
  rw [mapError_eq_ok] at hparse
  refine ⟨d, hparse, fun array harray index item hitem => ?_⟩
  obtain ⟨fields, step, rfl, hread⟩ :=
    exists_readFrom_of_mem_arrays hload hparse harray hitem
  refine ⟨fields, rfl, fun need hneed f => ?_, fun f hf ho hw => ?_⟩
  · obtain ⟨o, hissue, hat⟩ := RawStep.at_of_mem_needs hneed
    have hsome : need.issue.omission? ≠ none := by
      rw [hissue]
      exact Option.some_ne_none o
    constructor
    · rintro ⟨hf, ht, ho⟩
      -- The place is read off how it is written, so the finding is in this step, and no other need
      -- of the step has this place.
      have hlocation := location_eq_of_mem_review hload hparse hneed hf ht ho
      have hwithin : f.location.Within ⟨array.1, index⟩ := by
        rw [hlocation]
        exact hat.within
      obtain ⟨other, hother, htells⟩ := (hread.tells_iff hload (ho ▸ hsome)).1 ⟨hf, hwithin⟩
      obtain rfl : other = need := by
        refine RawStep.eq_of_location_eq hother hneed ?_
        rw [← hlocation, htells.2]
        rfl
      exact htells
    · rintro ⟨hunmet, rfl⟩
      have hin := (hread.tells_iff (f := need.finding) hload hsome).2 ⟨need, hneed, hunmet, rfl⟩
      exact ⟨hin.1, rfl, rfl⟩
  · exact (hread.tells_iff hload ho).1 ⟨hf, hw⟩

/-- A document in which a line, the prompt of a choice and a label are forgotten, a speaker is `null`
and a kind is misspelt. -/
def forgetful : String :=
  "\x7b\"start\":\"A\",\"nodes\":\x7b\"A\":[\x7b\"who\":null,\"kind\":\"dialogue\"\x7d," ++
    "\x7b\"kind\":\"choice\",\"options\":[[\"Go\",\"A\"],[\"\",null]]\x7d," ++
    "\x7b\"kind\":\"jump\"\x7d]\x7d\x7d"

/-- The steps of its node. -/
def forgetfulItems : List Json :=
  [.object [("kind", .string "dialogue"), ("who", .null)],
    .object [("kind", .string "choice"), ("options", .array [.array [.string "Go", .string "A"],
      .array [.string "", .null]])],
    .object [("kind", .string "jump")]]

/-- The record that the document is. -/
def forgetfulDocument : Document where
  start := some "A"
  nodes := some (.object [("A", .array forgetfulItems)])

/-- The story that the document describes. -/
def forgetfulStory : Story where
  start := "A"
  vars := none
  nodes := .group [("A", .leaf [.dialogue none none,
    .choice none [⟨some "Go", some "A", none⟩, ⟨some "", none, none⟩], .unrecognized "jump"])]
  characters := []
  places := []

/-- All of this is reported where it is missing. -/
theorem omissions_reported_of_forgetful :
    parse forgetful = .ok forgetfulDocument ∧ Story.load forgetful .own = .ok forgetfulStory ∧
      (∀ array ∈ forgetfulDocument.arrays, ∀ index item, array.2[index]? = some item →
        ∃ fields, item = .object fields ∧
          Reported forgetfulStory ⟨fields, array.1, index, .own⟩) ∧
      (review forgetfulStory).filter (fun f => f.issue.omission?.isSome) =
        [⟨.error, .field "A" 0 "who", .missingField "dialogue" "who"⟩,
          ⟨.error, .field "A" 0 "text", .missingField "dialogue" "text"⟩,
          ⟨.warning, .field "A" 1 "prompt", .missingField "choice" "prompt"⟩,
          ⟨.error, .option "A" 1 1, .noLabel⟩, ⟨.error, .step "A" 2, .unknownKind "jump"⟩] := by
  have hparse : parse forgetful = .ok forgetfulDocument := by cbv
  have hstory : forgetfulDocument.story .own = .ok forgetfulStory := by cbv
  have hload : Story.load forgetful .own = .ok forgetfulStory :=
    (load_eq_story hparse .own).trans hstory
  obtain ⟨d, hd, hreported⟩ := omissions_reported hload
  obtain rfl : forgetfulDocument = d := Except.ok.inj (hparse.symm.trans hd)
  exact ⟨hparse, hload, hreported, by decide⟩

end Document

end BranchingStory
