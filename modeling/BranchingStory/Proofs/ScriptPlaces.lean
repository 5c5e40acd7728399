import BranchingStory.Proofs.Dangling
import BranchingStory.Proofs.Failures
import Mathlib

/-!
# Where scripts stand

Three parts of the library say where a step is. A document is read at addresses that are put
together on the way down its nodes, a review lists the leaves with theirs, and an engine goes by the
addresses that steps name. All of them mean the same places (`places_agree`): a script that fails
names a place in the step that the engine is at, and whatever a review finds in a step is found at
the place at which its scripts were read.
-/

namespace BranchingStory

open Playback Review

/-- The codes of the failures that name the place of a script. -/
def AuthorError.placedCodes : List String :=
  ["SCRIPT_RUNTIME", "SCRIPT_BOOLEAN_EXPECTED", "SCRIPT_VARS_REPLACED"]

namespace Playback

/-- A failure that is told with one of these codes is that of an author function. -/
theorem EngineError.eq_author_of_code_mem {error : EngineError} {wording : Wording}
    (h : (error.report wording).code ∈ AuthorError.placedCodes) :
    ∃ failure, error = .author failure := by
  cases error with
  | author failure => exact ⟨failure, rfl⟩
  | nodeMissing problem =>
    cases problem <;>
      exact absurd h (by simp [report, NodeTree.AddressProblem.report, AuthorError.placedCodes])
  | _ => exact absurd h (by simp [report, AuthorError.placedCodes])

/-- The failure of a script at a place, if it is told with one of these codes, names the place. -/
theorem EngineError.location_of_code_mem {failure : AuthorError} {location : Location}
    {wording : Wording} (hs : failure.OfScript location)
    (h : ((author failure).report wording).code ∈ AuthorError.placedCodes) :
    ((author failure).report wording).location = some location.text := by
  have hplace := hs.place_eq
  cases failure with
  | given code message location => exact absurd hs.isGiven (by simp [AuthorError.isGiven])
  | valueUnsupported kind =>
    exact absurd h (by simp [report, AuthorError.report, AuthorError.placedCodes])
  | runtime problem named | booleanExpected source kind named | variablesReplaced named =>
    rw [← hplace named rfl]
    rfl

end Playback

namespace Playback.Engine

variable {story : Story} {e : Engine} {c : Call} {o : Outcome} {place : Cursor} {step : Step}
  {failure : AuthorError}

/-- A script of the step at a place fails in a call with some events: the step was executed last, or
is the choice whose option the call takes. The location is that of the script. -/
inductive ScriptFails (c : Call) (events : List Event) (place : Cursor) (failure : AuthorError) :
    Step → Location → Prop
  | compute {before : List Event} {key : String} {compute : Compute} {vars : Variables}
    (he : events = before ++
      [.executing place (.setVariable (some key) (some (.computed compute))) vars,
        .failed place failure])
    (hf : compute vars = .error failure) :
    ScriptFails c events place failure (.setVariable (some key) (some (.computed compute)))
      (.field place.node place.index "compute")
  | test {before : List Event} {test : Test} {target otherwise : Option String} {vars : Variables}
    (he : events = before ++
      [.executing place (.branch (some test) target otherwise) vars, .failed place failure])
    (hf : test vars = .error failure) :
    ScriptFails c events place failure (.branch (some test) target otherwise)
      (.field place.node place.index "test")
  | effect {index : Nat} {prompt : Option String} {options : List ChoiceOption} {o : ChoiceOption}
    {vars after : Variables} (hc : c = .choose index) (hi : options[index]? = some o)
    (ha : o.apply vars = (after, .error failure)) :
    ScriptFails c events place failure (.choice prompt options)
      (.option place.node place.index index)

theorem ScriptFails.ofScript {language : Script.Language} {events : List Event}
    {location : Location} (h : ScriptFails c events place failure step location)
    (hs : step.Scripted language place) : failure.OfScript location := by
  cases h with
  | compute _ hf =>
    obtain ⟨formula, rfl⟩ := hs
    exact Script.Language.ofScript_of_compute hf
  | test _ hf =>
    obtain ⟨source, formula, rfl⟩ := hs
    exact Script.Language.ofScript_of_test hf
  | @effect index _ options o _ _ _ hi ha =>
    rw [ChoiceOption.apply] at ha
    split at ha
    · next effect he =>
      obtain ⟨program, rfl⟩ := hs index o effect hi he
      exact Script.Language.ofScript_of_effect ha
    · exact absurd (Prod.mk.inj ha).2 (by simp)

/-- If an author function fails in a call, then it belongs to the step at which the engine is
left. -/
def FailsInPlace (story : Story) (c : Call) (o : Outcome) : Prop :=
  ∀ failure, o.result = .error (.author failure) → ∃ place step location,
    o.engine.cursor = some place ∧ story.stepAt? place = some step ∧
      ScriptFails c o.events place failure step location

theorem record_of_fails {scene : Scene} (hf : step.Fails scene.vars failure) :
    story.record scene place step = [.executing place step scene.vars] := by
  cases hf with
  | assignment hf => simp [Story.record, Story.perform, Story.performAssignment, hf]
  | test hf => simp [Story.record, Story.perform, Story.performBranch, hf]

theorem scriptFails_of_fail {scene : Scene} (before : List Event)
    (hm : (story.perform scene place step).move = .fail failure) :
    ∃ location, ScriptFails c (before ++ story.record scene place step ++ [.failed place failure])
      place failure step location := by
  have hfails := Story.fails_of_fail hm
  rw [record_of_fails hfails, List.append_assoc]
  cases hfails with
  | assignment hf => exact ⟨_, .compute rfl hf⟩
  | test hf => exact ⟨_, .test rfl hf⟩

theorem failurePlaceRule (story : Story) (limit : Nat) (c : Call) :
    WalkRule story limit (fun _ _ _ => True) (FailsInPlace story c) where
  tripped _ failure h := absurd (Except.error.inj h) (by simp)
  lost _ _ failure h := absurd h (by simp)
  exhausted _ _ _ failure h := absurd h (by simp)
  next _ _ _ := trivial
  goTo _ _ _ := trivial
  pause _ _ _ failure h := absurd h (by simp)
  halt _ _ _ failure h := absurd h (by simp)
  fail {events} _ place step error _ hs hm failure h := by
    obtain rfl : error = failure := EngineError.author.inj (Except.error.inj h)
    obtain ⟨location, hf⟩ := scriptFails_of_fail events hm
    exact ⟨place, step, location, rfl, hs, hf⟩

theorem Called.failsInPlace (hcalled : e.Called c o) : FailsInPlace e.story c o := by
  cases hcalled with
  | refused hrefuses =>
    intro failure h
    obtain rfl := Except.error.inj h
    cases hrefuses
  | ignored _ _ => exact fun failure h => absurd h (by simp)
  | unrestarted _ => exact fun failure h => absurd (Except.error.inj h) (by simp)
  | @effectFailed index place options o vars error ho hi ha =>
    intro failure h
    obtain rfl : error = failure := EngineError.author.inj (Except.error.inj h)
    obtain ⟨prompt, hstep⟩ := ho.step
    exact ⟨place, _, _, ho.cursor, hstep, .effect rfl hi ha⟩
  | stranded _ _ _ _ _ => exact fun failure h => absurd h (by simp)
  | walked _ => exact Story.walk_spec (failurePlaceRule e.story e.limit c) _ trivial

/-- In an engine whose functions are scripts, a failure that is told with one of these codes names
the script that failed, which belongs to the step that the engine is left at. -/
theorem Scripted.location_of_failure {language : Script.Language} (h : e.Scripted language)
    {error : EngineError} {wording : Wording} (hresult : (e.call c).result = .error error)
    (hcode : (error.report wording).code ∈ AuthorError.placedCodes) :
    ∃ place step location failure, error = .author failure ∧
      (e.call c).engine.cursor = some place ∧ e.story.stepAt? place = some step ∧
      ScriptFails c (e.call c).events place failure step location ∧
      (error.report wording).location = some location.text := by
  obtain ⟨failure, rfl⟩ := EngineError.eq_author_of_code_mem hcode
  obtain ⟨place, step, location, hcursor, hstep, hfails⟩ :=
    (e.called c).failsInPlace failure hresult
  have hscript := hfails.ofScript (h.scripts place step hstep)
  exact ⟨place, step, location, failure, rfl, hcursor, hstep, hfails,
    EngineError.location_of_code_mem hscript hcode⟩

end Playback.Engine

namespace Review

variable {story : Story} {place : Cursor} {step : Step} {f : Finding}

/-! ## Findings in a step -/

theorem stepAt?_of_mem_leaves (ho : story.nodes.Ordered) (hd : story.nodes.DotFree)
    {leaf : String × List Step} (hleaf : leaf ∈ story.nodes.leaves) {index : Nat}
    (hs : leaf.2[index]? = some step) : story.stepAt? ⟨leaf.1, index⟩ = some step :=
  Story.stepAt?_eq_some_iff.2 ⟨leaf.2, NodeTree.resolve_of_mem_leaves ho hd hleaf, hs⟩

theorem mem_stepFindings_of_within (ho : story.nodes.Ordered) (hd : story.nodes.DotFree)
    (hs : story.stepAt? place = some step) (hf : f ∈ review story)
    (ht : f.issue.topic = .steps) (hw : f.location.Within place) :
    f ∈ stepFindings story (stepPlace place) step := by
  rw [mem_review_iff, ht] at hf
  obtain ⟨leaf, hleaf, hf⟩ := List.mem_flatMap.1 hf
  rcases List.mem_append.1 hf with hf | hf
  · rw [(eq_of_mem_findingIf hf).2] at hw
    cases hw
  · obtain ⟨⟨p, found⟩, hplaced, hf⟩ := List.mem_flatMap.1 hf
    obtain ⟨⟨found, index⟩, hin, heq⟩ := List.mem_map.1 hplaced
    obtain ⟨rfl, rfl⟩ := Prod.mk.inj heq
    -- A location is within one step only, so the leaf and the number are those of the place.
    obtain rfl := (ofStep_of_mem_stepFindings hf).within.place_eq hw
    have hfound := stepAt?_of_mem_leaves ho hd hleaf (List.mem_zipIdx_iff_getElem?.1 hin)
    obtain rfl := Option.some.inj (hfound.symm.trans hs)
    exact hf

theorem not_within_story {field : String} : ¬ (Location.story field).Within place := by
  intro hw
  cases hw

theorem not_within_node {path : String} : ¬ (Location.node path).Within place := by
  intro hw
  cases hw

theorem not_within_of_mem_storyFindings (h : f ∈ storyFindings story) :
    ¬ f.location.Within place := by
  rw [storyFindings] at h
  rcases List.mem_append.1 h with h | h
  · rcases List.mem_append.1 h with h | h
    · rcases List.mem_append.1 h with h | h
      · exact (eq_of_mem_findingIf h).2 ▸ not_within_story
      · exact (eq_of_mem_findingIf h).2 ▸ not_within_story
    · exact (eq_of_mem_findingIf h).2 ▸ not_within_story
  · rw [startFindings] at h
    split at h
    · exact List.mem_singleton.1 h ▸ not_within_story
    · exact absurd h List.not_mem_nil

/-- A finding within a step comes from the rules for steps, or is about a node that a step names. -/
theorem topic_of_within (hf : f ∈ review story) (hw : f.location.Within place) :
    f.issue.topic = .steps ∨ f.issue.topic = .references := by
  rw [mem_review_iff] at hf
  cases ht : f.issue.topic with
  | steps => exact .inl rfl
  | references => exact .inr rfl
  | story =>
    rw [ht] at hf
    exact absurd hw (not_within_of_mem_storyFindings hf)
  | reach =>
    rw [ht] at hf
    obtain ⟨path, -, hf⟩ := List.mem_flatMap.1 hf
    exact absurd hw ((eq_of_mem_findingIf hf).2 ▸ not_within_node)
  | ends =>
    rw [ht] at hf
    obtain ⟨leaf, -, hf⟩ := List.mem_filterMap.1 hf
    obtain ⟨last, -, hf⟩ := Option.bind_eq_some_iff.1 hf
    split at hf
    · exact absurd hf (by simp)
    · exact absurd hw (Option.some.inj hf ▸ not_within_node)

/-- The findings that a review has within a step: those of the rules for the step, and those about
the nodes that it names. -/
inductive FoundIn (story : Story) (place : Cursor) (step : Step) : Finding → Prop
  | rule {f : Finding} (h : f ∈ stepFindings story (stepPlace place) step) :
    FoundIn story place step f
  | target {location : Location} {target : String} {problem : NodeTree.AddressProblem}
    (h : step.NamesAt (stepPlace place) location target)
    (hp : story.nodes.resolve target = .error problem) :
    FoundIn story place step ⟨.error, location, problem.issue target⟩

/-- Whatever a review finds within a step it finds by looking at that step, and conversely. -/
theorem mem_review_within_iff (ho : story.nodes.Ordered) (hd : story.nodes.DotFree)
    (hs : story.stepAt? place = some step) :
    (f ∈ review story ∧ f.location.Within place) ↔ FoundIn story place step f := by
  constructor
  · rintro ⟨hf, hw⟩
    rcases topic_of_within hf hw with ht | ht
    · exact .rule (mem_stepFindings_of_within ho hd hs hf ht hw)
    · obtain ⟨location, target, problem, ⟨leaf, hleaf, index, found, hfound, hnames⟩, hp, -, rfl⟩ :=
        exists_of_topic_eq hf ht
      obtain rfl := hnames.within.place_eq hw
      have hat := stepAt?_of_mem_leaves ho hd hleaf hfound
      obtain rfl := Option.some.inj (hat.symm.trans hs)
      exact .target hnames hp
  · intro h
    cases h with
    | rule h => exact ⟨mem_review_of_mem_stepFindings hs h, (ofStep_of_mem_stepFindings h).within⟩
    | @target location target problem h hp =>
      obtain ⟨steps, hr, hstep⟩ := Story.stepAt?_eq_some_iff.1 hs
      have hnames : story.NamesAt location target :=
        ⟨(place.node, steps), NodeTree.mem_leaves_of_resolve hr, place.index, step, hstep, h⟩
      have hunlisted : target ∉ story.nodes.leafPaths := by
        intro hin
        obtain ⟨_, hok⟩ := (NodeTree.mem_leafPaths_iff ho hd).1 hin
        exact absurd (hp.symm.trans hok) (by simp)
      exact ⟨mem_review_of_unlisted hnames hp hunlisted, h.within⟩

end Review

/-- The step at a place of a story has one place for all: its scripts were read there, and what a
review finds in the step, and nothing else, is found there. -/
structure Story.SamePlace (language : Script.Language) (story : Story) (place : Cursor)
    (step : Step) : Prop where
  stepAt : story.stepAt? place = some step
  scripts : step.Scripted language place
  findings : ∀ f, (f ∈ review story ∧ f.location.Within place) ↔ FoundIn story place step f
  written : ∀ f, FoundIn story place step f →
    f.location.text = place.text ∨ ∃ rest, f.location.text = place.text ++ "." ++ rest

namespace Playback.Engine

/-- In a story that was loaded, documents, engines and reviews agree on places. Whatever is called
after a run, a failure that names a place names the script that failed: of the step that the call
executed last, or of the option that it chose, which is where the engine is. And each step of a
listed leaf has its scripts and its findings at the same place. -/
theorem places_agree {text : String} {language : Script.Language} {story : Story}
    (hload : Story.load text language = .ok story) :
    (∀ limit calls c error wording,
      (((idle story limit).play calls).call c).result = .error error →
      (error.report wording).code ∈ AuthorError.placedCodes →
      ∃ place step location failure, error = .author failure ∧
        (((idle story limit).play calls).call c).engine.cursor = some place ∧
        story.stepAt? place = some step ∧
        ScriptFails c (((idle story limit).play calls).call c).events place failure step location ∧
        (error.report wording).location = some location.text) ∧
      ∀ leaf ∈ story.nodes.leaves, ∀ index step, leaf.2[index]? = some step →
        story.SamePlace language ⟨leaf.1, index⟩ step := by
  have ho := Story.ordered_of_load hload
  have hd := Story.dotFree_of_load hload
  constructor
  · intro limit calls c error wording hresult hcode
    have hstory := (reached_play story limit calls).story_eq
    have h := (scripted_play hload limit calls).location_of_failure hresult hcode
    rwa [hstory] at h
  · intro leaf hleaf index step hs
    have hat := stepAt?_of_mem_leaves ho hd hleaf hs
    have hfound : ∀ f, (f ∈ review story ∧ f.location.Within ⟨leaf.1, index⟩) ↔
        FoundIn story ⟨leaf.1, index⟩ step f := fun f => mem_review_within_iff ho hd hat
    exact ⟨hat, Story.scripted_of_load hload hat, hfound,
      fun f hf => Location.text_of_within ((hfound f).2 hf).2⟩

/-- A document with a node in a group, whose only step has a test that is no truth value. -/
def numericTest : String :=
  "\x7b\"start\":\"P.A\",\"nodes\":\x7b\"P\":\x7b\"A\":[\x7b\"kind\":" ++
    "\"conditional_jump\",\"test\":\"1\",\"thenNodeId\":\"B\"\x7d]\x7d\x7d\x7d"

/-- The story that the document describes. -/
def numericStory : Story where
  start := "P.A"
  vars := none
  nodes := .group [("P", .group [("A", .leaf [.branch (some (Script.Language.own.test "1"
    (.literal (.int 1)) (.field "P.A" 0 "test"))) (some "B") none])])]
  characters := []
  places := []

/-- The error of the test and the finding about the node that it leads to are about one step. -/
theorem places_agree_of_numericTest :
    Story.load numericTest .own = .ok numericStory ∧
      (∃ error, ((idle numericStory 5).call .start).result = .error error ∧
        (error.report .own).location = some "P.A[0].test" ∧
        ∃ place step location failure, error = .author failure ∧
          ((idle numericStory 5).call .start).engine.cursor = some place ∧
          numericStory.stepAt? place = some step ∧
          ScriptFails .start ((idle numericStory 5).call .start).events place failure step
            location ∧
          (error.report .own).location = some location.text) ∧
      ∀ leaf ∈ numericStory.nodes.leaves, ∀ index step, leaf.2[index]? = some step →
        numericStory.SamePlace .own ⟨leaf.1, index⟩ step := by
  have hload : Story.load numericTest .own = .ok numericStory := by cbv
  have hresult : ((idle numericStory 5).call .start).result =
      .error (.author (.booleanExpected "1" "i64" (.field "P.A" 0 "test"))) := by cbv
  have hcode : ((EngineError.author (.booleanExpected "1" "i64" (.field "P.A" 0 "test"))).report
      .own).code ∈ AuthorError.placedCodes := by decide
  exact ⟨hload, ⟨_, hresult, by decide, (places_agree hload).1 5 [] .start _ .own hresult hcode⟩,
    (places_agree hload).2⟩

end Playback.Engine

end BranchingStory
