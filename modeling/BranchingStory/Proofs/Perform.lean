import BranchingStory.Playback.Scene

/-!
# What steps do

The facts about single steps that walks are built from: what a step tells about itself
(`tells_of_mem_perform`), where complaints come only from what is wrong with the step (`Fault`), and
how playback goes on after it (`goes`).
-/

namespace BranchingStory

open Playback

/-- The nodes that a step names. -/
def Step.targets : Step → List String
  | jump target => target.toList
  | branch _ target otherwise => target.toList ++ otherwise.toList
  | choice _ options => options.filterMap ChoiceOption.target
  | _ => []

/-- The steps that hand playback on to the step after them. A function of the author that fails
hands nothing on. -/
def Step.HandsOn (vars : Variables) : Step → Prop
  | jump _ => False
  | ending => False
  | branch test _ _ => test = none
  | choice _ options => options = []
  | setVariable (some _) (some (.computed compute)) => ∃ value, compute vars = .ok value
  | _ => True

/-- A function of the author fails in a step. -/
inductive Step.Fails (vars : Variables) : Step → AuthorError → Prop
  | assignment {key : String} {compute : Compute} {error : AuthorError}
    (h : compute vars = .error error) :
    Fails vars (.setVariable (some key) (some (.computed compute))) error
  | test {test : Test} {target otherwise : Option String} {error : AuthorError}
    (h : test vars = .error error) : Fails vars (.branch (some test) target otherwise) error

namespace Playback

/-- The steps after which playback waits, or has ended. -/
inductive Awaits : Status → Step → Prop
  | dialogue (speaker : Option String) (text : String) :
    Awaits .awaitingAdvance (.dialogue speaker (some text))
  | narration (text : String) : Awaits .awaitingAdvance (.narration (some text))
  | choice (prompt : Option String) {options : List ChoiceOption} (h : options ≠ []) :
    Awaits .awaitingChoice (.choice prompt options)
  | ending : Awaits .ended .ending

namespace Awaits

variable {status : Status} {step : Step}

theorem ne_idle (h : Awaits status step) : status ≠ .idle := by
  cases h <;> simp

theorem ne_running (h : Awaits status step) : status ≠ .running := by
  cases h <;> simp

theorem ne_halted (h : Awaits status step) : status ≠ .halted := by
  cases h <;> simp

theorem line (h : Awaits .awaitingAdvance step) :
    (∃ speaker text, step = .dialogue speaker (some text)) ∨
      ∃ text, step = .narration (some text) := by
  cases h with
  | dialogue speaker text => exact .inl ⟨speaker, text, rfl⟩
  | narration text => exact .inr ⟨text, rfl⟩

theorem options (h : Awaits .awaitingChoice step) :
    ∃ prompt options, step = .choice prompt options ∧ options ≠ [] := by
  cases h with
  | choice prompt ho => exact ⟨prompt, _, rfl, ho⟩

theorem ending_eq (h : Awaits .ended step) : step = .ending := by
  cases h
  rfl

end Awaits

/-- A complaint about the node that a step should lead to. -/
def Complaint.isAboutTarget : Complaint → Bool
  | .noTarget => true
  | .unresolvedTarget _ => true
  | _ => false

end Playback

namespace Story

variable {story : Story} {scene : Scene} {place : Cursor}

/-- What can be wrong with a step of a story. -/
inductive Fault (story : Story) : Step → Complaint → Prop
  | noPlace : Fault story (.background none) .noPlace
  | unknownPlace {name : String} (h : story.places.get? name = none) :
    Fault story (.background (some name)) (.unknownPlace name)
  | incompleteAppearance {name pose : Option String} {position : Option Position}
      (h : name = none ∨ pose = none ∨ position = none) :
    Fault story (.showCharacter name pose position) .incompleteAppearance
  | unknownCharacter {name pose : String} {position : Position}
      (h : story.characters.get? name = none) :
    Fault story (.showCharacter (some name) (some pose) (some position)) (.unknownCharacter name)
  | unknownPose {name pose : String} {position : Position} {character : Character}
      (hc : story.characters.get? name = some character) (hp : character.poses.get? pose = none) :
    Fault story (.showCharacter (some name) (some pose) (some position)) (.unknownPose name pose)
  | nobodyToHide : Fault story (.hideCharacter none) .nobodyToHide
  | noDialogueText (speaker : Option String) : Fault story (.dialogue speaker none) .noDialogueText
  | noNarrationText : Fault story (.narration none) .noNarrationText
  | noSpeaker (text : Option String) : Fault story (.dialogue none text) .noSpeaker
  | unknownSpeaker {name : String} (text : Option String)
      (h : story.characters.get? name = none) :
    Fault story (.dialogue (some name) text) (.unknownSpeaker name)
  | incompleteAssignment {key : Option String} {source : Option ValueSource}
      (h : key = none ∨ source = none) : Fault story (.setVariable key source) .incompleteAssignment
  | noJumpTarget : Fault story (.jump none) .noTarget
  | noBranchTarget (test : Option Test) (otherwise : Option String) :
    Fault story (.branch test none otherwise) .noTarget
  | unresolvedTarget {step : Step} {target : String} {problem : NodeTree.AddressProblem}
      (ht : target ∈ step.targets) (hr : story.nodes.resolve target = .error problem) :
    Fault story step (.unresolvedTarget problem)
  | noTest (target otherwise : Option String) : Fault story (.branch none target otherwise) .noTest
  | noOptions (prompt : Option String) : Fault story (.choice prompt []) .noOptions
  | unknownKind (kind : String) : Fault story (.unrecognized kind) (.unknownKind kind)

/-- What a step at a place tells about itself when it is executed. -/
inductive Tells (story : Story) (place : Cursor) (step : Step) : Event → Prop
  | displayed (command : Command) : Tells story place step (.displayed command)
  | complained {complaint : Complaint} (h : story.Fault step complaint) :
    Tells story place step (.complained place complaint)
  | notOnStage (name : String) : Tells story place step (.notOnStage place name)
  | stored (key : String) (value : Value) : Tells story place step (.stored place key value)
  | moved (target : String) : Tells story place step (.moved place target)

/-- Where a step at a place leads without the player: jumps lead to the first step of a node that is
there, and branches that do not jump lead on like most other steps. -/
inductive LeadsTo (story : Story) (vars : Variables) (place : Cursor) : Step → Cursor → Prop
  | jump {target : String} {steps : List Step} (hr : story.nodes.resolve target = .ok steps) :
    LeadsTo story vars place (.jump (some target)) (.first target)
  | branchTrue {test : Test} {target : String} {otherwise : Option String} {steps : List Step}
      (ht : test vars = .ok true) (hr : story.nodes.resolve target = .ok steps) :
    LeadsTo story vars place (.branch (some test) (some target) otherwise) (.first target)
  | branchFalse {test : Test} {target : Option String} {otherwise : String} {steps : List Step}
      (ht : test vars = .ok false) (hr : story.nodes.resolve otherwise = .ok steps) :
    LeadsTo story vars place (.branch (some test) target (some otherwise)) (.first otherwise)
  | fallThrough {test : Test} {target : Option String} (ht : test vars = .ok false) :
    LeadsTo story vars place (.branch (some test) target none) place.next
  | handsOn {step : Step} (h : step.HandsOn vars) : LeadsTo story vars place step place.next

/-- How playback goes on after a step at a place. -/
inductive Goes (story : Story) (vars : Variables) (place : Cursor) (step : Step) : Move → Prop
  | next (h : story.LeadsTo vars place step place.next) : Goes story vars place step .next
  | goTo {node : String} {steps : List Step} (h : story.LeadsTo vars place step (.first node))
      (hr : story.nodes.resolve node = .ok steps) : Goes story vars place step (.goTo node)
  | pause {status : Status} (h : Awaits status step) : Goes story vars place step (.pause status)
  | halt {complaint : Complaint} (h : story.Fault step complaint)
      (ht : complaint.isAboutTarget = true) : Goes story vars place step .halt
  | fail {error : AuthorError} (h : step.Fails vars error) :
    Goes story vars place step (.fail error)

/-! ## What steps tell -/

theorem tells_of_mem_skip {step : Step} {complaint : Complaint} {event : Event}
    (hf : story.Fault step complaint) (h : event ∈ (scene.skip place complaint).events) :
    story.Tells place step event := by
  rw [List.mem_singleton.1 h]
  exact .complained hf

theorem tells_of_mem_transfer {step : Step} {target : String} {event : Event}
    (ht : target ∈ step.targets) (h : event ∈ (story.transfer scene place target).events) :
    story.Tells place step event := by
  rw [transfer] at h
  split at h
  · next problem hr =>
    rw [List.mem_singleton.1 h]
    exact .complained (.unresolvedTarget ht hr)
  · rw [List.mem_singleton.1 h]
    exact .moved target

theorem tells_of_mem_performBackground {name : Option String} {event : Event}
    (h : event ∈ (story.performBackground scene place name).events) :
    story.Tells place (.background name) event := by
  cases name with
  | none => exact tells_of_mem_skip .noPlace h
  | some name =>
    rw [performBackground] at h
    split at h
    · next hp => exact tells_of_mem_skip (.unknownPlace hp) h
    · rw [List.mem_singleton.1 h]
      exact .displayed _

theorem tells_of_mem_enter {step : Step} {name image : String} {position : Position} {event : Event}
    (h : event ∈ (enter scene name image position).events) : story.Tells place step event := by
  have hd : ∃ command, event = .displayed command := by
    rw [enter] at h
    split at h
    next stage events heq =>
    split at heq
    · split at heq <;> obtain ⟨rfl, rfl⟩ := Prod.mk.inj heq
      · exact ⟨_, List.mem_singleton.1 h⟩
      · rcases List.mem_cons.1 h with h | h
        · exact ⟨_, h⟩
        · exact ⟨_, List.mem_singleton.1 h⟩
    · obtain ⟨rfl, rfl⟩ := Prod.mk.inj heq
      exact ⟨_, List.mem_singleton.1 h⟩
  obtain ⟨command, rfl⟩ := hd
  exact .displayed command

theorem tells_of_mem_performAppearance {name pose : Option String} {position : Option Position}
    {event : Event} (h : event ∈ (story.performAppearance scene place name pose position).events) :
    story.Tells place (.showCharacter name pose position) event := by
  unfold performAppearance at h
  split at h
  · next name pose position =>
    split at h
    · next hc => exact tells_of_mem_skip (.unknownCharacter hc) h
    · next character hc =>
      split at h
      · next hp => exact tells_of_mem_skip (.unknownPose hc hp) h
      · exact tells_of_mem_enter h
  · next hn =>
    refine tells_of_mem_skip (.incompleteAppearance ?_) h
    cases name <;> cases pose <;> cases position <;> simp at hn ⊢

theorem tells_of_mem_performDisappearance {name : Option String} {event : Event}
    (h : event ∈ (performDisappearance scene place name).events) :
    story.Tells place (.hideCharacter name) event := by
  cases name with
  | none => exact tells_of_mem_skip .nobodyToHide h
  | some name =>
    rw [performDisappearance] at h
    split at h
    · rw [List.mem_singleton.1 h]
      exact .notOnStage name
    · rw [List.mem_singleton.1 h]
      exact .displayed _

theorem tells_of_mem_performDialogue {speaker text : Option String} {event : Event}
    (h : event ∈ (story.performDialogue scene place speaker text).events) :
    story.Tells place (.dialogue speaker text) event := by
  cases text with
  | none => exact tells_of_mem_skip (.noDialogueText speaker) h
  | some text =>
    rw [performDialogue] at h
    rcases List.mem_append.1 h with h | h
    · obtain ⟨complaint, hc, rfl⟩ := Option.map_eq_some_iff.1 (Option.mem_toList.1 h)
      refine .complained ?_
      cases speaker with
      | none =>
        rw [← Option.some.inj hc]
        exact .noSpeaker _
      | some name =>
        rw [speakerName] at hc
        split at hc
        · exact absurd hc (by simp)
        · next hs =>
          rw [← Option.some.inj hc]
          exact .unknownSpeaker _ hs
    · rw [List.mem_singleton.1 h]
      exact .displayed _

theorem tells_of_mem_performNarration {text : Option String} {event : Event}
    (h : event ∈ (performNarration scene place text).events) :
    story.Tells place (.narration text) event := by
  cases text with
  | none => exact tells_of_mem_skip .noNarrationText h
  | some text =>
    rw [List.mem_singleton.1 h]
    exact .displayed _

theorem tells_of_mem_performAssignment {key : Option String} {source : Option ValueSource}
    {event : Event} (h : event ∈ (performAssignment scene place key source).events) :
    story.Tells place (.setVariable key source) event := by
  unfold performAssignment at h
  split at h
  · rw [List.mem_singleton.1 h]
    exact .stored _ _
  · split at h
    · rw [List.mem_singleton.1 h]
      exact .stored _ _
    · exact absurd h List.not_mem_nil
  · next hl hc =>
    refine tells_of_mem_skip (.incompleteAssignment ?_) h
    rcases key with _ | key
    · exact .inl rfl
    · rcases source with _ | ⟨value⟩ | ⟨compute⟩
      · exact .inr rfl
      · exact absurd rfl (hl key value rfl)
      · exact absurd rfl (hc key compute rfl)

theorem tells_of_mem_transfer? {step : Step} {target : Option String} {event : Event}
    (hn : target = none → story.Fault step .noTarget) (ht : ∀ name ∈ target, name ∈ step.targets)
    (h : event ∈ (story.transfer? scene place target).events) : story.Tells place step event := by
  cases target with
  | none =>
    rw [List.mem_singleton.1 h]
    exact .complained (hn rfl)
  | some target => exact tells_of_mem_transfer (ht target rfl) h

theorem tells_of_mem_performBranch {test : Option Test} {target otherwise : Option String}
    {event : Event} (h : event ∈ (story.performBranch scene place test target otherwise).events) :
    story.Tells place (.branch test target otherwise) event := by
  unfold performBranch at h
  split at h
  · exact tells_of_mem_skip (.noTest target otherwise) h
  · next test =>
    split at h
    · exact absurd h List.not_mem_nil
    · refine tells_of_mem_transfer? ?_ ?_ h
      · rintro rfl
        exact .noBranchTarget _ _
      · intro name hname
        rw [Step.targets, List.mem_append, Option.mem_toList]
        exact .inl hname
    · split at h
      · next name =>
        refine tells_of_mem_transfer ?_ h
        rw [Step.targets, List.mem_append]
        exact .inr (List.mem_singleton.2 rfl)
      · exact absurd h List.not_mem_nil

theorem tells_of_mem_performChoice {prompt : Option String} {options : List ChoiceOption}
    {event : Event} (h : event ∈ (performChoice scene place prompt options).events) :
    story.Tells place (.choice prompt options) event := by
  rw [performChoice] at h
  split at h
  · next he =>
    rw [List.isEmpty_iff.1 he]
    exact tells_of_mem_skip (.noOptions prompt) h
  · rw [List.mem_singleton.1 h]
    exact .displayed _

/-- Whatever a step tells is a command, a complaint that it deserves, or news of what it did. -/
theorem tells_of_mem_perform {step : Step} {event : Event}
    (h : event ∈ (story.perform scene place step).events) : story.Tells place step event := by
  cases step with
  | background name => exact tells_of_mem_performBackground h
  | showCharacter name pose position => exact tells_of_mem_performAppearance h
  | hideCharacter name => exact tells_of_mem_performDisappearance h
  | dialogue speaker text => exact tells_of_mem_performDialogue h
  | narration text => exact tells_of_mem_performNarration h
  | setVariable key source => exact tells_of_mem_performAssignment h
  | jump target =>
    refine tells_of_mem_transfer? ?_ ?_ h
    · rintro rfl
      exact .noJumpTarget
    · intro name hname
      exact Option.mem_toList.2 hname
  | branch test target otherwise => exact tells_of_mem_performBranch h
  | choice prompt options => exact tells_of_mem_performChoice h
  | ending =>
    rw [List.mem_singleton.1 h]
    exact .displayed _
  | unrecognized kind => exact tells_of_mem_skip (.unknownKind kind) h

/-! ## How playback goes on -/

theorem goes_transfer {vars : Variables} {step : Step} {target : String}
    (ht : target ∈ step.targets)
    (hl : ∀ steps, story.nodes.resolve target = .ok steps →
      story.LeadsTo vars place step (.first target)) :
    story.Goes vars place step (story.transfer scene place target).move := by
  rw [transfer]
  split
  · next problem hr => exact .halt (.unresolvedTarget ht hr) rfl
  · next steps hr => exact .goTo (hl steps hr) hr

theorem goes_performBackground {vars : Variables} {name : Option String} :
    story.Goes vars place (.background name) (story.performBackground scene place name).move := by
  have hm : (story.performBackground scene place name).move = .next := by
    unfold performBackground
    split
    · rfl
    · split <;> rfl
  rw [hm]
  exact .next (.handsOn trivial)

theorem goes_performAppearance {vars : Variables} {name pose : Option String}
    {position : Option Position} :
    story.Goes vars place (.showCharacter name pose position)
      (story.performAppearance scene place name pose position).move := by
  have hm : (story.performAppearance scene place name pose position).move = .next := by
    unfold performAppearance
    split
    · split
      · rfl
      · split <;> rfl
    · rfl
  rw [hm]
  exact .next (.handsOn trivial)

theorem goes_performDisappearance {vars : Variables} {name : Option String} :
    story.Goes vars place (.hideCharacter name) (performDisappearance scene place name).move := by
  have hm : (performDisappearance scene place name).move = .next := by
    unfold performDisappearance
    split
    · rfl
    · split <;> rfl
  rw [hm]
  exact .next (.handsOn trivial)

theorem goes_performDialogue {vars : Variables} {speaker text : Option String} :
    story.Goes vars place (.dialogue speaker text)
      (story.performDialogue scene place speaker text).move := by
  cases text with
  | none => exact .next (.handsOn trivial)
  | some text => exact .pause (.dialogue speaker text)

theorem goes_performNarration {vars : Variables} {text : Option String} :
    story.Goes vars place (.narration text) (performNarration scene place text).move := by
  cases text with
  | none => exact .next (.handsOn trivial)
  | some text => exact .pause (.narration text)

theorem goes_performAssignment {key : Option String} {source : Option ValueSource} :
    story.Goes scene.vars place (.setVariable key source)
      (performAssignment scene place key source).move := by
  rcases key with _ | key
  · exact .next (.handsOn trivial)
  · rcases source with _ | ⟨value⟩ | ⟨compute⟩
    · exact .next (.handsOn trivial)
    · exact .next (.handsOn trivial)
    · rw [performAssignment]
      split
      · next value hv => exact .next (.handsOn ⟨value, hv⟩)
      · next error he => exact .fail (.assignment he)

theorem goes_performBranch {test : Option Test} {target otherwise : Option String} :
    story.Goes scene.vars place (.branch test target otherwise)
      (story.performBranch scene place test target otherwise).move := by
  cases test with
  | none => exact .next (.handsOn rfl)
  | some test =>
    unfold performBranch
    dsimp only
    split
    · next error he => exact .fail (.test he)
    · next ht =>
      cases target with
      | none => exact .halt (.noBranchTarget _ otherwise) rfl
      | some target =>
        refine goes_transfer ?_ fun steps hr => .branchTrue ht hr
        exact List.mem_append_left _ (List.mem_singleton.2 rfl)
    · next ht =>
      cases otherwise with
      | none => exact .next (.fallThrough ht)
      | some otherwise =>
        refine goes_transfer ?_ fun steps hr => .branchFalse ht hr
        exact List.mem_append_right _ (List.mem_singleton.2 rfl)

theorem goes_performChoice {vars : Variables} {prompt : Option String}
    {options : List ChoiceOption} :
    story.Goes vars place (.choice prompt options)
      (performChoice scene place prompt options).move := by
  rw [performChoice]
  split
  · next he => exact .next (.handsOn (List.isEmpty_iff.1 he))
  · next he => exact .pause (.choice prompt fun hn => he (List.isEmpty_iff.2 hn))

/-- Playback goes on after a step where the step leads, or waits for what the step needs; it halts
only if something is wrong with the target of the step. -/
theorem goes (story : Story) (scene : Scene) (place : Cursor) (step : Step) :
    story.Goes scene.vars place step (story.perform scene place step).move := by
  cases step with
  | background name => exact goes_performBackground
  | showCharacter name pose position => exact goes_performAppearance
  | hideCharacter name => exact goes_performDisappearance
  | dialogue speaker text => exact goes_performDialogue
  | narration text => exact goes_performNarration
  | setVariable key source => exact goes_performAssignment
  | jump target =>
    cases target with
    | none => exact .halt .noJumpTarget rfl
    | some target => exact goes_transfer (List.mem_singleton.2 rfl) fun steps hr => .jump hr
  | branch test target otherwise => exact goes_performBranch
  | choice prompt options => exact goes_performChoice
  | ending => exact .pause .ending
  | unrecognized kind => exact .next (.handsOn trivial)

/-- A step that leads to the first step of a node names the node. -/
theorem mem_targets_of_leadsTo {vars : Variables} {step : Step} {node : String}
    (h : story.LeadsTo vars place step (.first node)) : node ∈ step.targets := by
  have hne : Cursor.first node ≠ place.next := by
    intro heq
    exact absurd (congrArg Cursor.index heq) (Nat.succ_ne_zero place.index).symm
  generalize hp : Cursor.first node = next at h
  cases h with
  | jump =>
    obtain rfl : node = _ := congrArg Cursor.node hp
    exact List.mem_singleton_self _
  | branchTrue =>
    obtain rfl : node = _ := congrArg Cursor.node hp
    exact List.mem_append_left _ (List.mem_singleton_self _)
  | branchFalse =>
    obtain rfl : node = _ := congrArg Cursor.node hp
    exact List.mem_append_right _ (List.mem_singleton_self _)
  | fallThrough => exact absurd hp hne
  | handsOn => exact absurd hp hne

theorem leadsTo_of_next {step : Step} (hm : (story.perform scene place step).move = .next) :
    story.LeadsTo scene.vars place step place.next := by
  have hg := story.goes scene place step
  rw [hm] at hg
  cases hg with
  | next h => exact h

theorem leadsTo_of_goTo {step : Step} {node : String}
    (hm : (story.perform scene place step).move = .goTo node) :
    story.LeadsTo scene.vars place step (.first node) ∧
      ∃ steps, story.nodes.resolve node = .ok steps := by
  have hg := story.goes scene place step
  rw [hm] at hg
  cases hg with
  | goTo h hr => exact ⟨h, _, hr⟩

theorem awaits_of_pause {step : Step} {status : Status}
    (hm : (story.perform scene place step).move = .pause status) : Awaits status step := by
  have hg := story.goes scene place step
  rw [hm] at hg
  cases hg with
  | pause h => exact h

theorem fails_of_fail {step : Step} {error : AuthorError}
    (hm : (story.perform scene place step).move = .fail error) : step.Fails scene.vars error := by
  have hg := story.goes scene place step
  rw [hm] at hg
  cases hg with
  | fail h => exact h

theorem fault_of_halt {step : Step} (hm : (story.perform scene place step).move = .halt) :
    ∃ complaint, story.Fault step complaint ∧ complaint.isAboutTarget = true := by
  have hg := story.goes scene place step
  rw [hm] at hg
  cases hg with
  | halt h ht => exact ⟨_, h, ht⟩

end Story

end BranchingStory
