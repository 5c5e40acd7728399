import BranchingStory.Proofs.Calls
import BranchingStory.Proofs.LoadedTree
import BranchingStory.Proofs.Perform
import BranchingStory.Proofs.StepDemands

/-!
# The steps of story documents

Every step of a story that was loaded was read from the document, at the place where it stands
(`Story.exists_readStep`). So whatever functions of an author it holds are scripts
(`Story.scripted_of_load`): they fail only in the ways of scripts, and an effect that fails leaves
the variables as they were.
-/

namespace BranchingStory

open Playback

namespace Document

variable {language : Script.Language} {path : String}

/-! ## Following names in a document -/

/-- Every child of a group was read from a field with its name. -/
theorem exists_readTree_of_mem {fields : List (String × Json)}
    {children : List (String × NodeTree)} (h : readChildren language path fields = .ok children)
    {name : String} {child : NodeTree} (hc : (name, child) ∈ children) :
    isNodeName name = true ∧ ∃ json, readTree language (childPath path name) json = .ok child := by
  induction fields generalizing children with
  | nil =>
    obtain rfl : [] = children := Except.ok.inj h
    exact absurd hc List.not_mem_nil
  | cons field rest ih =>
    obtain ⟨first, others, hn, hfirst, hothers, rfl⟩ := readChildren_cons_eq_ok h
    rcases List.mem_cons.1 hc with heq | hc
    · obtain ⟨rfl, rfl⟩ := Prod.mk.inj heq
      exact ⟨hn, field.2, hfirst⟩
    · exact ih hothers hc

/-- A leaf was read from an array, one step after the other. -/
theorem exists_array_of_readTree {json : Json} {steps : List Step}
    (h : readTree language path json = .ok (.leaf steps)) :
    ∃ items : List Json, items.zipIdx.mapM (fun (json, index) =>
      readStep path index json language) = .ok steps := by
  cases json with
  | array items =>
    simp only [readTree, bind_eq_ok, pure_eq_ok] at h
    obtain ⟨found, hfound, heq⟩ := h
    exact ⟨items, NodeTree.leaf.inj heq ▸ hfound⟩
  | object fields =>
    simp only [readTree, bind_eq_ok, pure_eq_ok] at h
    obtain ⟨_, -, heq⟩ := h
    exact absurd heq (by simp)
  | null | bool _ | number _ | string _ => simp [readTree] at h

/-- A group was read from an object. -/
theorem exists_object_of_readTree {json : Json} {children : List (String × NodeTree)}
    (h : readTree language path json = .ok (.group children)) :
    ∃ fields, readChildren language path fields = .ok children := by
  cases json with
  | object fields =>
    simp only [readTree, bind_eq_ok, pure_eq_ok] at h
    obtain ⟨found, hfound, heq⟩ := h
    exact ⟨fields, NodeTree.group.inj heq ▸ hfound⟩
  | array items =>
    simp only [readTree, bind_eq_ok, pure_eq_ok] at h
    obtain ⟨_, -, heq⟩ := h
    exact absurd heq (by simp)
  | null | bool _ | number _ | string _ => simp [readTree] at h

/-- The steps of a leaf were read one after the other, at the address of the leaf. -/
theorem exists_mapM_of_follow {names : List String} {json : Json} {tree : NodeTree}
    {steps : List Step} (h : readTree language path json = .ok tree)
    (hf : tree.follow names = some (.leaf steps)) :
    ∃ items : List Json, items.zipIdx.mapM (fun (json, index) =>
      readStep (names.foldl childPath path) index json language) = .ok steps := by
  induction names generalizing path json tree with
  | nil =>
    obtain rfl : tree = .leaf steps := by simpa [NodeTree.follow] using hf
    exact exists_array_of_readTree h
  | cons name rest ih =>
    cases tree with
    | leaf _ => simp [NodeTree.follow] at hf
    | group children =>
      rw [NodeTree.follow] at hf
      split at hf
      · next child hc =>
        obtain ⟨fields, hfields⟩ := exists_object_of_readTree h
        obtain ⟨-, json, hchild⟩ := exists_readTree_of_mem hfields (Dict.mem_of_get? hc)
        exact ih hchild hf
      · exact absurd hf (by simp)

/-- Going down from a node or group adds names to its address. -/
theorem foldl_childPath {name : String} (hn : name ≠ "") (names : List String) :
    names.foldl childPath name = NodeTree.joinPath (name :: names) := by
  induction names generalizing name with
  | nil => rfl
  | cons next rest ih =>
    have hne : name ++ "." ++ next ≠ "" := by
      intro h
      have := congrArg String.length h
      simp at this
    rw [List.foldl_cons, childPath, if_neg hn, ih hne]
    rfl

end Document

open Document

namespace Story

variable {text : String} {language : Script.Language} {story : Story} {place : Cursor}
  {step : Step}

/-- The tree of a story that was loaded is empty, or its children were read from an object. -/
theorem exists_readChildren (h : load text language = .ok story) :
    ∃ fields children, readChildren language "" fields = .ok children ∧
      story.nodes = .group children := by
  simp only [load, bind_eq_ok, mapError_eq_ok] at h
  obtain ⟨d, -, h⟩ := h
  simp only [Document.story, bind_eq_ok, pure_eq_ok] at h
  obtain ⟨-, -, nodes, hn, rfl⟩ := h
  unfold readNodes at hn
  split at hn
  · exact ⟨[], [], rfl, (Except.ok.inj hn).symm⟩
  · exact ⟨[], [], rfl, (Except.ok.inj hn).symm⟩
  · simp only [bind_eq_ok, pure_eq_ok] at hn
    obtain ⟨children, hc, heq⟩ := hn
    exact ⟨_, children, hc, heq.symm⟩
  · simp at hn

/-- Every step of a story that was loaded was read from the document, at the place where it
stands. -/
theorem exists_readStep (h : load text language = .ok story)
    (hs : story.stepAt? place = some step) :
    ∃ json, readStep place.node place.index json language = .ok step := by
  obtain ⟨steps, hr, hstep⟩ := stepAt?_eq_some_iff.1 hs
  obtain ⟨fields, children, hc, hnodes⟩ := exists_readChildren h
  have hf := NodeTree.resolve_eq_ok_iff.1 hr
  obtain ⟨name, rest, hsegments⟩ :=
    List.exists_cons_of_ne_nil (NodeTree.segments_ne_nil place.node)
  rw [hnodes, hsegments, NodeTree.follow] at hf
  split at hf
  · next child hchild =>
    obtain ⟨hname, json, hread⟩ := exists_readTree_of_mem hc (Dict.mem_of_get? hchild)
    obtain ⟨items, hitems⟩ := exists_mapM_of_follow hread hf
    have hne : name ≠ "" := by
      rw [isNodeName, Bool.and_eq_true] at hname
      simpa using hname.1
    have hpath : rest.foldl childPath (childPath "" name) = place.node := by
      rw [childPath, if_pos rfl, foldl_childPath hne, ← hsegments, NodeTree.joinPath_segments]
    obtain ⟨item, -, hok⟩ := getElem?_of_mapM_zipIdx_eq_ok hitems hstep
    exact ⟨item, hpath ▸ hok⟩
  · exact absurd hf (by simp)

end Story

/-! ## Scripts -/

/-- Whatever functions of an author are in the step at a place are scripts of a language, which
know where they stand. -/
def Step.Scripted (language : Script.Language) (place : Cursor) : Step → Prop
  | setVariable _ (some (.computed compute)) =>
    ∃ formula, compute = language.compute formula (.field place.node place.index "compute")
  | branch (some test) _ _ =>
    ∃ source formula, test = language.test source formula (.field place.node place.index "test")
  | choice _ options => ∀ number o effect, options[number]? = some o → o.effect = some effect →
    ∃ program, effect = language.effect program (.option place.node place.index number)
  | _ => True

/-- The functions of the author in a step that mirrors a document are scripts. -/
theorem Document.RawStep.Mirrors.scripted {raw : RawStep} {step : Step} (h : raw.Mirrors step) :
    step.Scripted raw.language ⟨raw.path, raw.index⟩ := by
  cases h with
  | setVariable _ hs =>
    cases hs with
    | computed _ _ => exact ⟨_, rfl⟩
    | literal _ _ _ | absent _ _ => trivial
  | branch _ ht =>
    cases ht with
    | formula _ _ => exact ⟨_, _, rfl⟩
    | absent _ => trivial
  | choice _ hoptions =>
    intro number o effect ho he
    generalize raw.fields.get? "options" = field at hoptions
    cases hoptions with
    | absent | null => exact absurd ho (by simp)
    | array hitems =>
      obtain ⟨item, -, hmirrors⟩ := hitems.exists_built ho
      cases hmirrors with
      | array heffect =>
        subst he
        cases heffect with
        | program _ _ => exact ⟨_, rfl⟩
  | _ => trivial

theorem Document.scripted_of_readStep {language : Script.Language} {path : String} {index : Nat}
    {json : Json} {step : Step} (h : readStep path index json language = .ok step) :
    step.Scripted language ⟨path, index⟩ := by
  obtain ⟨-, hmirrors⟩ := (reads_readStep language path index json).ok step h
  cases hmirrors with
  | object hmirrors => exact hmirrors.scripted

/-- The functions of the author in a story that was loaded are scripts. -/
theorem Story.scripted_of_load {text : String} {language : Script.Language} {story : Story}
    (h : Story.load text language = .ok story) {place : Cursor} {step : Step}
    (hs : story.stepAt? place = some step) : step.Scripted language place := by
  obtain ⟨json, hread⟩ := Story.exists_readStep h hs
  exact scripted_of_readStep hread

/-! ## How scripts fail -/

/-- Whether an error is one that an author made up, and not the failure of a script. -/
def AuthorError.isGiven : AuthorError → Bool
  | given _ _ _ => true
  | _ => false

/-- The place that the failure of a script names, if it names one. -/
def AuthorError.location? : AuthorError → Option Location
  | runtime _ location => some location
  | booleanExpected _ _ location => some location
  | variablesReplaced location => some location
  | _ => none

/-- An error is the failure of a script at a place: the author did not make it up, and it names no
other place. -/
structure AuthorError.OfScript (location : Location) (error : AuthorError) : Prop where
  isGiven : error.isGiven = false
  place_eq : ∀ named, error.location? = some named → named = location

namespace Script.Language

variable {language : Language} {location : Location} {vars : Variables} {error : AuthorError}

theorem ofScript_runtime (problem : Problem) (location : Location) :
    (AuthorError.runtime problem location).OfScript location :=
  ⟨rfl, fun _ h => (Option.some.inj h).symm⟩

theorem ofScript_valueUnsupported (kind : String) (location : Location) :
    (AuthorError.valueUnsupported kind).OfScript location :=
  ⟨rfl, fun _ h => absurd h (by simp [AuthorError.location?])⟩

theorem ofScript_of_evaluate {formula : language.Formula}
    (h : language.evaluate formula location vars = .error error) : error.OfScript location := by
  obtain ⟨problem, -, rfl⟩ := mapError_eq_error.1 h
  exact ofScript_runtime problem location

theorem ofScript_of_compute {formula : language.Formula}
    (h : language.compute formula location vars = .error error) : error.OfScript location := by
  rcases bind_eq_error.1 h with h | ⟨_, -, h⟩
  · exact ofScript_of_evaluate h
  · obtain ⟨kind, -, rfl⟩ := mapError_eq_error.1 h
    exact ofScript_valueUnsupported kind location

theorem ofScript_of_test {source : String} {formula : language.Formula}
    (h : language.test source formula location vars = .error error) : error.OfScript location := by
  rcases bind_eq_error.1 h with h | ⟨_, -, h⟩
  · exact ofScript_of_evaluate h
  · split at h
    · exact absurd h (by simp [pure, Except.pure])
    · rw [← Except.error.inj h]
      exact ⟨rfl, fun _ hnamed => (Option.some.inj hnamed).symm⟩

theorem ofScript_of_variablesAfter {program : language.Program}
    (h : language.variablesAfter program location vars = .error error) :
    error.OfScript location := by
  rcases bind_eq_error.1 h with h | ⟨_, -, h⟩
  · obtain ⟨problem, -, rfl⟩ := mapError_eq_error.1 h
    exact ofScript_runtime problem location
  · split at h
    · obtain ⟨kind, -, rfl⟩ := mapError_eq_error.1 h
      exact ofScript_valueUnsupported kind location
    · rw [← Except.error.inj h]
      exact ⟨rfl, fun _ hnamed => (Option.some.inj hnamed).symm⟩

theorem ofScript_of_effect {program : language.Program} {after : Variables}
    (h : language.effect program location vars = (after, .error error)) :
    error.OfScript location := by
  rw [effect] at h
  split at h
  · exact absurd (Prod.mk.inj h).2 (by simp)
  · next he =>
    obtain rfl := Except.error.inj (Prod.mk.inj h).2
    exact ofScript_of_variablesAfter he

/-- An effect that fails leaves the variables as they were. -/
theorem eq_of_effect_fails {program : language.Program} {after : Variables}
    (h : language.effect program location vars = (after, .error error)) : after = vars := by
  rw [effect] at h
  split at h
  · exact absurd (Prod.mk.inj h).2 (by simp)
  · exact (Prod.mk.inj h).1.symm

end Script.Language

/-- A script in a step fails in the way of scripts. -/
theorem Step.Scripted.isGiven_of_fails {language : Script.Language} {place : Cursor} {step : Step}
    {vars : Variables} {error : AuthorError} (h : step.Scripted language place)
    (hf : step.Fails vars error) : error.isGiven = false := by
  cases hf with
  | assignment he =>
    obtain ⟨formula, rfl⟩ := h
    exact (Script.Language.ofScript_of_compute he).isGiven
  | test he =>
    obtain ⟨source, formula, rfl⟩ := h
    exact (Script.Language.ofScript_of_test he).isGiven

/-- The effect of an option that fails, if it is a script, leaves the variables as they were. -/
theorem Step.Scripted.eq_of_effect_fails {language : Script.Language} {place : Cursor}
    {prompt : Option String} {options : List ChoiceOption}
    (h : (Step.choice prompt options).Scripted language place) {number : Nat} {o : ChoiceOption}
    (ho : options[number]? = some o) {vars after : Variables} {error : AuthorError}
    (ha : o.apply vars = (after, .error error)) : after = vars := by
  rw [ChoiceOption.apply] at ha
  split at ha
  · next effect he =>
    obtain ⟨program, rfl⟩ := h number o effect ho he
    exact Script.Language.eq_of_effect_fails ha
  · exact (Prod.mk.inj ha).1.symm

end BranchingStory
