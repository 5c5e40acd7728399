import BranchingStory.Proofs.Recordings

/-!
# The verdict about a test case

A run is compared with a test case in three stages: how the story stopped, how many commands were
sent, and the commands one after the other. The first stage that finds a difference decides, so a
difference comes with the agreement of the stages before it (`Differs`). The last stage walks along
both lists and would not see what only one of them has; it looks at lists of one length, and what it
finds is the first place where they differ (`firstDifference_eq_some_iff`). Therefore a case passes
if the run is what it expects and in no other case, and otherwise the verdict names the difference
(`assertCase_judges`).
-/

namespace BranchingStory.Case

open Playback

/-! ## The first difference -/

/-- What is found are the commands at the first place where the lists have different ones. -/
theorem firstDifference_eq_some_iff {wanted found : List Command} {start index : Nat}
    {first second : Command} :
    firstDifference start wanted found = some (index, first, second) ↔
      ∃ i, index = start + i ∧ wanted[i]? = some first ∧ found[i]? = some second ∧
        first ≠ second ∧ ∀ j < i, wanted[j]? = found[j]? := by
  induction wanted generalizing start found with
  | nil => simp [firstDifference]
  | cons command wanted ih =>
    cases found with
    | nil => simp [firstDifference]
    | cons command' found =>
      rw [firstDifference]
      by_cases hsame : command = command'
      · subst hsame
        rw [if_pos rfl, ih]
        constructor
        · rintro ⟨i, rfl, hfirst, hsecond, hne, hbefore⟩
          refine ⟨i + 1, by omega, hfirst, hsecond, hne, ?_⟩
          intro j hj
          cases j with
          | zero => rfl
          | succ j => exact hbefore j (by omega)
        · rintro ⟨i, rfl, hfirst, hsecond, hne, hbefore⟩
          cases i with
          | zero =>
            have heq : first = second := Option.some.inj (hfirst.symm.trans hsecond)
            exact absurd heq hne
          | succ i =>
            refine ⟨i, by omega, hfirst, hsecond, hne, ?_⟩
            intro j hj
            exact hbefore (j + 1) (by omega)
      · rw [if_neg hsame]
        constructor
        · intro h
          obtain ⟨rfl, rfl, rfl⟩ : start = index ∧ command = first ∧ command' = second := by
            simpa using h
          exact ⟨0, rfl, rfl, rfl, hsame, fun j hj => absurd hj (Nat.not_lt_zero j)⟩
        · rintro ⟨i, rfl, hfirst, hsecond, -, hbefore⟩
          cases i with
          | zero =>
            obtain rfl : command = first := Option.some.inj hfirst
            obtain rfl : command' = second := Option.some.inj hsecond
            rfl
          | succ i =>
            have heq : command = command' := Option.some.inj (hbefore 0 (by omega))
            exact absurd heq hsame

/-! ## Differences -/

/-- How a run differs from what a test case expects. -/
inductive Differs (c : TestCase) (report : RunReport) : Mismatch → Prop
  /-- The story stopped in another way. -/
  | ending (hend : report.ending ≠ c.expectedEnd) :
    Differs c report (.ending c.expectedEnd report.ending)
  /-- It stopped as expected, after more or fewer commands. -/
  | count (hend : report.ending = c.expectedEnd)
    (hcount : report.observedCommands.length ≠ c.expectedCommands.length) :
    Differs c report (.count c.expectedCommands.length report.observedCommands)
  /-- It stopped as expected after as many commands, and these are the first ones that differ. -/
  | command {index : Nat} {wanted found : Command} (hend : report.ending = c.expectedEnd)
    (hcount : report.observedCommands.length = c.expectedCommands.length)
    (hwanted : c.expectedCommands[index]? = some wanted)
    (hfound : report.observedCommands[index]? = some found) (hne : wanted ≠ found)
    (hbefore : ∀ i < index, c.expectedCommands[i]? = report.observedCommands[i]?) :
    Differs c report (.command index wanted found)

variable {c : TestCase} {report : RunReport}

/-- A verdict is the difference between the run and what is expected. -/
theorem judge_eq_error_iff {mismatch : Mismatch} :
    judge c report = .error mismatch ↔ Differs c report mismatch := by
  rw [judge]
  by_cases hend : report.ending = c.expectedEnd
  · rw [if_neg (not_not.2 hend)]
    by_cases hcount : report.observedCommands.length = c.expectedCommands.length
    · rw [if_neg (not_not.2 hcount)]
      constructor
      · intro h
        split at h
        · next index wanted found hfirst =>
          obtain rfl := Except.error.inj h
          obtain ⟨i, rfl, hwanted, hfound, hne, hbefore⟩ := firstDifference_eq_some_iff.1 hfirst
          rw [Nat.zero_add]
          exact .command hend hcount hwanted hfound hne hbefore
        · exact absurd h (by simp)
      · intro h
        cases h with
        | ending hend' => exact absurd hend hend'
        | count _ hcount' => exact absurd hcount hcount'
        | @command index wanted found _ _ hwanted hfound hne hbefore =>
          have hfirst : firstDifference 0 c.expectedCommands report.observedCommands =
              some (index, wanted, found) :=
            firstDifference_eq_some_iff.2
              ⟨index, (Nat.zero_add index).symm, hwanted, hfound, hne, hbefore⟩
          rw [hfirst]
    · rw [if_pos hcount]
      constructor
      · intro h
        obtain rfl := Except.error.inj h
        exact .count hend hcount
      · intro h
        cases h with
        | ending hend' => exact absurd hend hend'
        | count _ _ => rfl
        | command _ hcount' _ _ _ _ => exact absurd hcount' hcount
  · rw [if_pos hend]
    constructor
    · intro h
      obtain rfl := Except.error.inj h
      exact .ending hend
    · intro h
      cases h with
      | ending _ => rfl
      | count hend' _ => exact absurd hend' hend
      | command hend' _ _ _ _ _ => exact absurd hend' hend

/-- The first place where the commands differ is the least place where they do. -/
theorem differs_command_iff {index : Nat} :
    (∃ wanted found, Differs c report (.command index wanted found)) ↔
      report.ending = c.expectedEnd ∧
        report.observedCommands.length = c.expectedCommands.length ∧
        IsLeast {i | c.expectedCommands[i]? ≠ report.observedCommands[i]?} index := by
  constructor
  · rintro ⟨wanted, found, hdiffers⟩
    cases hdiffers with
    | command hend hcount hwanted hfound hne hbefore =>
      refine ⟨hend, hcount, ?_, ?_⟩
      · intro heq
        rw [hwanted, hfound] at heq
        exact hne (Option.some.inj heq)
      · intro i hi
        by_contra hlt
        exact hi (hbefore i (Nat.not_le.1 hlt))
  · rintro ⟨hend, hcount, hdiffer, hleast⟩
    -- A list has nothing behind its end, and both end at the same place.
    have hlt : index < c.expectedCommands.length := by
      by_contra hge
      have hwanted : c.expectedCommands[index]? = none := List.getElem?_eq_none (by omega)
      have hfound : report.observedCommands[index]? = none := List.getElem?_eq_none (by omega)
      exact hdiffer (hwanted.trans hfound.symm)
    have hwanted := List.getElem?_eq_getElem hlt
    have hfound := List.getElem?_eq_getElem (hcount ▸ hlt : index < report.observedCommands.length)
    refine ⟨_, _, .command hend hcount hwanted hfound ?_ ?_⟩
    · intro heq
      exact hdiffer (by rw [hwanted, hfound, heq])
    · intro i hi
      by_contra hne
      exact absurd (hleast hne) (Nat.not_le.2 hi)

/-! ## Verdicts -/

/-- A verdict about a run is exact: the case passes if the run is what it expects, and otherwise the
verdict says what is different. -/
structure Judges (c : TestCase) (report : RunReport) (verdict : Except CaseError Unit) : Prop where
  ok_iff : verdict = .ok () ↔
    report.ending = c.expectedEnd ∧ report.observedCommands = c.expectedCommands
  ending_iff : ∀ expected actual, verdict = .error (.mismatch (.ending expected actual)) ↔
    report.ending ≠ c.expectedEnd ∧ expected = c.expectedEnd ∧ actual = report.ending
  count_iff : ∀ expected observed, verdict = .error (.mismatch (.count expected observed)) ↔
    report.ending = c.expectedEnd ∧
      report.observedCommands.length ≠ c.expectedCommands.length ∧
      expected = c.expectedCommands.length ∧ observed = report.observedCommands
  command_iff : ∀ index,
    (∃ wanted found, verdict = .error (.mismatch (.command index wanted found))) ↔
      report.ending = c.expectedEnd ∧
        report.observedCommands.length = c.expectedCommands.length ∧
        IsLeast {i | c.expectedCommands[i]? ≠ report.observedCommands[i]?} index
  commands_at : ∀ index wanted found,
    verdict = .error (.mismatch (.command index wanted found)) →
      c.expectedCommands[index]? = some wanted ∧ report.observedCommands[index]? = some found
  mismatch : ∀ error, verdict = .error error → ∃ mismatch, error = .mismatch mismatch

variable {language : Script.Language} {wording : Wording} {files : Files.FileTree}
  {directory path : String}

/-- The verdict about a case that can be read and run is exact. -/
theorem assertCase_judges (hcase : readCase files path = .ok c)
    (hrun : runCase language wording files directory c = .ok report) :
    Judges c report (assertCase language wording files directory path) := by
  have herror : ∀ mismatch,
      assertCase language wording files directory path = .error (.mismatch mismatch) ↔
        Differs c report mismatch := by
    intro mismatch
    rw [assertCase_of_ok hcase hrun, ← judge_eq_error_iff, mapError_eq_error]
    simp
  refine ⟨?_, fun expected actual => ?_, fun expected observed => ?_, fun index => ?_,
    fun index wanted found h => ?_, fun error h => ?_⟩
  · rw [assertCase_of_ok hcase hrun, mapError_eq_ok, judge_eq_ok_iff]
    constructor
    · rintro ⟨hcommands, hending⟩
      exact ⟨hending.symm, hcommands.symm⟩
    · rintro ⟨hending, hcommands⟩
      exact ⟨hcommands.symm, hending.symm⟩
  · rw [herror]
    constructor
    · intro h
      cases h with
      | ending hend => exact ⟨hend, rfl, rfl⟩
    · rintro ⟨hend, rfl, rfl⟩
      exact .ending hend
  · rw [herror]
    constructor
    · intro h
      cases h with
      | count hend hcount => exact ⟨hend, hcount, rfl, rfl⟩
    · rintro ⟨hend, hcount, rfl, rfl⟩
      exact .count hend hcount
  · simp only [herror]
    exact differs_command_iff
  · cases (herror _).1 h with
    | command _ _ hwanted hfound _ _ => exact ⟨hwanted, hfound⟩
  · rw [assertCase_of_ok hcase hrun, mapError_eq_error] at h
    obtain ⟨mismatch, -, rfl⟩ := h
    exact ⟨mismatch, rfl⟩

/-- A recording of the run around the crossroads with other commands in two places. -/
def misremembered : TestCase :=
  { onceAroundReport.recording [0, 1] with
    expectedCommands := [.showChoices none ["Round", "On"], .showEnded, .showEnded, .showEnded] }

/-- The verdict about it names the first of the two places. -/
theorem assertCase_judges_of_misremembered :
    readCase (crossroadsWith misremembered.toJson.pretty) "case.json" = .ok misremembered ∧
      runCase .own .own (crossroadsWith misremembered.toJson.pretty) "s" misremembered =
        .ok onceAroundReport ∧
      ∃ wanted found,
        assertCase .own .own (crossroadsWith misremembered.toJson.pretty) "s" "case.json" =
          .error (.mismatch (.command 1 wanted found)) := by
  have hkeeps : Keeps crossroadsFiles "s" misremembered
      (crossroadsWith misremembered.toJson.pretty) "case.json" := keeps_crossroadsWith .pretty
  have hread := readCase_of_keeps hkeeps rfl (by decide)
  have hrun : runCase .own .own (crossroadsWith misremembered.toJson.pretty) "s" misremembered =
      .ok onceAroundReport := by
    rw [runCase_eq hkeeps.story (rfl : misremembered.actions = onceAround.actions)]
    exact runCase_onceAround .own
  have hleast : IsLeast {i | misremembered.expectedCommands[i]? ≠
      onceAroundReport.observedCommands[i]?} 1 := by
    refine ⟨by decide, fun i hi => ?_⟩
    cases i with
    | zero => exact absurd rfl hi
    | succ i => omega
  exact ⟨hread, hrun, ((assertCase_judges hread hrun).command_iff 1).2 ⟨rfl, rfl, hleast⟩⟩

end BranchingStory.Case
