import BranchingStory.Console.Check
import BranchingStory.Playback.Opening

/-!
# Verdicts

Whether a story is fit to be played is decided in several places: a check goes through its reports
for the exit code, it counts errors and warnings for its last line, it writes `ok` below a file
about which there is nothing to say, and a gate looks at the findings before a story is played. They
all decide alike (`verdicts_agree`).

What the places have in common is the list of findings: a report fails exactly if the gate for it is
closed (`fails_checkFile_iff`), and a report without errors and warnings is one without findings.
-/

namespace BranchingStory

open Review

namespace Review

variable {g lax strict : Gate} {story : Story} {findings : List Finding}

/-- A gate lets a story through. -/
def Gate.Admits (g : Gate) (story : Story) : Prop :=
  ∃ findings, g.admit story = .ok findings

/-- How many gates are laxer. -/
def Gate.strictness : Gate → Nat
  | off => 0
  | errors => 1
  | warnings => 2

/-! ## Findings -/

theorem Finding.isWarning_eq (f : Finding) : f.isWarning = !f.isError := by
  unfold isWarning isError
  cases f.severity <;> rfl

theorem hasErrors_eq_false_iff :
    hasErrors findings = false ↔ findings.countP Finding.isError = 0 := by
  simp [hasErrors, List.countP_eq_zero]

theorem hasWarnings_eq_false_iff :
    hasWarnings findings = false ↔ findings.countP Finding.isWarning = 0 := by
  simp [hasWarnings, List.countP_eq_zero]

/-- A finding is an error or a warning, so nothing is found if neither is. -/
theorem eq_nil_iff :
    findings = [] ↔ hasErrors findings = false ∧ hasWarnings findings = false := by
  constructor
  · rintro rfl
    exact ⟨rfl, rfl⟩
  · rintro ⟨he, hw⟩
    cases findings with
    | nil => rfl
    | cons f rest =>
      simp only [hasErrors, hasWarnings, List.any_cons, Bool.or_eq_false_iff] at he hw
      have hf := f.isWarning_eq
      rw [he.1, hw.1] at hf
      exact absurd hf (by decide)

/-! ## Gates -/

/-- A gate that lets a story through gives the findings about it. -/
theorem Gate.admit_eq_ok_iff :
    g.admit story = .ok findings ↔ g.blocks (review story) = false ∧ findings = review story := by
  unfold Gate.admit
  dsimp only
  cases g.blocks (review story) with
  | true => simp
  | false => simp [eq_comm]

theorem Gate.admits_iff : g.Admits story ↔ g.blocks (review story) = false := by
  simp [Admits, admit_eq_ok_iff]

/-- The gate for warnings lets only stories through about which there is nothing to say. -/
theorem Gate.admits_warnings_iff : warnings.Admits story ↔ review story = [] := by
  rw [admits_iff, eq_nil_iff, blocks, Bool.or_eq_false_iff]

/-- A story is kept from being played because of what was found if the gate does not let it
through. -/
theorem exists_blocked_iff {wording : Wording} {limit : Nat} :
    (∃ b, (Playback.openStory wording g limit story).result = .error (.blocked b)) ↔
      ¬ g.Admits story := by
  rw [Playback.openStory, Gate.Admits]
  cases g.admit story with
  | error blocked => simp
  | ok findings =>
    dsimp only
    split <;> simp

/-- What a gate lets through, every laxer one does. -/
theorem Gate.Admits.laxer (h : strict.Admits story) (hle : lax.strictness ≤ strict.strictness) :
    lax.Admits story := by
  rw [admits_iff] at h ⊢
  cases lax <;> cases strict <;> simp_all [Gate.blocks, Gate.strictness]

end Review

namespace Console

variable {language : Script.Language} {denyWarnings : Bool} {reports : List StoryReport}
  {r : StoryReport}

/-- The gate that goes with a check that denies warnings or does not. -/
def gateFor : Bool → Gate
  | false => .errors
  | true => .warnings

/-! ## Reports -/

theorem errorCount_eq_zero_iff : r.errorCount = 0 ↔ r.fails false = false := by
  unfold StoryReport.errorCount StoryReport.fails
  cases r.outcome with
  | error report => simp
  | ok findings => simp [hasErrors_eq_false_iff]

/-- A report in which nothing is counted passes even if warnings are denied. -/
theorem counts_eq_zero_iff : r.errorCount = 0 ∧ r.warningCount = 0 ↔ r.fails true = false := by
  unfold StoryReport.errorCount StoryReport.warningCount StoryReport.findings StoryReport.fails
  cases r.outcome with
  | error report => simp
  | ok findings => simp [hasErrors_eq_false_iff, hasWarnings_eq_false_iff]

/-- The report about a file fails unless the file holds a story that the gate lets through. -/
theorem fails_checkFile_iff {wording : Wording} {path : String} {bytes : ByteArray} :
    (checkFile language wording path bytes).fails denyWarnings = false ↔
      ∃ story, loadBytes language bytes = .ok story ∧ (gateFor denyWarnings).Admits story := by
  rw [checkFile]
  cases loadBytes language bytes with
  | error error => simp [StoryReport.fails]
  | ok story =>
    have hgate : (StoryReport.mk path (.ok (review story))).fails denyWarnings =
        (gateFor denyWarnings).blocks (review story) := by
      cases denyWarnings <;> simp [StoryReport.fails, gateFor, Gate.blocks]
    rw [hgate, ← Gate.admits_iff]
    simp

theorem exitCode_eq_zero_iff :
    exitCode denyWarnings reports = 0 ↔ ∀ r ∈ reports, r.fails denyWarnings = false := by
  simp [exitCode]

/-! ## Totals -/

/-- Each report adds what is counted in it to a total. -/
theorem total_cons (count : StoryReport → Nat) (r : StoryReport) (reports : List StoryReport) :
    total count (r :: reports) = count r + total count reports := by
  have hfrom : ∀ n, reports.foldl (fun n r => n + count r) n = n + total count reports := by
    rw [total]
    induction reports with
    | nil => exact fun n => rfl
    | cons first rest ih =>
      intro n
      rw [List.foldl_cons, List.foldl_cons, ih, ih (0 + count first), Nat.zero_add, Nat.add_assoc]
  rw [total, List.foldl_cons, hfrom, Nat.zero_add]

theorem total_eq_zero_iff {count : StoryReport → Nat} :
    total count reports = 0 ↔ ∀ r ∈ reports, count r = 0 := by
  induction reports with
  | nil => simp [total]
  | cons r rest ih => simp [total_cons, ih]

/-- Nothing but errors makes a check fail if warnings are not denied. -/
theorem exitCode_false_iff :
    exitCode false reports = 0 ↔ total StoryReport.errorCount reports = 0 := by
  simp only [exitCode_eq_zero_iff, total_eq_zero_iff, errorCount_eq_zero_iff]

/-- Errors and warnings together make a check fail if warnings are denied. -/
theorem exitCode_true_iff :
    exitCode true reports = 0 ↔
      total StoryReport.errorCount reports + total StoryReport.warningCount reports = 0 := by
  rw [Nat.add_eq_zero_iff, exitCode_eq_zero_iff, total_eq_zero_iff, total_eq_zero_iff]
  simp only [← counts_eq_zero_iff, forall_and]

/-! ## Lines -/

/-- The line below a file about which there is nothing to say. -/
def okLine : String := "  ok"

theorem errorLine_ne_okLine (text : String) : "  error: " ++ text ≠ okLine := by
  intro h
  have hlist := congrArg String.toList h
  simp [String.toList_append, okLine] at hlist

theorem findingLine_ne_okLine (f : Finding) : "  " ++ f.text ≠ okLine := by
  intro h
  have hlist := congrArg String.toList h
  rw [Finding.text] at hlist
  cases hs : f.severity <;> rw [hs] at hlist <;>
    simp [String.toList_append, Severity.name, okLine] at hlist

/-- Below the path of a file stands `ok` if nothing is counted for it, and only then. -/
theorem okLine_mem_iff :
    okLine ∈ (reportLines r).tail ↔ r.errorCount = 0 ∧ r.warningCount = 0 := by
  rw [counts_eq_zero_iff, reportLines, List.tail_cons, StoryReport.fails]
  cases r.outcome with
  | error report => simp [(errorLine_ne_okLine _).symm]
  | ok findings =>
    cases findings with
    | nil => simp [hasErrors, hasWarnings, okLine]
    | cons f rest =>
      have hbad : (hasErrors (f :: rest) || true && hasWarnings (f :: rest)) ≠ false := by
        rw [Bool.true_and, ne_eq, Bool.or_eq_false_iff, ← eq_nil_iff]
        exact List.cons_ne_nil f rest
      refine ⟨fun hmem => ?_, fun h => absurd h hbad⟩
      obtain ⟨f', -, hf'⟩ := List.mem_map.1 hmem
      exact absurd hf' (findingLine_ne_okLine f')

/-! ## Agreement -/

/-- What some files, with scripts in a language, come to in a check. -/
def reportsAbout (language : Script.Language) (wording : Wording)
    (files : List (String × ByteArray)) : List StoryReport :=
  files.map fun file => checkFile language wording file.1 file.2

/-- How the exit code for some files, what is written about them and the gates agree, where so many
errors and warnings are counted in all. -/
structure VerdictsAgree (language : Script.Language) (wording : Wording)
    (files : List (String × ByteArray)) (errors warnings : Nat) : Prop where
  /-- Without warnings being denied a check passes if the gate for errors is open to every file. -/
  lenient : exitCode false (reportsAbout language wording files) = 0 ↔
    ∀ file ∈ files, ∃ story, loadBytes language file.2 = .ok story ∧ Gate.errors.Admits story
  /-- With warnings denied a check passes if the gate for warnings is open to every file. -/
  strict : exitCode true (reportsAbout language wording files) = 0 ↔
    ∀ file ∈ files, ∃ story, loadBytes language file.2 = .ok story ∧ Gate.warnings.Admits story
  /-- That is, if there is nothing to say about any of the files. -/
  spotless : exitCode true (reportsAbout language wording files) = 0 ↔
    ∀ file ∈ files, ∃ story, loadBytes language file.2 = .ok story ∧ review story = []
  /-- The last line tells the totals. -/
  written : renderReports (reportsAbout language wording files) =
    (reportsAbout language wording files).flatMap reportLines ++
      ["checked " ++ toString files.length ++ " file(s): " ++ toString errors ++ " error(s), " ++
        toString warnings ++ " warning(s)"]
  /-- Only the total of the errors counts unless warnings are denied. -/
  lenient_iff : exitCode false (reportsAbout language wording files) = 0 ↔ errors = 0
  strict_iff : exitCode true (reportsAbout language wording files) = 0 ↔ errors + warnings = 0
  /-- The line `ok` stands below the files that contribute to neither total. -/
  ok_iff : ∀ r ∈ reportsAbout language wording files,
    okLine ∈ (reportLines r).tail ↔ r.errorCount = 0 ∧ r.warningCount = 0
  /-- The same gates keep stories from being played. -/
  blocked_iff : ∀ (g : Gate) (limit : Nat) (story : Story),
    (∃ b, (Playback.openStory wording g limit story).result = .error (.blocked b)) ↔
      ¬ g.Admits story
  /-- What a gate that is open gives are the findings. -/
  findings_eq : ∀ (g : Gate) (story : Story) (findings : List Finding),
    g.admit story = .ok findings → findings = review story
  /-- What a gate lets through, every laxer one does. -/
  laxer : ∀ (strict lax : Gate) (story : Story), lax.strictness ≤ strict.strictness →
    strict.Admits story → lax.Admits story

theorem exitCode_reportsAbout_iff {wording : Wording} {files : List (String × ByteArray)} :
    exitCode denyWarnings (reportsAbout language wording files) = 0 ↔
      ∀ file ∈ files, ∃ story, loadBytes language file.2 = .ok story ∧
        (gateFor denyWarnings).Admits story := by
  simp only [exitCode_eq_zero_iff, reportsAbout, List.forall_mem_map, fails_checkFile_iff]

/-- The verdict of a check, the totals that it writes, the lines `ok` and the gates agree on all
files. -/
theorem verdicts_agree (language : Script.Language) (wording : Wording)
    (files : List (String × ByteArray)) :
    VerdictsAgree language wording files
      (total StoryReport.errorCount (reportsAbout language wording files))
      (total StoryReport.warningCount (reportsAbout language wording files)) where
  lenient := exitCode_reportsAbout_iff
  strict := exitCode_reportsAbout_iff
  spotless := by
    simp only [exitCode_reportsAbout_iff, gateFor, Gate.admits_warnings_iff]
  written := by
    rw [renderReports, summaryLine, reportsAbout, List.length_map]
  lenient_iff := exitCode_false_iff
  strict_iff := exitCode_true_iff
  ok_iff _ _ := okLine_mem_iff
  blocked_iff _ _ _ := exists_blocked_iff
  findings_eq _ _ _ h := (Gate.admit_eq_ok_iff.1 h).2
  laxer _ _ _ hle h := h.laxer hle

end Console

end BranchingStory
