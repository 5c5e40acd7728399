import BranchingStory.Console.Basic
import BranchingStory.Proofs.CaseRuns
import BranchingStory.Proofs.Digits
import BranchingStory.Proofs.Sessions
import Mathlib

/-!
# Sessions that follow a run

A run of a test case and a session at a terminal both play a story, each with a loop of its own. If
a player enters what the run has done, an empty line to go on and a number at a choice, then the
session goes the way of the run and stops where the run has stopped (`session_follows_run`).

The session reads its lines from bytes. What was typed on a line is that line again for the session
(`inputLines_typed`), and the entry for a signal that the engine waits for is taken for that signal
(`shows_respond`). So every signal of the run is one turn of the session, which shows what the
signal has sent (`follows_of_signals`).
-/

namespace BranchingStory

open Playback Playback.Engine

/-! ## Lines of bytes -/

theorem toList_loop (bytes : ByteArray) (i : Nat) (read : List UInt8) :
    ByteArray.toList.loop bytes i read = read.reverse ++ bytes.data.toList.drop i := by
  rw [ByteArray.toList.loop]
  split
  · next hlt =>
    have hsize : i < bytes.data.toList.length := hlt
    have hget : bytes.get! i = bytes.data.toList[i] := getElem!_pos bytes.data i hlt
    rw [toList_loop bytes (i + 1), List.drop_eq_getElem_cons hsize, hget, List.reverse_cons,
      List.append_assoc]
    rfl
  · next hge =>
    have hsize : bytes.data.toList.length ≤ i := Nat.le_of_not_lt hge
    rw [List.drop_eq_nil_of_le hsize, List.append_nil]
termination_by bytes.size - i

theorem toList_eq_data (bytes : ByteArray) : bytes.toList = bytes.data.toList :=
  toList_loop bytes 0 []

namespace Text

/-- Only the encoding of a line feed has the byte of a line feed in it. -/
theorem eq_newline_of_mem {c : Char} (h : 10 ∈ String.utf8EncodeChar c) : c = '\n' := by
  have hc := toNat_val_lt c
  have hbyte : ∀ n : Nat, 10 = UInt8.ofNat n → n % 256 = 10 := fun n hn =>
    (congrArg UInt8.toNat hn).symm
  have hv : c.val.toNat = 10 := by
    unfold String.utf8EncodeChar at h
    generalize c.val.toNat = v at h hc
    dsimp only at h
    split_ifs at h
    all_goals simp only [List.mem_cons, List.not_mem_nil, or_false] at h
    · have := hbyte _ h
      omega
    · rcases h with h | h <;> have := hbyte _ h <;> omega
    · rcases h with h | h | h <;> have := hbyte _ h <;> omega
    · rcases h with h | h | h | h <;> have := hbyte _ h <;> omega
  exact Char.toNat_inj.1 hv

theorem newline_notMem_bytes {s : String} (h : '\n' ∉ s.toList) : 10 ∉ bytes s := by
  rw [bytes_eq]
  intro hmem
  obtain ⟨c, hc, hbyte⟩ := List.mem_flatMap.1 hmem
  exact h (eq_newline_of_mem hbyte ▸ hc)

theorem bytes_append (s t : String) : bytes (s ++ t) = bytes s ++ bytes t := by
  rw [bytes_eq, bytes_eq, bytes_eq, String.toList_append, List.flatMap_append]

theorem bytes_newline : bytes "\n" = [10] := by
  rw [bytes_eq]
  rfl

end Text

namespace Console

theorem splitLines_append {line : List UInt8} (h : 10 ∉ line) (rest : List UInt8) :
    splitLines (line ++ 10 :: rest) = (line ++ [10]) :: splitLines rest := by
  induction line with
  | nil => rw [List.nil_append, splitLines, if_pos rfl, List.nil_append]
  | cons b line ih =>
    rw [List.mem_cons, not_or] at h
    rw [List.cons_append, splitLines, if_neg (Ne.symm h.1), ih h.2]
    rfl

/-- What is typed on some lines. -/
def typed (lines : List String) : ByteArray :=
  (unlines lines).toUTF8

/-- The bytes of some lines are split into the lines, whatever comes behind them. -/
theorem splitLines_bytes_unlines {lines : List String} (h : ∀ line ∈ lines, '\n' ∉ line.toList)
    (rest : List UInt8) :
    splitLines (Text.bytes (unlines lines) ++ rest) =
      lines.map (fun line => Text.bytes (line ++ "\n")) ++ splitLines rest := by
  induction lines with
  | nil => rfl
  | cons line lines ih =>
    obtain ⟨hline, hlines⟩ := List.forall_mem_cons.1 h
    have hunlines : unlines (line :: lines) = line ++ "\n" ++ unlines lines := by
      rw [unlines, List.map_cons, String.join_cons]
      rfl
    rw [hunlines, Text.bytes_append, Text.bytes_append, Text.bytes_newline, List.append_assoc,
      List.append_assoc, List.singleton_append, splitLines_append (Text.newline_notMem_bytes hline),
      ih hlines, List.map_cons, Text.bytes_append, Text.bytes_newline]
    rfl

theorem decode_bytes (s : String) :
    Files.FileTree.decode (ByteArray.mk (Text.bytes s).toArray) = .ok s := by
  rw [Text.bytes, Array.toArray_toList]
  exact Files.FileTree.decode_toUTF8 s

/-- What was typed is read line by line, whatever is typed behind it. -/
theorem inputLines_typed {lines : List String} (h : ∀ line ∈ lines, '\n' ∉ line.toList)
    (more : ByteArray) :
    inputLines (typed lines ++ more) =
      lines.map (fun line => .ok (line ++ "\n")) ++ inputLines more := by
  have hbytes : (typed lines ++ more).toList = Text.bytes (unlines lines) ++ more.toList := by
    rw [toList_eq_data, toList_eq_data, ByteArray.data_append, Array.toList_append]
    rfl
  rw [inputLines, hbytes, splitLines_bytes_unlines h, List.map_append, List.map_map, inputLines]
  congr 1
  exact List.map_congr_left fun line _ => decode_bytes (line ++ "\n")

end Console

/-! ## Entries -/

namespace Text

theorem dropWhile_eq_self {p : Char → Bool} {cs : List Char} (h : ∀ c ∈ cs, p c = false) :
    cs.dropWhile p = cs := by
  cases cs with
  | nil => rfl
  | cons c cs => exact List.dropWhile_cons_of_neg (by simp [h c List.mem_cons_self])

theorem dropRightWhile_append {p : Char → Bool} {cs ds : List Char} (hc : ∀ c ∈ cs, p c = false)
    (hd : ∀ d ∈ ds, p d = true) : dropRightWhile p (cs ++ ds) = cs := by
  rw [dropRightWhile, List.reverse_append,
    List.dropWhile_append_of_pos fun d hmem => hd d (List.mem_reverse.1 hmem),
    dropWhile_eq_self fun c hmem => hc c (List.mem_reverse.1 hmem), List.reverse_reverse]

theorem trim_eq_self {s : String} (h : ∀ c ∈ s.toList, isBlank c = false) : trim s = s := by
  have hend := dropRightWhile_append h (List.forall_mem_nil _)
  rw [List.append_nil] at hend
  rw [trim, dropWhile_eq_self h, hend, String.ofList_toList]

theorem trimLineEnd_append_newline {s : String} (h : ∀ c ∈ s.toList, c.isDigit = true) :
    trimLineEnd (s ++ "\n") = s := by
  rw [trimLineEnd, String.toList_append, dropRightWhile_append, String.ofList_toList]
  · intro c hc
    have hdigit := h c hc
    rw [Bool.or_eq_false_iff, beq_eq_false_iff_ne, beq_eq_false_iff_ne]
    constructor <;> rintro rfl <;> exact absurd hdigit (by decide)
  · exact List.forall_mem_singleton.2 rfl

theorem isBlank_of_isDigit {c : Char} (h : c.isDigit = true) : isBlank c = false := by
  obtain ⟨hge, hle⟩ := Char.isDigit_iff_toNat.1 h
  have hge : 48 ≤ c.toNat := hge
  have hle : c.toNat ≤ 57 := hle
  unfold isBlank
  simp only [Bool.or_eq_false_iff, Bool.and_eq_false_iff, decide_eq_false_iff_not,
    beq_eq_false_iff_ne]
  omega

end Text

namespace Console

/-- What a player enters to give a signal. -/
def entry : Call → String
  | .choose index => toString index
  | _ => ""

theorem isDigit_of_mem_entry {c : Call} : ∀ d ∈ (entry c).toList, d.isDigit = true := by
  cases c with
  | choose index => exact fun d => isDigit_of_mem_toString
  | start | advance | restart => exact List.forall_mem_nil _

theorem newline_notMem_entry (c : Call) : '\n' ∉ (entry c).toList := fun h =>
  absurd (isDigit_of_mem_entry _ h) (by decide)

/-- Digits on a line of their own are for the engine. -/
theorem ofLine_of_isDigit {text : String} (h : ∀ c ∈ text.toList, c.isDigit = true) :
    Entry.ofLine (text ++ "\n") = .signal text := by
  have hcolon : ':' ∉ text.toList := fun hmem => absurd (h _ hmem) (by decide)
  rw [Entry.ofLine, Text.trimLineEnd_append_newline h,
    Text.trim_eq_self fun c hc => Text.isBlank_of_isDigit (h c hc)]
  -- The words for the session itself start with a colon.
  split
  · exact absurd (by decide) hcolon
  · exact absurd (by decide) hcolon
  · exact absurd (by decide) hcolon
  · rfl

/-! ## Turns -/

/-- Whether a session turns down what was entered. -/
def Written.isRejection : Written → Bool
  | noOption _ => true
  | enterNumber => true
  | _ => false

/-- At the end of a turn a player has an engine and nothing is pending. The turn has shown some
lines and turned nothing down. -/
structure Turn.Shows (t : Turn) (e : Engine) (lines : List String) : Prop where
  next_eq : t.next = (await ⟨e, []⟩).next
  lines_eq : storyLines t.output = lines
  accepted : ∀ piece ∈ t.output, piece.isRejection = false

variable {t : Turn} {e : Engine} {c : Call} {lines : List String} {wording : Wording}

theorem Turn.Shows.after (h : t.Shows e lines) {output : List Written}
    (hout : storyLines output = []) (haccepted : ∀ piece ∈ output, piece.isRejection = false)
    (told : List LogLine) : (t.after output told).Shows e lines := by
  refine ⟨h.next_eq, ?_, List.forall_mem_append.2 ⟨haccepted, h.accepted⟩⟩
  rw [Turn.after, storyLines_append, hout, h.lines_eq, List.nil_append]

theorem accepted_await (p : Player) : ∀ piece ∈ (await p).output, piece.isRejection = false := by
  unfold await
  split
  · exact List.forall_mem_nil _
  · exact List.forall_mem_singleton.2 rfl
  · exact List.forall_mem_singleton.2 rfl
  · exact List.forall_mem_singleton.2 rfl
  · exact List.forall_mem_nil _

theorem shows_settle (e : Engine) (lines : List String) : (settle ⟨e, lines⟩).Shows e lines := by
  refine ⟨rfl, storyLines_settle _, List.forall_mem_append.2 ⟨?_, accepted_await _⟩⟩
  exact List.forall_mem_map.2 fun _ _ => rfl

theorem shows_firstTurn (e : Engine) (lines : List String) : (firstTurn ⟨e, lines⟩).Shows e lines :=
  (shows_settle e lines).after rfl (List.forall_mem_singleton.2 rfl) []

theorem shows_proceed (hok : (e.call c).result = .ok ()) :
    (proceed wording ⟨e, []⟩ (e.call c)).Shows (e.call c).engine
      (commandLines (e.call c).commands) := by
  rw [proceed, hok]
  exact (shows_settle _ _).after rfl (List.forall_mem_nil _) _

/-- The entry for a signal that the engine waits for gives that signal. -/
theorem shows_respond (hdue : e.Due c) (hok : (e.call c).result = .ok ())
    (hc : ∀ index ∈ c.chosen?, index < Word.bound) :
    (respond wording ⟨e, []⟩ (.ok (entry c ++ "\n"))).Shows (e.call c).engine
      (commandLines (e.call c).commands) := by
  rw [respond, answer, ofLine_of_isDigit isDigit_of_mem_entry]
  cases hdue with
  | advance hs =>
    have hother : e.status ≠ .awaitingChoice := by rw [hs]; decide
    dsimp only
    rw [if_neg hother]
    exact shows_proceed hok
  | choose index hs =>
    have hbound : index < Word.bound := hc index rfl
    have hresult : (e.choose index).result = .ok () := hok
    dsimp only
    rw [if_pos hs, choiceTurn, entry, optionNumber?_toString hbound]
    dsimp only
    rw [hresult]
    exact shows_proceed hok

/-! ## Sessions -/

/-- How many lines of its input a session reads after a turn. -/
def linesRead (wording : Wording) : List InputLine → Turn → Nat
  | [], _ => 0
  | line :: rest, t =>
    match t.next with
    | .prompt p => linesRead wording rest (respond wording p line) + 1
    | _ => 0

/-- After a turn a session reads some lines of its input, of which it turns none down, and is over
then. It leaves an engine behind and has shown some lines. -/
structure Follows (wording : Wording) (input : List InputLine) (t : Turn) (e : Engine)
    (count : Nat) (lines : List String) : Prop where
  result_eq : (continueSession wording input t).result = .ok ⟨e, []⟩
  read_eq : linesRead wording input t = count
  lines_eq : storyLines (continueSession wording input t).output = lines
  accepted : ∀ piece ∈ (continueSession wording input t).output, piece.isRejection = false

/-- When the story has stopped nothing more is read. -/
theorem follows_of_stopped {ending : Case.Ending} (ht : t.Shows e lines)
    (hs : e.status = ending.status) (input : List InputLine) :
    Follows wording input t e 0 lines := by
  have hnext : t.next = .finished ⟨e, []⟩ := by
    rw [ht.next_eq, await, hs]
    cases ending <;> rfl
  have hclose : continueSession wording input t = t.close := by
    cases input with
    | nil => rfl
    | cons line rest => rw [continueSession, hnext]
  have hread : linesRead wording input t = 0 := by
    cases input with
    | nil => rfl
    | cons line rest => rw [linesRead, hnext]
  refine ⟨?_, hread, ?_, ?_⟩
  · rw [hclose, Turn.close, hnext]
  · rw [hclose]
    exact ht.lines_eq
  · rw [hclose]
    exact ht.accepted

/-- A session after a turn in which a line was read. -/
theorem Follows.cons {input : List InputLine} {line : InputLine} {last : Engine} {count : Nat}
    {shown : List String} (ht : t.Shows e lines) (hdue : e.Due c)
    (h : Follows wording input (respond wording ⟨e, []⟩ line) last count shown) :
    Follows wording (line :: input) t last (count + 1) (lines ++ shown) := by
  have hnext : t.next = .prompt ⟨e, []⟩ := by
    rw [ht.next_eq, await]
    cases hdue with
    | advance hs | choose index hs => rw [hs]
  have hrest : continueSession wording (line :: input) t =
      (continueSession wording input (respond wording ⟨e, []⟩ line)).after t := by
    rw [continueSession, hnext]
  refine ⟨?_, ?_, ?_, ?_⟩
  · rw [hrest]
    exact h.result_eq
  · rw [linesRead, hnext, ← h.read_eq]
  · rw [hrest, SessionResult.after, storyLines_append, ht.lines_eq, h.lines_eq]
  · rw [hrest]
    exact List.forall_mem_append.2 ⟨ht.accepted, h.accepted⟩

/-- The lines that give some signals, one after the other. -/
def script (calls : List Call) : List String :=
  calls.map entry

/-- A session whose input gives the signals of a run follows the run to its end. -/
theorem follows_of_signals {s u : Case.RunState} {calls : List Call} {ending : Case.Ending}
    (h : s.Signals calls u) (ht : t.Shows s.engine lines) (hs : u.engine.status = ending.status)
    (hc : ∀ index ∈ chosen calls, index < Word.bound) (more : List InputLine) :
    Follows wording ((script calls).map (fun line => .ok (line ++ "\n")) ++ more) t u.engine
      calls.length (lines ++ commandLines (s.engine.recording calls)) := by
  -- Each signal is a turn, after which the session stands as the run does after the signal.
  induction h generalizing t lines with
  | nil s =>
    have hlines : lines ++ commandLines (s.engine.recording []) = lines := List.append_nil lines
    rw [hlines]
    exact follows_of_stopped ht hs more
  | @cons s next u c calls hgives _ ih =>
    rw [Case.RunState.chosen_cons] at hc
    obtain ⟨hfirst, hrest⟩ := List.forall_mem_append.1 hc
    have hturn : (respond wording ⟨s.engine, []⟩ (.ok (entry c ++ "\n"))).Shows next.engine
        (commandLines (s.engine.call c).commands) := by
      rw [hgives.engine_eq]
      exact shows_respond hgives.due hgives.result fun index hi =>
        hfirst index (Option.mem_toList.2 hi)
    have hsession := Follows.cons ht hgives.due (ih hturn hs hrest)
    have hlines : commandLines (s.engine.recording (c :: calls)) =
        commandLines (s.engine.call c).commands ++ commandLines (next.engine.recording calls) := by
      rw [hgives.engine_eq]
      exact List.flatMap_append
    rw [hlines]
    exact hsession

/-- The story in a directory is played from its file. -/
theorem openPlay_of_opens {language : Script.Language} {files : Files.FileTree}
    {directory text : String} {story : Story} {e : Engine} {commands : List Command}
    (htext : Case.storyText files directory = .ok text)
    (h : Case.Opens language wording text story e commands) (path : String) :
    ∃ told, openPlay language wording path .errors
        (files.find (Files.Path.join directory Files.Path.storyFileName)) =
      (told, .ok (firstTurn ⟨e, commandLines commands⟩)) := by
  obtain ⟨bytes, hfind, hdecode⟩ := Case.exists_find_of_storyText htext
  have hload : loadFile language (.ok (.file bytes)) = .ok story := by
    rw [loadFile, bind_eq_ok]
    refine ⟨text, mapError_eq_ok.2 hdecode, ?_⟩
    rw [h.load]
    rfl
  rw [hfind, openPlay, hload]
  dsimp only
  rw [h.result, h.commands_eq]
  exact ⟨_, rfl⟩

/-- A run and a session play a story alike. If a test case can be run, then a session for the same
file, on input that gives the signals of the run and in which anything may follow, reads a line for
every signal and none that follows, turns no line down, shows the lines of the commands that were
seen in the run, ends well, and leaves the engine as the run does, with the story stopped as the
report says. -/
theorem session_follows_run {language : Script.Language} {files : Files.FileTree}
    {directory : String} {testCase : Case.TestCase} {report : Case.RunReport}
    (h : Case.runCase language wording files directory testCase = .ok report)
    (hactions : ∀ index ∈ testCase.actions, index < Word.bound) (path : String) :
    ∃ opened commands calls last told,
      Case.RunState.Signals (.opened opened testCase.actions commands) calls last ∧
      chosen calls = testCase.actions ∧
      calls.length = report.signals ∧
      last.engine.status = report.ending.status ∧
      openPlay language wording path .errors
          (files.find (Files.Path.join directory Files.Path.storyFileName)) =
        (told, .ok (firstTurn ⟨opened, commandLines commands⟩)) ∧
      ∀ more : ByteArray,
        Follows wording (inputLines (typed (script calls) ++ more))
          (firstTurn ⟨opened, commandLines commands⟩) last.engine report.signals
          (commandLines report.observedCommands) ∧
        (play language wording path .errors
          (files.find (Files.Path.join directory Files.Path.storyFileName))
          (inputLines (typed (script calls) ++ more))).exit = 0 := by
  obtain ⟨text, story, opened, commands, htext, hopens⟩ := Case.exists_opens_of_runCase h
  obtain ⟨told, hopen⟩ := openPlay_of_opens htext hopens path
  rw [Case.runCase_of_opens htext hopens, mapError_eq_ok, Case.RunState.run_eq_ok_iff] at h
  obtain ⟨calls, last, hsignals, -, hstatus, hleft, hreport⟩ := h
  have hchosen : testCase.actions = chosen calls := by
    have hused := hsignals.actions_eq
    rw [hleft, List.append_nil] at hused
    exact hused
  have hcount : report.signals = calls.length := by
    rw [hreport, hsignals.signals_eq]
    exact Nat.zero_add _
  -- What was seen in the run is what opening the story has shown, and then what each signal has.
  have hshown : commandLines report.observedCommands =
      commandLines commands ++ commandLines (opened.recording calls) := by
    rw [hreport, hsignals.commands_eq]
    exact List.flatMap_append
  have hnewline : ∀ line ∈ script calls, '\n' ∉ line.toList :=
    List.forall_mem_map.2 fun c _ => newline_notMem_entry c
  refine ⟨opened, commands, calls, last, told, hsignals, hchosen.symm, hcount.symm, hstatus, hopen,
    fun more => ?_⟩
  have hfollows : Follows wording (inputLines (typed (script calls) ++ more))
      (firstTurn ⟨opened, commandLines commands⟩) last.engine report.signals
      (commandLines report.observedCommands) := by
    rw [inputLines_typed hnewline, hcount, hshown]
    exact follows_of_signals hsignals (shows_firstTurn opened (commandLines commands)) hstatus
      (hchosen ▸ hactions) (inputLines more)
  refine ⟨hfollows, ?_⟩
  rw [play, hopen]
  dsimp only
  rw [hfollows.result_eq]

/-- Whoever goes once around the crossroads and then on enters three lines. -/
theorem session_follows_run_of_onceAround :
    Case.runCase .own .own Case.crossroadsFiles "s" Case.onceAround = .ok Case.onceAroundReport ∧
      (∀ index ∈ Case.onceAround.actions, index < Word.bound) ∧
      ∃ opened commands calls last told,
        Case.RunState.Signals (.opened opened [0, 1] commands) calls last ∧
        chosen calls = [0, 1] ∧
        calls.length = 3 ∧
        last.engine.status = .ended ∧
        openPlay .own .own "s/story.json" .errors
            (Case.crossroadsFiles.find (Files.Path.join "s" Files.Path.storyFileName)) =
          (told, .ok (firstTurn ⟨opened, commandLines commands⟩)) ∧
        ∀ more : ByteArray,
          Follows .own (inputLines (typed (script calls) ++ more))
            (firstTurn ⟨opened, commandLines commands⟩) last.engine 3
            (commandLines Case.onceAroundReport.observedCommands) ∧
          (play .own .own "s/story.json" .errors
            (Case.crossroadsFiles.find (Files.Path.join "s" Files.Path.storyFileName))
            (inputLines (typed (script calls) ++ more))).exit = 0 := by
  have hactions : ∀ index ∈ Case.onceAround.actions, index < Word.bound := by decide
  have hrun := Case.runCase_onceAround .own
  exact ⟨hrun, hactions, session_follows_run hrun hactions "s/story.json"⟩

end Console

end BranchingStory
