import BranchingStory.Json.Draft
import BranchingStory.Json.Printer
import BranchingStory.Proofs.Digits
import BranchingStory.Proofs.Success
import Mathlib

/-!
# JSON texts are read back

A value whose numbers are whole and fit into 64 bits, and which does not nest too deeply, is read
back from the text that is written for it, on one line (`parse_compact`) or spread over many
(`parse_pretty`).

Reading takes two machines, one after the other. The first finds the tokens: a piece of text spells
some tokens if the machine makes them of it wherever the text goes on with a character that ends
numerals and words (`Spells`). The second builds a draft: some tokens build a draft if the machine
puts it into what is open at that time (`Builds`). Both are put together in `Reads`, which is all
that the two ways of writing have to be checked against.
-/

namespace BranchingStory.Json

/-! ## Tokens -/

/-- A character ends a numeral or word before it. -/
abbrev Ends (c : Char) : Prop :=
  Mode.inNumeral c = false ∧ ¬('a' ≤ c ∧ c ≤ 'z')

/-- A text that goes on like this has no part in a numeral or word before it. -/
def Closes : List Char → Prop
  | [] => True
  | c :: _ => Ends c

/-- A piece of text is read as some tokens. -/
def Spells (cs : List Char) (tokens : List Token) : Prop :=
  ∀ before rest, Closes rest →
    Mode.between.run before (cs ++ rest) = Mode.between.run (tokens.reverse ++ before) rest

/-- A piece of text is read as some tokens whatever comes after it, and ends what comes before. -/
structure Marks (cs : List Char) (tokens : List Token) : Prop where
  closes : ∀ rest, Closes (cs ++ rest)
  run_eq : ∀ before rest,
    Mode.between.run before (cs ++ rest) = Mode.between.run (tokens.reverse ++ before) rest

variable {cs ds : List Char} {first second : List Token}

theorem Marks.append (h : Marks cs first) (h' : Marks ds second) :
    Marks (cs ++ ds) (first ++ second) where
  closes rest := by
    rw [List.append_assoc]
    exact h.closes (ds ++ rest)
  run_eq before rest := by
    rw [List.append_assoc, h.run_eq, h'.run_eq, List.reverse_append, List.append_assoc]

theorem Marks.spells (h : Marks cs first) : Spells cs first := fun before rest _ =>
  h.run_eq before rest

theorem Spells.append_marks (h : Spells cs first) (h' : Marks ds second) :
    Spells (cs ++ ds) (first ++ second) := by
  intro before rest _
  rw [List.append_assoc, h before _ (h'.closes rest), h'.run_eq, List.reverse_append,
    List.append_assoc]

theorem Marks.append_spells (h : Marks cs first) (h' : Spells ds second) :
    Spells (cs ++ ds) (first ++ second) := by
  intro before rest hrest
  rw [List.append_assoc, h.run_eq, h' _ rest hrest, List.reverse_append, List.append_assoc]

theorem Spells.join (h : Spells cs first) {middle : List Char} {between : List Token}
    (hm : Marks middle between) (h' : Spells ds second) :
    Spells (cs ++ middle ++ ds) (first ++ between ++ second) := by
  intro before rest hrest
  rw [List.append_assoc, List.append_assoc, h before _ (hm.closes _), hm.run_eq,
    h' _ rest hrest, List.reverse_append, List.reverse_append, List.append_assoc, List.append_assoc]

/-! ## Marks -/

theorem marks_of_start {c : Char} {tokens : List Token} (hc : Ends c)
    (h : Mode.start c = .ok (.between, tokens)) : Marks [c] tokens where
  closes _ := hc
  run_eq before rest := by
    rw [List.singleton_append, Mode.run, Mode.step, h]

theorem marks_comma : Marks ",".toList [.comma] := marks_of_start (by decide) rfl

theorem marks_colon : Marks ":".toList [.colon] := marks_of_start (by decide) rfl

theorem marks_blank : Marks [' '] [] := marks_of_start (by decide) rfl

theorem marks_colon_blank : Marks ": ".toList [.colon] := marks_colon.append marks_blank

theorem marks_openArray : Marks "[".toList [.openArray] := marks_of_start (by decide) rfl

theorem marks_closeArray : Marks "]".toList [.closeArray] := marks_of_start (by decide) rfl

theorem marks_openObject : Marks "\x7b".toList [.openObject] := marks_of_start (by decide) rfl

theorem marks_closeObject : Marks "\x7d".toList [.closeObject] := marks_of_start (by decide) rfl

theorem marks_newline (level : Nat) : Marks (newline level).toList [] := by
  have hblanks : ∀ n, Marks ('\n' :: List.replicate n ' ') [] := by
    intro n
    induction n with
    | zero => exact marks_of_start (by decide) rfl
    | succ n ih =>
      rw [List.replicate_succ', ← List.cons_append]
      exact ih.append marks_blank
  have hchars : (newline level).toList = '\n' :: List.replicate (2 * level) ' ' := by
    rw [newline, String.toList_append]
    exact congrArg ('\n' :: ·) String.toList_ofList
  rw [hchars]
  exact hblanks (2 * level)

/-! ## Words and numerals -/

/-- A character inside a token only changes the mode. -/
theorem run_cons_of_step {mode next : Mode} {c : Char} (h : mode.step c = .ok (next, []))
    (before : List Token) (rest : List Char) :
    mode.run before (c :: rest) = next.run before rest := by
  rw [Mode.run, h]
  rfl

/-- What comes after a token that is complete does not matter for it. -/
theorem run_eq_of_complete {mode : Mode} {token : Token} {rest : List Char}
    (hfinish : mode.finish = .ok [token])
    (hstep : ∀ c, Ends c → mode.step c =
      (Mode.start c).map fun (next, tokens) => (next, token :: tokens))
    (hrest : Closes rest) (before : List Token) :
    mode.run before rest = Mode.between.run (token :: before) rest := by
  -- The machine notices that the token is complete at the character behind it, or at the end.
  cases rest with
  | nil =>
    rw [Mode.run, Mode.run, hfinish, List.reverse_cons]
    simp [Mode.finish]
  | cons c rest =>
    rw [Mode.run, Mode.run, hstep c hrest, Mode.step]
    cases Mode.start c with
    | error problem => rfl
    | ok next =>
      show next.1.run ((token :: next.2).reverse ++ before) rest =
        next.1.run (next.2.reverse ++ token :: before) rest
      rw [List.reverse_cons, List.append_assoc]
      rfl

theorem run_word {letters : List Char} {token : Token} {rest : List Char}
    (h : Mode.endWord letters = .ok token) (hrest : Closes rest) (before : List Token) :
    (Mode.word letters).run before rest = Mode.between.run (token :: before) rest := by
  refine run_eq_of_complete ?_ ?_ hrest before
  · rw [Mode.finish, h]
    rfl
  · intro c hc
    rw [Mode.step, if_neg hc.2, h]
    cases Mode.start c <;> rfl

theorem run_numeral {chars : List Char} {token : Token} {rest : List Char}
    (h : Mode.endNumeral chars = .ok token) (hrest : Closes rest) (before : List Token) :
    (Mode.numeral chars).run before rest = Mode.between.run (token :: before) rest := by
  refine run_eq_of_complete ?_ ?_ hrest before
  · rw [Mode.finish, h]
    rfl
  · intro c hc
    rw [Mode.step, if_neg (by simp [hc.1]), h]
    cases Mode.start c <;> rfl

theorem spells_null : Spells "null".toList [.null] := by
  have hword : Mode.endWord ['l', 'l', 'u', 'n'] = .ok .null := rfl
  exact fun before _ hrest => run_word hword hrest before

theorem spells_bool (b : Bool) : Spells (if b then "true" else "false").toList [.bool b] := by
  have htrue : Mode.endWord ['e', 'u', 'r', 't'] = .ok (.bool true) := rfl
  have hfalse : Mode.endWord ['e', 's', 'l', 'a', 'f'] = .ok (.bool false) := rfl
  intro before rest hrest
  cases b with
  | true => exact run_word htrue hrest before
  | false => exact run_word hfalse hrest before

theorem start_of_isDigit {c : Char} (h : c.isDigit = true) :
    Mode.start c = .ok (.numeral [c], []) := by
  unfold Mode.start
  split
  all_goals first
    | exact absurd h (by decide)
    | rw [if_pos (.inl h)]

theorem run_digits {ds : List Char} (h : ∀ d ∈ ds, d.isDigit = true) (chars : List Char)
    (before : List Token) (rest : List Char) :
    (Mode.numeral chars).run before (ds ++ rest) =
      (Mode.numeral (ds.reverse ++ chars)).run before rest := by
  induction ds generalizing chars with
  | nil => rfl
  | cons d ds ih =>
    obtain ⟨hd, hds⟩ := List.forall_mem_cons.1 h
    have hstep : (Mode.numeral chars).step d = .ok (.numeral (d :: chars), []) := by
      rw [Mode.step, if_pos (by simp [Mode.inNumeral, hd])]
    rw [List.cons_append, run_cons_of_step hstep, List.reverse_cons, List.append_assoc]
    exact ih hds (d :: chars)

theorem spells_number {n : Nat} (h : n < Word.bound) :
    Spells (toString n).toList [.number (some (.int n))] := by
  have hend := endNumeral_toString h
  have hdigits : ∀ c ∈ (toString n).toList, c.isDigit = true := fun _ => isDigit_of_mem_toString
  intro before rest hrest
  cases hcs : (toString n).toList with
  | nil => exact absurd hcs (toList_toString_ne_nil n)
  | cons c cs =>
    rw [hcs] at hend hdigits
    obtain ⟨hc, hcs⟩ := List.forall_mem_cons.1 hdigits
    have hstep : Mode.between.step c = .ok (.numeral [c], []) := start_of_isDigit hc
    rw [List.cons_append, run_cons_of_step hstep, run_digits hcs, ← List.reverse_cons,
      run_numeral hend hrest]
    rfl

/-! ## Strings -/

theorem hexDigit?_digitChar {n : Nat} (h : n < 16) : Mode.hexDigit? (Nat.digitChar n) = some n := by
  interval_cases n <;> rfl

/-- A string has been read so far, with these characters, the last one first. -/
abbrev inside (chars : List Char) : Mode :=
  .text ⟨chars, none, false⟩

theorem pushCode_of_lt {c : Char} (h : c.toNat < 32) (chars : List Char) :
    Partial.pushCode ⟨chars, none, false⟩ c.toNat = ⟨c :: chars, none, false⟩ := by
  have hhigh : ¬0xD800 ≤ c.toNat := by omega
  have hlow : ¬0xDC00 ≤ c.toNat := by omega
  simp [Partial.pushCode, hhigh, hlow, Char.ofNat_toNat]

/-- A character that is written as its code is read by its four digits. -/
theorem run_code {c : Char} (h : c.toNat < 32) (chars : List Char) (before : List Token)
    (rest : List Char) :
    (inside chars).run before (("\\u00" ++ hexByte c.toNat).toList ++ rest) =
      (inside (c :: chars)).run before rest := by
  have hhigh := hexDigit?_digitChar (n := c.toNat / 16) (by omega)
  have hlow := hexDigit?_digitChar (n := c.toNat % 16) (by omega)
  have hchars : ("\\u00" ++ hexByte c.toNat).toList =
      ['\\', 'u', '0', '0'] ++ [Nat.digitChar (c.toNat / 16), Nat.digitChar (c.toNat % 16)] := by
    rw [String.toList_append, hexByte]
    exact congrArg (['\\', 'u', '0', '0'] ++ ·) String.toList_ofList
  have hcode : 16 * (16 * 0 + c.toNat / 16) + c.toNat % 16 = c.toNat := by omega
  have hfirst : (Mode.code ⟨chars, none, false⟩ 2 0).step (Nat.digitChar (c.toNat / 16)) =
      .ok (.code ⟨chars, none, false⟩ 3 (16 * 0 + c.toNat / 16), []) := by
    rw [Mode.step, hhigh]
    rfl
  have hsecond : (Mode.code ⟨chars, none, false⟩ 3 (16 * 0 + c.toNat / 16)).step
      (Nat.digitChar (c.toNat % 16)) = .ok (inside (c :: chars), []) := by
    rw [Mode.step, hlow]
    dsimp only
    rw [if_pos rfl, hcode, pushCode_of_lt h]
  rw [hchars, List.append_assoc]
  calc (inside chars).run before (['\\', 'u', '0', '0'] ++
          ([Nat.digitChar (c.toNat / 16), Nat.digitChar (c.toNat % 16)] ++ rest)) =
      (Mode.code ⟨chars, none, false⟩ 2 0).run before
        (Nat.digitChar (c.toNat / 16) :: Nat.digitChar (c.toNat % 16) :: rest) := rfl
    _ = (Mode.code ⟨chars, none, false⟩ 3 (16 * 0 + c.toNat / 16)).run before
        (Nat.digitChar (c.toNat % 16) :: rest) := run_cons_of_step hfirst before _
    _ = (inside (c :: chars)).run before rest := run_cons_of_step hsecond before rest

/-- However a character is written inside a string, it is read back. -/
theorem run_escapeChar (c : Char) (chars : List Char) (before : List Token) (rest : List Char) :
    (inside chars).run before ((escapeChar c).toList ++ rest) =
      (inside (c :: chars)).run before rest := by
  unfold escapeChar
  split
  -- The characters with a letter of their own.
  · rfl
  · rfl
  · rfl
  · rfl
  · rfl
  · rfl
  · rfl
  · next hquote hbackslash _ _ _ _ _ =>
    split
    · next hlt => exact run_code hlt chars before rest
    · next hge =>
      have hstep : (inside chars).step c = .ok (inside (c :: chars), []) := by
        rw [Mode.step, if_neg hquote, if_neg hbackslash, if_neg hge]
        rfl
      rw [Char.toString_eq_singleton, String.toList_singleton, List.singleton_append,
        run_cons_of_step hstep]

theorem run_escapeChars (cs chars : List Char) (before : List Token) (rest : List Char) :
    (inside chars).run before ((String.join (cs.map escapeChar)).toList ++ rest) =
      (inside (cs.reverse ++ chars)).run before rest := by
  induction cs generalizing chars with
  | nil => rfl
  | cons c cs ih =>
    rw [List.map_cons, String.join_cons, String.toList_append, List.append_assoc, run_escapeChar,
      ih, List.reverse_cons, List.append_assoc]
    rfl

theorem spells_quote (s : String) : Spells (quote s).toList [.string (some s)] := by
  have htext : Partial.text ⟨s.toList.reverse, none, false⟩ = some s := by
    rw [Partial.text, List.reverse_reverse, String.ofList_toList]
    rfl
  intro before rest _
  rw [quote, String.toList_append, String.toList_append, List.append_assoc, List.append_assoc]
  calc Mode.between.run before
        ("\"".toList ++ ((String.join (s.toList.map escapeChar)).toList ++ ("\"".toList ++ rest))) =
      (inside []).run before
        ((String.join (s.toList.map escapeChar)).toList ++ ("\"".toList ++ rest)) := rfl
    _ = (inside s.toList.reverse).run before ('"' :: rest) := by
      rw [run_escapeChars, List.append_nil]
      rfl
    _ = Mode.between.run ([.string (some s)].reverse ++ before) rest := by
      rw [Mode.run, Mode.step, if_pos rfl, htext]

/-! ## Drafts -/

theorem Builder.run_cons_of_step {b next : Builder} {token : Token} (h : b.step token = .ok next)
    (rest : List Token) : b.run (token :: rest) = next.run rest := by
  rw [run, h]

/-- Where a value may start. -/
inductive Due.IsValue : Due → Prop
  | value : Due.IsValue .value
  | firstItem : Due.IsValue .firstItem

/-- From some tokens a draft is built where a value may start. -/
def Builds (tokens : List Token) (d : Draft) : Prop :=
  ∀ (frames : List Frame) {due : Due} (rest : List Token), due.IsValue →
    Builder.run ⟨frames, due⟩ (tokens ++ rest) = Builder.run (Builder.put d frames) rest

/-- A piece of text is read as a draft. -/
def Reads (cs : List Char) (d : Draft) : Prop :=
  ∃ tokens, Spells cs tokens ∧ Builds tokens d

theorem reads_of_startValue {token : Token} {d : Draft} (hcs : Spells cs [token])
    (h : ∀ {frames due}, Due.IsValue due →
      Builder.step ⟨frames, due⟩ token = .ok (Builder.put d frames)) : Reads cs d := by
  refine ⟨[token], hcs, fun frames due rest hdue => ?_⟩
  rw [List.singleton_append, Builder.run_cons_of_step (h hdue)]

theorem reads_null : Reads "null".toList .null :=
  reads_of_startValue spells_null fun hdue => by cases hdue <;> rfl

theorem reads_bool (b : Bool) : Reads (if b then "true" else "false").toList (.bool b) :=
  reads_of_startValue (spells_bool b) fun hdue => by cases hdue <;> rfl

theorem reads_number {n : Nat} (h : n < Word.bound) :
    Reads (toString n).toList (.number (some (.int n))) :=
  reads_of_startValue (spells_number h) fun hdue => by cases hdue <;> rfl

theorem reads_quote (s : String) : Reads (quote s).toList (.string (some s)) :=
  reads_of_startValue (spells_quote s) fun hdue => by cases hdue <;> rfl

/-! ## Arrays and objects -/

/-- A kind of values that have members: how such a value is opened, goes on, and is closed. -/
structure Kind (α : Type) where
  /-- What the value starts with. -/
  opening : Token
  /-- What the value ends with. -/
  closing : Token
  /-- The value that has been opened, with its members so far, the last one first. -/
  frame : List α → Frame
  /-- What may come after the opening. -/
  first : Due
  /-- What may come after a comma. -/
  next : Due
  /-- The value with its members. -/
  draft : List α → Draft
  /-- The opening opens the value. -/
  step_opening : ∀ {frames due}, Due.IsValue due →
    Builder.step ⟨frames, due⟩ opening = .ok ⟨frame [] :: frames, first⟩
  /-- A comma separates members. -/
  step_comma : ∀ members outer,
    Builder.step ⟨frame members :: outer, .separator⟩ .comma = .ok ⟨frame members :: outer, next⟩
  /-- The closing closes the value after a member. -/
  step_closing : ∀ members outer, Builder.step ⟨frame members :: outer, .separator⟩ closing =
    .ok (Builder.put (draft members.reverse) outer)
  /-- The closing closes a value without members. -/
  step_closing_empty : ∀ outer,
    Builder.step ⟨frame [] :: outer, first⟩ closing = .ok (Builder.put (draft []) outer)

/-- Arrays have elements. -/
def Kind.array : Kind Draft where
  opening := .openArray
  closing := .closeArray
  frame := .array
  first := .firstItem
  next := .value
  draft := .array
  step_opening h := by cases h <;> rfl
  step_comma _ _ := rfl
  step_closing _ _ := rfl
  step_closing_empty _ := rfl

/-- Objects have fields. -/
def Kind.object : Kind (Option String × Draft) where
  opening := .openObject
  closing := .closeObject
  frame fields := .object fields none
  first := .firstName
  next := .name
  draft := .object
  step_opening h := by cases h <;> rfl
  step_comma _ _ := rfl
  step_closing _ _ := rfl
  step_closing_empty _ := rfl

variable {α : Type} {k : Kind α}

/-- Tokens add some members to a value that is open. -/
def Kind.Adds (k : Kind α) (tokens : List Token) (members : List α) : Prop :=
  ∀ before outer {due : Due} rest, due = k.first ∨ due = k.next →
    Builder.run ⟨k.frame before :: outer, due⟩ (tokens ++ rest) =
      Builder.run ⟨k.frame (members.reverse ++ before) :: outer, .separator⟩ rest

/-- A text is read as a member. -/
def Kind.ReadsMember (k : Kind α) (s : String) (member : α) : Prop :=
  ∃ tokens, Spells s.toList tokens ∧ k.Adds tokens [member]

theorem readsMember_item {s : String} {d : Draft} (h : Reads s.toList d) :
    Kind.array.ReadsMember s d := by
  obtain ⟨tokens, hspells, hbuilds⟩ := h
  refine ⟨tokens, hspells, fun before outer due rest hdue => ?_⟩
  have hvalue : due.IsValue := by
    rcases hdue with rfl | rfl
    · exact .firstItem
    · exact .value
  exact hbuilds (.array before :: outer) rest hvalue

theorem readsMember_field {name colon s : String} {d : Draft}
    (hcolon : Marks colon.toList [.colon]) (h : Reads s.toList d) :
    Kind.object.ReadsMember (quote name ++ colon ++ s) (some name, d) := by
  obtain ⟨tokens, hspells, hbuilds⟩ := h
  refine ⟨[.string (some name)] ++ [.colon] ++ tokens, ?_, fun before outer due rest hdue => ?_⟩
  · rw [String.toList_append, String.toList_append]
    exact (spells_quote name).join hcolon hspells
  · have hname : Builder.step ⟨.object before none :: outer, due⟩ (.string (some name)) =
        .ok ⟨.object before (some name) :: outer, .colon⟩ := by
      rcases hdue with rfl | rfl <;> rfl
    have hcolon : Builder.step ⟨.object before (some name) :: outer, .colon⟩ .colon =
        .ok ⟨.object before (some name) :: outer, .value⟩ := rfl
    rw [List.append_assoc, List.append_assoc, List.singleton_append, List.singleton_append]
    exact (Builder.run_cons_of_step hname _).trans <| (Builder.run_cons_of_step hcolon _).trans <|
      hbuilds (.object before (some name) :: outer) rest .value

/-- Members with commas between them are added one after the other. -/
theorem exists_adds_intercalate {β : Type} {separator : List Char} {members : List β}
    {write : β → String} {draft : β → α} (hs : Marks separator [.comma])
    (h : ∀ member ∈ members, k.ReadsMember (write member) (draft member)) (hne : members ≠ []) :
    ∃ tokens, Spells (separator.intercalate (members.map (String.toList ∘ write))) tokens ∧
      k.Adds tokens (members.map draft) := by
  -- There is a comma only in front of another member, so the last one is a case of its own.
  induction members with
  | nil => exact absurd rfl hne
  | cons member members ih =>
    obtain ⟨⟨tokens, hspells, hadds⟩, hrest⟩ := List.forall_mem_cons.1 h
    cases members with
    | nil => exact ⟨tokens, by simpa using hspells, hadds⟩
    | cons second members =>
      obtain ⟨others, hspells', hadds'⟩ := ih hrest (List.cons_ne_nil _ _)
      refine ⟨tokens ++ [.comma] ++ others, ?_, fun before outer due rest hdue => ?_⟩
      · rw [List.map_cons, List.map_cons, List.intercalate_cons_cons]
        exact hspells.join hs hspells'
      · rw [List.append_assoc, List.append_assoc, hadds _ _ _ hdue, List.singleton_append,
          Builder.run_cons_of_step (k.step_comma _ _), hadds' _ _ _ (.inr rfl), ← List.append_assoc,
          ← List.reverse_append]
        rfl

/-- Members between brackets are read as the value that has them. -/
theorem reads_bracketed {β : Type} {opening separator closing : String} {members : List β}
    {write : β → String} {draft : β → α} (ho : Marks opening.toList [k.opening])
    (hs : Marks separator.toList [.comma]) (hc : Marks closing.toList [k.closing])
    (h : ∀ member ∈ members, k.ReadsMember (write member) (draft member)) :
    Reads (opening ++ String.intercalate separator (members.map write) ++ closing).toList
      (k.draft (members.map draft)) := by
  rw [String.toList_append, String.toList_append, String.toList_intercalate, List.map_map]
  by_cases hempty : members = []
  · subst hempty
    refine ⟨[k.opening] ++ [k.closing], ?_, fun frames due rest hdue => ?_⟩
    · rw [List.map_nil, List.intercalate_nil, List.append_nil]
      exact (ho.append hc).spells
    · rw [List.append_assoc, List.singleton_append, Builder.run_cons_of_step (k.step_opening hdue),
        List.singleton_append, Builder.run_cons_of_step (k.step_closing_empty _), List.map_nil]
  · obtain ⟨tokens, hspells, hadds⟩ := exists_adds_intercalate hs h hempty
    refine ⟨[k.opening] ++ tokens ++ [k.closing], ?_, fun frames due rest hdue => ?_⟩
    · exact (ho.append_spells hspells).append_marks hc
    · rw [List.append_assoc, List.append_assoc, List.singleton_append,
        Builder.run_cons_of_step (k.step_opening hdue), hadds _ _ _ (.inl rfl),
        List.singleton_append, Builder.run_cons_of_step (k.step_closing _ _), List.append_nil,
        List.reverse_reverse]

/-! ## Values -/

mutual

/-- A value as a draft. -/
def Draft.ofJson : Json → Draft
  | .null => .null
  | .bool b => .bool b
  | .number n => .number (some n)
  | .string s => .string (some s)
  | .array items => .array (ofItems items)
  | .object fields => .object (ofFields fields)

/-- The elements of an array as drafts. -/
def Draft.ofItems : List Json → List Draft
  | [] => []
  | item :: rest => ofJson item :: ofItems rest

/-- The fields of an object as drafts. -/
def Draft.ofFields : List (String × Json) → List (Option String × Draft)
  | [] => []
  | (name, value) :: rest => (some name, ofJson value) :: ofFields rest

end

/-- All numbers of a value are whole and fit into 64 bits, none is negative, and arrays and objects
lie at most `levels` deep in one another. -/
inductive Plain : Nat → Json → Prop
  | null (levels : Nat) : Plain levels .null
  | bool (levels : Nat) (b : Bool) : Plain levels (.bool b)
  | number (levels : Nat) {n : Nat} (h : n < Word.bound) : Plain levels (.number (.int n))
  | string (levels : Nat) (s : String) : Plain levels (.string s)
  | array {levels : Nat} {items : List Json} (h : ∀ item ∈ items, Plain levels item) :
    Plain (levels + 1) (.array items)
  | object {levels : Nat} {fields : List (String × Json)}
    (h : ∀ field ∈ fields, Plain levels field.2) : Plain (levels + 1) (.object fields)

variable {levels : Nat} {v : Json}

theorem Plain.of_mem {fields : List (String × Json)} (h : Plain (levels + 1) (.object fields)) :
    ∀ field ∈ fields, Plain levels field.2 := by
  cases h with
  | object h => exact h

theorem Draft.ofItems_eq_map (items : List Json) : ofItems items = items.map ofJson := by
  induction items with
  | nil => rfl
  | cons item rest ih => rw [ofItems, ih, List.map_cons]

theorem Draft.ofFields_eq_map (fields : List (String × Json)) :
    ofFields fields = fields.map fun field => (some field.1, ofJson field.2) := by
  induction fields with
  | nil => rfl
  | cons field rest ih => rw [ofFields, ih, List.map_cons]

/-- Members that are read back one by one are read back together. -/
theorem mapM_map_eq_pure {m : Type → Type} [Monad m] [LawfulMonad m] {β γ : Type} {read : β → m γ}
    {write : γ → β} {members : List γ} (h : ∀ member ∈ members, read (write member) = pure member) :
    (members.map write).mapM read = pure members := by
  induction members with
  | nil => rfl
  | cons member rest ih =>
    obtain ⟨hmember, hrest⟩ := List.forall_mem_cons.1 h
    rw [List.map_cons, List.mapM_cons, hmember, ih hrest, pure_bind, pure_bind]

/-- A value that does not nest too deeply is the value of its draft. -/
theorem toJson_ofJson (h : Plain levels v) : (Draft.ofJson v).toJson levels = .ok v := by
  induction h with
  | null levels | bool levels b | number levels _ | string levels s =>
    cases levels <;> rfl
  | array _ ih =>
    rw [Draft.ofJson, Draft.ofItems_eq_map, Draft.toJson, mapM_map_eq_pure ih]
    rfl
  | object _ ih =>
    rw [Draft.ofJson, Draft.ofFields_eq_map, Draft.toJson, mapM_map_eq_pure]
    · rfl
    · intro field hfield
      dsimp only
      rw [ih field hfield]
      rfl

/-! ## Writing on one line -/

theorem compactItems_eq_map (items : List Json) : compactItems items = items.map compact := by
  induction items with
  | nil => rfl
  | cons item rest ih => rw [compactItems, ih, List.map_cons]

theorem compactFields_eq_map (fields : List (String × Json)) :
    compactFields fields = fields.map fun field => quote field.1 ++ ":" ++ compact field.2 := by
  induction fields with
  | nil => rfl
  | cons field rest ih => rw [compactFields, ih, List.map_cons]

theorem reads_compact (h : Plain levels v) : Reads (compact v).toList (Draft.ofJson v) := by
  induction h with
  | null _ => exact reads_null
  | bool _ b => exact reads_bool b
  | number _ hn => exact reads_number hn
  | string _ s => exact reads_quote s
  | array _ ih =>
    rw [compact, compactItems_eq_map, Draft.ofJson, Draft.ofItems_eq_map]
    exact reads_bracketed (k := .array) marks_openArray marks_comma marks_closeArray
      fun item hitem => readsMember_item (ih item hitem)
  | object _ ih =>
    rw [compact, compactFields_eq_map, Draft.ofJson, Draft.ofFields_eq_map]
    exact reads_bracketed (k := .object) marks_openObject marks_comma marks_closeObject
      fun field hfield => readsMember_field marks_colon (ih field hfield)

/-! ## Writing on many lines -/

theorem prettyItems_eq_map (level : Nat) (items : List Json) :
    prettyItems level items = items.map (prettyAt level) := by
  induction items with
  | nil => rfl
  | cons item rest ih => rw [prettyItems, ih, List.map_cons]

theorem prettyFields_eq_map (level : Nat) (fields : List (String × Json)) :
    prettyFields level fields =
      fields.map fun field => quote field.1 ++ ": " ++ prettyAt level field.2 := by
  induction fields with
  | nil => rfl
  | cons field rest ih => rw [prettyFields, ih, List.map_cons]

theorem reads_block {β : Type} {opening closing : String} {members : List β} {write : β → String}
    {draft : β → α} (ho : Marks opening.toList [k.opening]) (hc : Marks closing.toList [k.closing])
    (level : Nat) (h : ∀ member ∈ members, k.ReadsMember (write member) (draft member)) :
    Reads (block opening closing level (members.map write)).toList
      (k.draft (members.map draft)) := by
  rw [block]
  split
  · next hempty =>
    have hjoin : String.intercalate "," (members.map write) = "" := by
      rw [List.isEmpty_iff.1 hempty]
      rfl
    have hreads := reads_bracketed ho marks_comma hc h
    rw [hjoin, String.append_empty] at hreads
    exact hreads
  · have hopening : Marks (opening ++ newline (level + 1)).toList [k.opening] := by
      rw [String.toList_append]
      exact ho.append (marks_newline _)
    have hseparator : Marks ("," ++ newline (level + 1)).toList [.comma] := by
      rw [String.toList_append]
      exact marks_comma.append (marks_newline _)
    have hclosing : Marks (newline level ++ closing).toList [k.closing] := by
      rw [String.toList_append]
      exact (marks_newline _).append hc
    have hreads := reads_bracketed hopening hseparator hclosing h
    rw [← String.append_assoc] at hreads
    exact hreads

theorem reads_prettyAt (h : Plain levels v) (level : Nat) :
    Reads (prettyAt level v).toList (Draft.ofJson v) := by
  induction h generalizing level with
  | null _ => exact reads_null
  | bool _ b => exact reads_bool b
  | number _ hn => exact reads_number hn
  | string _ s => exact reads_quote s
  | array _ ih =>
    rw [prettyAt, prettyItems_eq_map, Draft.ofJson, Draft.ofItems_eq_map]
    exact reads_block (k := .array) marks_openArray marks_closeArray level
      fun item hitem => readsMember_item (ih item hitem _)
  | object _ ih =>
    rw [prettyAt, prettyFields_eq_map, Draft.ofJson, Draft.ofFields_eq_map]
    exact reads_block (k := .object) marks_openObject marks_closeObject level
      fun field hfield => readsMember_field marks_colon_blank (ih field hfield _)

/-! ## Texts -/

theorem parse_of_reads {s : String} {d : Draft} (h : Reads s.toList d) : Draft.parse s = .ok d := by
  obtain ⟨tokens, hspells, hbuilds⟩ := h
  have htokens : Json.tokens s.toList = .ok tokens := by
    have hrun := hspells [] [] trivial
    rw [List.append_nil, List.append_nil] at hrun
    rw [Json.tokens, hrun, Mode.run, List.reverse_reverse]
    simp [Mode.finish]
  have hbuilt := hbuilds [] [] .value
  rw [List.append_nil] at hbuilt
  rw [Draft.parse, htokens]
  show Builder.run ⟨[], .value⟩ tokens >>= Builder.result = .ok d
  rw [hbuilt]
  rfl

/-- What is written on one line is read back. -/
theorem parse_compact (h : Plain levels v) : Draft.parse v.compact = .ok (.ofJson v) :=
  parse_of_reads (reads_compact h)

/-- What is written on many lines is read back. -/
theorem parse_pretty (h : Plain levels v) : Draft.parse v.pretty = .ok (.ofJson v) :=
  parse_of_reads (reads_prettyAt h 0)

end BranchingStory.Json
