import BranchingStory.Story.Location
import Mathlib.Data.List.Basic

/-!
# Reading locations

Nothing keeps the name of a node from looking like a part of a location, so locations are read from
their ends. A number between brackets at the end of a text can be read off it
(`append_bracket_inj`), and so can a name without brackets after a dot. That is enough to tell the
fields and options of all steps apart (`eq_of_text_eq`).
-/

namespace BranchingStory.Location

/-- A text is split in one way at the last occurrence of a character. -/
theorem append_cons_inj_of_last {c : Char} {as bs cs ds : List Char} (hb : c ∉ bs) (hd : c ∉ ds)
    (h : as ++ c :: bs = cs ++ c :: ds) : as = cs ∧ bs = ds := by
  rcases List.append_eq_append_iff.1 h with ⟨es, rfl, he⟩ | ⟨es, rfl, he⟩
  · cases es with
    | nil => exact ⟨(List.append_nil as).symm, (List.cons.inj he).2⟩
    | cons e es =>
      obtain ⟨-, rfl⟩ := List.cons.inj he
      exact absurd (List.mem_append_right es List.mem_cons_self) hb
  · cases es with
    | nil => exact ⟨List.append_nil cs, (List.cons.inj he).2.symm⟩
    | cons e es =>
      obtain ⟨-, rfl⟩ := List.cons.inj he
      exact absurd (List.mem_append_right es List.mem_cons_self) hd

theorem bracket_notMem_toString (n : Nat) : '[' ∉ (toString n).toList := by
  intro h
  rw [Nat.toString_eq_repr, Nat.toList_repr] at h
  have hdigit := Nat.isDigit_of_mem_toDigits (by decide) (by decide) h
  exact absurd hdigit (by decide)

theorem eq_of_toList_toString_eq {m n : Nat} (h : (toString m).toList = (toString n).toList) :
    m = n := by
  rw [Nat.toString_eq_repr, Nat.toString_eq_repr, Nat.toList_repr, Nat.toList_repr] at h
  have hread := congrArg (fun digits => Nat.ofDigitChars 10 digits 0) h
  simpa using hread

theorem toList_bracket (n : Nat) :
    (bracket n).toList = '[' :: ((toString n).toList ++ [']']) := by
  simp [bracket, String.toList_append]

/-- The number at the end of a text can be read off it. -/
theorem append_bracket_inj {p q : String} {m n : Nat} (h : p ++ bracket m = q ++ bracket n) :
    p = q ∧ m = n := by
  have hnot : ∀ k : Nat, '[' ∉ (toString k).toList ++ [']'] := by
    intro k hk
    rcases List.mem_append.1 hk with hk | hk
    · exact bracket_notMem_toString k hk
    · exact absurd hk (by decide)
  have hlist := congrArg String.toList h
  rw [String.toList_append, String.toList_append, toList_bracket, toList_bracket] at hlist
  obtain ⟨hpq, hdigits⟩ := append_cons_inj_of_last (hnot m) (hnot n) hlist
  have hmn : (toString m).toList = (toString n).toList := List.append_cancel_right hdigits
  exact ⟨String.toList_inj.1 hpq, eq_of_toList_toString_eq hmn⟩

theorem toList_stepText (path : String) (index : Nat) :
    (stepText path index).toList =
      path.toList ++ '[' :: ((toString index).toList) ++ [']'] := by
  rw [stepText, String.toList_append, toList_bracket]
  simp

/-- The name of a field at the end of a text can be read off it. -/
theorem field_text_inj {p q a b : String} {m n : Nat} (ha : ']' ∉ a.toList) (hb : ']' ∉ b.toList)
    (h : (field p m a).text = (field q n b).text) : field p m a = field q n b := by
  have hnot : ∀ {s : String}, ']' ∉ s.toList → ']' ∉ '.' :: s.toList := by
    intro s hs hmem
    rcases List.mem_cons.1 hmem with hmem | hmem
    · exact absurd hmem (by decide)
    · exact hs hmem
  have htext : ∀ (r : String) (k : Nat) (s : String), (field r k s).text.toList =
      (r.toList ++ '[' :: (toString k).toList) ++ ']' :: '.' :: s.toList := by
    intro r k s
    rw [text, String.toList_append, String.toList_append, toList_stepText]
    simp
  have hlist := congrArg String.toList h
  rw [htext, htext] at hlist
  obtain ⟨hstep, hname⟩ := append_cons_inj_of_last (hnot ha) (hnot hb) hlist
  obtain ⟨hpq, hmn⟩ := append_cons_inj_of_last (bracket_notMem_toString m)
    (bracket_notMem_toString n) hstep
  rw [String.toList_inj.1 hpq, eq_of_toList_toString_eq hmn,
    String.toList_inj.1 (List.cons.inj hname).2]

theorem option_text_inj {p q : String} {m n k l : Nat}
    (h : (option p m k).text = (option q n l).text) : option p m k = option q n l := by
  obtain ⟨hoptions, rfl⟩ := append_bracket_inj h
  have hlist := congrArg String.toList hoptions
  rw [String.toList_append, String.toList_append] at hlist
  obtain ⟨rfl, rfl⟩ :=
    append_bracket_inj (String.toList_inj.1 (List.append_cancel_right hlist))
  rfl

theorem getLast?_option_text (p : String) (m k : Nat) :
    (option p m k).text.toList.getLast? = some ']' := by
  rw [text, String.toList_append, toList_bracket, ← List.cons_append, ← List.append_assoc,
    List.getLast?_concat]

theorem field_text_ne_option_text {p q a : String} {m n k : Nat} (ha : ']' ∉ a.toList) :
    (field p m a).text ≠ (option q n k).text := by
  intro h
  have hlast := getLast?_option_text q n k
  rw [← h, text, String.toList_append, String.toList_append, List.append_assoc,
    List.getLast?_append_of_ne_nil _ (by simp)] at hlast
  rcases List.mem_append.1 (List.mem_of_getLast? hlast) with hmem | hmem
  · exact absurd hmem (by decide)
  · exact ha hmem

/-- A field of a step whose name has no bracket, or an option of a step. -/
inductive IsPart : Location → Prop
  | field (path : String) (index : Nat) {name : String} (h : ']' ∉ name.toList) :
    IsPart (field path index name)
  | option (path : String) (index number : Nat) : IsPart (option path index number)

/-- Fields and options of steps are told apart by how they are written. -/
theorem eq_of_text_eq {first second : Location} (hf : first.IsPart) (hs : second.IsPart)
    (h : first.text = second.text) : first = second := by
  cases hf with
  | field p m ha =>
    cases hs with
    | field q n hb => exact field_text_inj ha hb h
    | option q n l => exact absurd h (field_text_ne_option_text ha)
  | option p m k =>
    cases hs with
    | field q n hb => exact absurd h.symm (field_text_ne_option_text hb)
    | option q n l => exact option_text_inj h

end BranchingStory.Location
