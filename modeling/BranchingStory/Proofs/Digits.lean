import BranchingStory.Console.Session
import BranchingStory.Json.Token
import BranchingStory.Proofs.ByteOrder

/-!
# Numbers in decimal

A number that is written in decimal is read back wherever numbers are read: as a numeral of a JSON
text (`endNumeral_toString`) and as the number of an option that a player enters
(`optionNumber?_toString`). Both count only if the number fits into 64 bits.
-/

namespace BranchingStory

open Json

/-! ## Digits -/

theorem isDigit_of_mem_toString {n : Nat} {c : Char} (h : c ∈ (toString n).toList) :
    c.isDigit = true := by
  rw [Nat.toString_eq_repr, Nat.toList_repr] at h
  exact Nat.isDigit_of_mem_toDigits (by decide) (by decide) h

theorem toList_toString_ne_nil (n : Nat) : (toString n).toList ≠ [] := by
  rw [Nat.toString_eq_repr, Nat.toList_repr]
  exact Nat.toDigits_ne_nil

/-- The digits of a number stand for it. -/
theorem foldl_toString (n : Nat) :
    (toString n).toList.foldl (fun n c => 10 * n + (c.toNat - '0'.toNat)) 0 = n := by
  rw [Nat.toString_eq_repr, Nat.toList_repr, ← Nat.ofDigitChars_eq_foldl]
  exact Nat.ofDigitChars_ten_toDigits

/-- Only the number zero starts with the digit zero. -/
theorem toString_eq_of_zero {n : Nat} {cs : List Char} (h : (toString n).toList = '0' :: cs) :
    cs = [] := by
  rw [Nat.toString_eq_repr, Nat.toList_repr] at h
  induction n using Nat.strongRecOn generalizing cs with
  | _ n ih =>
    rw [Nat.toDigits_eq_if (by decide)] at h
    split at h
    · exact (List.cons.inj h).2.symm
    · next hle =>
      -- Without its last digit the number would start with zero as well, and so be zero.
      cases hd : Nat.toDigits 10 (n / 10) with
      | nil => exact absurd hd Nat.toDigits_ne_nil
      | cons d ds =>
        rw [hd] at h
        obtain ⟨rfl, -⟩ := List.cons.inj h
        have hnil : ds = [] := ih (n / 10) (by omega) hd
        have hread := congrArg (fun digits => Nat.ofDigitChars 10 digits 0) hd
        rw [hnil] at hread
        simp only [Nat.ofDigitChars_ten_toDigits] at hread
        have hzero : n / 10 = 0 := hread
        omega

/-! ## Options -/

theorem not_sign_of_isDigit {c : Char} (h : c.isDigit = true) : c ≠ '+' ∧ c ≠ '-' := by
  constructor <;> rintro rfl <;> exact absurd h (by decide)

/-- The number of an option can be entered as it is written, if it fits into 64 bits. -/
theorem Console.optionNumber?_toString {n : Nat} (h : n < Word.bound) :
    optionNumber? (toString n) = some n := by
  have hdigits := foldl_toString n
  have hall : (toString n).toList.all Char.isDigit = true :=
    List.all_eq_true.2 fun c => isDigit_of_mem_toString
  rw [optionNumber?]
  cases hcs : (toString n).toList with
  | nil => exact absurd hcs (toList_toString_ne_nil n)
  | cons c cs =>
    rw [hcs] at hdigits hall
    have hc : c ≠ '+' := (not_sign_of_isDigit (List.all_eq_true.1 hall c List.mem_cons_self)).1
    split
    · next heq => exact absurd (List.cons.inj heq).1 hc
    · rw [hdigits, hall, if_pos h]
      rfl

/-! ## Numerals -/

namespace Json

theorem Numeral.spanDigits_of_all {cs : List Char} (h : ∀ c ∈ cs, c.isDigit = true) :
    spanDigits cs = (cs.map digit, []) := by
  rw [spanDigits]
  induction cs with
  | nil => rfl
  | cons c cs ih =>
    obtain ⟨hc, hcs⟩ := List.forall_mem_cons.1 h
    obtain ⟨htake, hdrop⟩ := Prod.mk.inj (ih hcs)
    rw [List.takeWhile_cons_of_pos hc, List.dropWhile_cons_of_pos hc, List.map_cons, htake, hdrop]
    rfl

theorem Numeral.eq_zero_of_digit {c : Char} (hc : c.isDigit = true) (h : digit c = 0) :
    c = '0' := by
  obtain ⟨hge, -⟩ := Char.isDigit_iff_toNat.1 hc
  have hnat : c.toNat = '0'.toNat := Nat.le_antisymm (Nat.sub_eq_zero_iff_le.1 h) hge
  exact Char.toNat_inj.1 hnat

/-- A number in decimal is a numeral without sign, point and exponent. -/
theorem Numeral.ofChars?_toString (n : Nat) :
    ofChars? (toString n).toList = some ⟨false, (toString n).toList.map digit, none, none⟩ := by
  have hdigits : ∀ c ∈ (toString n).toList, c.isDigit = true := fun _ => isDigit_of_mem_toString
  have hspan := spanDigits_of_all hdigits
  have hzero : ∀ {cs}, (toString n).toList = '0' :: cs → cs = [] := toString_eq_of_zero
  cases hcs : (toString n).toList with
  | nil => exact absurd hcs (toList_toString_ne_nil n)
  | cons c cs =>
    rw [hcs] at hdigits hspan hzero
    have hc := hdigits c List.mem_cons_self
    rw [ofChars?]
    · rw [hspan, List.map_cons]
      split
      · next heq => exact absurd (Prod.mk.inj heq).1 (by simp)
      · next heq =>
        -- A zero in front of other digits.
        obtain ⟨hd, hrest⟩ := List.cons.inj (Prod.mk.inj heq).1
        obtain rfl := eq_zero_of_digit hc hd
        rw [hzero rfl] at hrest
        exact absurd hrest (by simp)
      · next heq => exact absurd (Prod.mk.inj heq).2 (by simp)
      · next heq =>
        obtain ⟨rfl, rfl⟩ := Prod.mk.inj heq
        rfl
    · intro rest heq
      exact absurd (List.cons.inj heq).1 (not_sign_of_isDigit hc).2

theorem Numeral.le_foldl (ds : List Nat) (n : Nat) : n ≤ ds.foldl (fun n d => 10 * n + d) n := by
  induction ds generalizing n with
  | nil => exact Nat.le_refl n
  | cons d ds ih => exact Nat.le_trans (by omega) (ih (10 * n + d))

/-- Digits whose number fits into 64 bits are all collected. -/
theorem Numeral.absorb_eq {ds : List Nat} {n : Nat}
    (h : ds.foldl (fun n d => 10 * n + d) n < Word.bound) :
    absorb n ds = (ds.foldl (fun n d => 10 * n + d) n, []) := by
  induction ds generalizing n with
  | nil => rfl
  | cons d ds ih =>
    rw [List.foldl_cons] at h ⊢
    rw [absorb, if_pos (Nat.lt_of_le_of_lt (le_foldl ds _) h), ih h]

/-- A number in decimal is the token of that number, if it fits into 64 bits. -/
theorem endNumeral_toString {n : Nat} (h : n < Word.bound) :
    Mode.endNumeral (toString n).toList.reverse = .ok (.number (some (.int n))) := by
  have hfold : ((toString n).toList.map Numeral.digit).foldl (fun n d => 10 * n + d) 0 = n := by
    rw [List.foldl_map]
    exact foldl_toString n
  have habsorb := Numeral.absorb_eq (n := 0) (hfold.symm ▸ h)
  rw [hfold] at habsorb
  rw [Mode.endNumeral, List.reverse_reverse, Numeral.ofChars?_toString]
  dsimp only
  rw [Numeral.number?, habsorb]
  rfl

end Json

end BranchingStory
