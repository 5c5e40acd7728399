import Mathlib.Data.Nat.Init
import Mathlib.Data.String.Basic
import Mathlib.Tactic.Positivity
import Mathlib.Tactic.SplitIfs

/-!
# The order of texts is that of their bytes

Dictionaries compare names by their characters, other programs by the bytes of their UTF-8
encodings. Both come to the same (`bytes_lt_bytes`): of two characters the smaller one has the
smaller encoding. The first byte decides where the encodings differ in length; otherwise it and the
bytes after it are the digits of the two code points in base 64, which decide by the first
difference (`trail_lt_trail`).
-/

namespace BranchingStory.Text

/-- The last `count` bytes of the encoding of a code point, each with six bits of it. -/
def trail (v : Nat) : Nat → List UInt8
  | 0 => []
  | count + 1 => UInt8.ofNat (v / 64 ^ count % 64 + 128) :: trail v count

/-- Greater bytes, or the same byte and a greater rest. -/
theorem ofNat_cons_lt {a b : Nat} (ha : a < 256) (hb : b < 256) {xs ys : List UInt8}
    (h : a < b ∨ a = b ∧ xs < ys) : UInt8.ofNat a :: xs < UInt8.ofNat b :: ys := by
  rw [List.cons_lt_cons_iff]
  rcases h with h | ⟨rfl, h⟩
  · exact .inl ((UInt8.ofNat_lt_iff_lt ha hb).2 h)
  · exact .inr ⟨rfl, h⟩

theorem trail_lt_trail {v w : Nat} (count : Nat) (h : v % 64 ^ count < w % 64 ^ count)
    (xs ys : List UInt8) : trail v count ++ xs < trail w count ++ ys := by
  induction count with
  | zero => simp [Nat.mod_one] at h
  | succ count ih =>
    rw [Nat.mod_pow_succ, Nat.mod_pow_succ] at h
    refine ofNat_cons_lt (by omega) (by omega) ?_
    have hv : v % 64 ^ count < 64 ^ count := Nat.mod_lt _ (by positivity)
    have hw : w % 64 ^ count < 64 ^ count := Nat.mod_lt _ (by positivity)
    rcases Nat.lt_trichotomy (v / 64 ^ count % 64) (w / 64 ^ count % 64) with hlt | heq | hgt
    · exact .inl (by omega)
    · rw [heq] at h ⊢
      exact .inr ⟨rfl, ih (by omega)⟩
    · exfalso
      have hmul : 64 ^ count * (w / 64 ^ count % 64 + 1) ≤ 64 ^ count * (v / 64 ^ count % 64) :=
        Nat.mul_le_mul_left _ hgt
      rw [Nat.mul_add] at hmul
      omega

theorem lead_lt_lead {v w base : Nat} (count : Nat) (h : v < w) (hb : base + w / 64 ^ count < 256)
    (xs ys : List UInt8) :
    UInt8.ofNat (v / 64 ^ count + base) :: trail v count ++ xs <
      UInt8.ofNat (w / 64 ^ count + base) :: trail w count ++ ys := by
  have hle : v / 64 ^ count ≤ w / 64 ^ count := Nat.div_le_div_right h.le
  refine ofNat_cons_lt (by omega) (by omega) ?_
  rcases hle.lt_or_eq with hlt | heq
  · exact .inl (by omega)
  · have hv := Nat.div_add_mod v (64 ^ count)
    have hw := Nat.div_add_mod w (64 ^ count)
    rw [heq] at hv
    exact .inr ⟨by omega, trail_lt_trail count (by omega) xs ys⟩

/-- How many bytes follow the first one in the encoding of a code point. -/
def trailing (v : Nat) : Nat :=
  if v ≤ 127 then 0 else if v ≤ 2047 then 1 else if v ≤ 65535 then 2 else 3

/-- What the first byte of an encoding says about the number of bytes that follow it. -/
def marker : Nat → Nat
  | 0 => 0
  | 1 => 192
  | 2 => 224
  | _ => 240

theorem toNat_val_lt (c : Char) : c.val.toNat < 1114112 := by
  have h := c.valid
  unfold UInt32.isValidChar Nat.isValidChar at h
  omega

theorem utf8EncodeChar_eq (c : Char) :
    String.utf8EncodeChar c =
      UInt8.ofNat (c.val.toNat / 64 ^ trailing c.val.toNat + marker (trailing c.val.toNat)) ::
        trail c.val.toNat (trailing c.val.toNat) := by
  have hc := toNat_val_lt c
  unfold String.utf8EncodeChar trailing
  generalize c.val.toNat = v at hc
  dsimp only
  split_ifs with h1 h2 h3
  · simp [trail, marker]
  · have hv : v / 64 % 32 = v / 64 := Nat.mod_eq_of_lt (by omega)
    simp [trail, marker, hv]
  · have hv : v / 4096 % 16 = v / 4096 := Nat.mod_eq_of_lt (by omega)
    simp [trail, marker, hv]
  · have hv : v / 262144 % 8 = v / 262144 := Nat.mod_eq_of_lt (by omega)
    simp [trail, marker, hv]

/-- The encoding of a smaller character is smaller, whatever follows. -/
theorem utf8EncodeChar_append_lt {c d : Char} (h : c < d) (xs ys : List UInt8) :
    String.utf8EncodeChar c ++ xs < String.utf8EncodeChar d ++ ys := by
  have hlt : c.val.toNat < d.val.toNat := h
  have hd := toNat_val_lt d
  rw [utf8EncodeChar_eq, utf8EncodeChar_eq]
  generalize c.val.toNat = v at hlt
  generalize d.val.toNat = w at hlt hd
  have hbyte : marker (trailing w) + w / 64 ^ trailing w < 256 := by
    unfold trailing
    split_ifs <;> simp only [marker] <;> omega
  by_cases heq : trailing v = trailing w
  · rw [heq]
    exact lead_lt_lead _ hlt hbyte xs ys
  · have hfirst : v / 64 ^ trailing v + marker (trailing v) <
        w / 64 ^ trailing w + marker (trailing w) := by
      unfold trailing at heq ⊢
      split_ifs at heq ⊢ <;> simp only [marker] <;> omega
    exact ofNat_cons_lt (by omega) (by omega) (.inl hfirst)

theorem flatMap_utf8EncodeChar_lt {cs ds : List Char} (h : cs < ds) :
    cs.flatMap String.utf8EncodeChar < ds.flatMap String.utf8EncodeChar := by
  induction h with
  | nil =>
    rename_i d ds
    rw [List.flatMap_nil, List.flatMap_cons, utf8EncodeChar_eq]
    exact List.nil_lt_cons _ _
  | rel hlt =>
    rw [List.flatMap_cons, List.flatMap_cons]
    exact utf8EncodeChar_append_lt hlt _ _
  | cons _ ih =>
    rw [List.flatMap_cons, List.flatMap_cons]
    exact List.append_left_lt ih

/-- The bytes of a text in UTF-8. -/
def bytes (s : String) : List UInt8 := s.toUTF8.data.toList

theorem bytes_eq (s : String) : bytes s = s.toList.flatMap String.utf8EncodeChar := by
  rw [bytes, String.toUTF8_eq_toByteArray, ← String.utf8Encode_toList, List.utf8Encode,
    List.toList_data_toByteArray]

/-- The bytes of a smaller text are smaller. -/
theorem bytes_lt_bytes {s t : String} (h : s < t) : bytes s < bytes t := by
  rw [bytes_eq, bytes_eq]
  exact flatMap_utf8EncodeChar_lt (String.lt_iff_toList_lt.1 h)

end BranchingStory.Text
