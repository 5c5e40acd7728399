/-!
# Ordered dictionaries

Everything a story names — variables, places, characters, poses, the children of a group — is kept
under a name. A dictionary is the list of its entries in increasing order of the names, so that
walking the list visits the names in that order and two dictionaries with the same entries are the
same list. Names are ordered as strings, that is, by the code points of their characters, which is
also the order of their UTF-8 encodings.

`insert` keeps the list ordered (`Ordered.insert`) and is seen through `get?`: looking up a name
after an insertion gives the new value at the inserted name and the old one everywhere else.
-/

namespace BranchingStory

/-- A finite map from names, as the list of its entries in increasing order of their names. -/
abbrev Dict (α : Type) := List (String × α)

namespace Dict

variable {α β : Type}

/-- The value stored under a name. -/
def get? : Dict α → String → Option α
  | [], _ => none
  | (name, value) :: rest, key => if name = key then some value else get? rest key

/-- Whether a name has a value. -/
def contains (d : Dict α) (key : String) : Bool :=
  (d.get? key).isSome

/-- Stores a value under a name, in place of the value that is there. -/
def insert : Dict α → String → α → Dict α
  | [], key, value => [(key, value)]
  | (name, old) :: rest, key, value =>
    if key < name then (key, value) :: (name, old) :: rest
    else if name = key then (key, value) :: rest
    else (name, old) :: insert rest key value

/-- Removes a name and its value. -/
def erase : Dict α → String → Dict α
  | [], _ => []
  | (name, value) :: rest, key =>
    if name = key then rest else (name, value) :: erase rest key

/-- The names in increasing order. -/
def keys (d : Dict α) : List String :=
  d.map Prod.fst

/-- The values in increasing order of their names. -/
def values (d : Dict α) : List α :=
  d.map Prod.snd

/-- Stores entries one after the other; of two entries with one name the later one stays. -/
def ofList (entries : List (String × α)) : Dict α :=
  entries.foldl (fun d entry => d.insert entry.1 entry.2) []

/-- Stores all entries of a second dictionary in a first one. -/
def merge (d e : Dict α) : Dict α :=
  e.foldl (fun d entry => d.insert entry.1 entry.2) d

/-- The names strictly increase along the list. -/
def Ordered (d : Dict α) : Prop :=
  d.Pairwise fun a b => a.1 < b.1

/-! ## Lookup -/

@[simp] theorem get?_nil (key : String) : get? ([] : Dict α) key = none := rfl

theorem get?_cons (name : String) (value : α) (rest : Dict α) (key : String) :
    get? ((name, value) :: rest) key = if name = key then some value else get? rest key := rfl

@[simp] theorem get?_insert_self (d : Dict α) (key : String) (value : α) :
    (d.insert key value).get? key = some value := by
  induction d with
  | nil => simp [insert, get?]
  | cons entry rest ih =>
    obtain ⟨name, old⟩ := entry
    simp only [insert]
    split
    · simp [get?]
    · split
      · simp [get?]
      · next h => simp [get?, h, ih]

theorem get?_insert_of_ne (d : Dict α) {key other : String} (value : α) (h : key ≠ other) :
    (d.insert key value).get? other = d.get? other := by
  induction d with
  | nil => simp [insert, get?, h]
  | cons entry rest ih =>
    obtain ⟨name, old⟩ := entry
    simp only [insert]
    split
    · simp [get?, h]
    · split
      · next hn => subst hn; simp [get?, h]
      · simp [get?, ih]

theorem mem_of_get? {d : Dict α} {key : String} {value : α} (h : d.get? key = some value) :
    (key, value) ∈ d := by
  induction d with
  | nil => exact absurd h (by simp)
  | cons entry rest ih =>
    obtain ⟨name, old⟩ := entry
    rw [get?_cons] at h
    split at h
    · next hn =>
      rw [hn, Option.some.inj h]
      exact List.mem_cons_self
    · exact List.mem_cons_of_mem _ (ih h)

theorem get?_eq_none_iff {d : Dict α} {key : String} : d.get? key = none ↔ key ∉ d.keys := by
  induction d with
  | nil => simp [keys]
  | cons entry rest ih =>
    obtain ⟨name, value⟩ := entry
    rw [get?_cons]
    by_cases h : name = key
    · simp [keys, h]
    · rw [if_neg h, ih]
      simp [keys, Ne.symm h]

/-! ## Order -/

theorem eq_or_mem_of_mem_insert {d : Dict α} {key : String} {value : α} {entry : String × α}
    (h : entry ∈ d.insert key value) : entry = (key, value) ∨ entry ∈ d := by
  induction d with
  | nil => simpa [insert] using h
  | cons first rest ih =>
    obtain ⟨name, old⟩ := first
    simp only [insert] at h
    split at h
    · simpa using h
    · split at h
      · rcases List.mem_cons.1 h with h | h
        · exact .inl h
        · exact .inr (List.mem_cons_of_mem _ h)
      · rcases List.mem_cons.1 h with h | h
        · exact .inr (h ▸ List.mem_cons_self)
        · exact (ih h).imp id (List.mem_cons_of_mem _)

theorem ordered_iff_pairwise_keys {d : Dict α} : Ordered d ↔ d.keys.Pairwise (· < ·) :=
  List.pairwise_map.symm

theorem ordered_nil : Ordered ([] : Dict α) := List.Pairwise.nil

theorem Ordered.insert {d : Dict α} (h : Ordered d) (key : String) (value : α) :
    Ordered (d.insert key value) := by
  induction d with
  | nil => exact List.pairwise_singleton _ _
  | cons first rest ih =>
    obtain ⟨name, old⟩ := first
    obtain ⟨below, tail⟩ := List.pairwise_cons.1 h
    simp only [Dict.insert]
    split
    · next hlt =>
      refine List.pairwise_cons.2 ⟨fun entry mem => ?_, h⟩
      rcases List.mem_cons.1 mem with rfl | mem
      · exact hlt
      · exact String.lt_trans hlt (below entry mem)
    · split
      · next heq =>
        subst heq
        exact List.pairwise_cons.2 ⟨below, tail⟩
      · next hge hne =>
        refine List.pairwise_cons.2 ⟨fun entry mem => ?_, ih tail⟩
        rcases eq_or_mem_of_mem_insert mem with rfl | mem
        · exact Classical.byContradiction fun hn =>
            hne (String.le_antisymm (String.not_lt.1 hge) (String.not_lt.1 hn))
        · exact below entry mem

theorem Ordered.get?_of_mem {d : Dict α} (h : Ordered d) {key : String} {value : α}
    (mem : (key, value) ∈ d) : d.get? key = some value := by
  induction d with
  | nil => exact absurd mem List.not_mem_nil
  | cons first rest ih =>
    obtain ⟨name, old⟩ := first
    obtain ⟨below, tail⟩ := List.pairwise_cons.1 h
    rcases List.mem_cons.1 mem with heq | mem
    · obtain ⟨rfl, rfl⟩ := Prod.mk.inj heq
      simp [get?_cons]
    · have hne : name ≠ key := String.ne_of_lt (below _ mem)
      rw [get?_cons, if_neg hne, ih tail mem]

end Dict

end BranchingStory
