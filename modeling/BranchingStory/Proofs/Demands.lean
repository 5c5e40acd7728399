import BranchingStory.Document.Basic
import BranchingStory.Proofs.Success
import Mathlib.Data.List.Forall2

/-!
# What steps of documents have to be like

A reader of documents demands something of the value that it reads, at the place where the value
stands. `Reads` says that a reader succeeds exactly if a list of demands is met, and fails at the
first of them that is not; such statements are put together in the way in which the readers are.
-/

namespace BranchingStory

/-- A location is another one, or a place in it. -/
inductive Location.Extends : Location → Location → Prop
  | refl (location : Location) : Extends location location
  | field (path : String) (index : Nat) (name : String) :
    Extends (.field path index name) (.step path index)
  | option (path : String) (index number : Nat) :
    Extends (.option path index number) (.step path index)
  | part (path : String) (index number piece : Nat) :
    Extends (.part path index number piece) (.step path index)
  | piece (path : String) (index number piece : Nat) :
    Extends (.part path index number piece) (.option path index number)

namespace Location.Extends

variable {first second third : Location}

theorem trans (h : first.Extends second) (h' : second.Extends third) : first.Extends third := by
  cases h with
  | refl => exact h'
  | piece path index number piece =>
    cases h' with
    | refl => exact .piece path index number piece
    | option => exact .part path index number piece
  | field path index name =>
    cases h'
    exact .field path index name
  | option path index number =>
    cases h'
    exact .option path index number
  | part path index number piece =>
    cases h'
    exact .part path index number piece

/-- A place in another one is written as that one and more. -/
theorem text (h : first.Extends second) : ∃ rest, first.text = second.text ++ rest := by
  cases h with
  | refl => exact ⟨"", (String.append_empty).symm⟩
  | field path index name => exact ⟨"." ++ name, String.append_assoc⟩
  | option path index number => exact ⟨".options" ++ bracket number, String.append_assoc⟩
  | part path index number piece =>
    refine ⟨".options" ++ bracket number ++ bracket piece, ?_⟩
    simp only [Location.text, String.append_assoc]
  | piece path index number piece => exact ⟨bracket piece, rfl⟩

end Location.Extends

/-- Nothing in a value is `null`. -/
inductive Json.NullFree : Json → Prop
  | bool (b : Bool) : NullFree (.bool b)
  | number (n : Json.Number) : NullFree (.number n)
  | string (s : String) : NullFree (.string s)
  | array {items : List Json} (h : ∀ item ∈ items, NullFree item) : NullFree (.array items)
  | object {fields : List (String × Json)} (h : ∀ field ∈ fields, NullFree field.2) :
    NullFree (.object fields)

/-- The text that a value is. -/
def Json.string? : Json → Option String
  | .string s => some s
  | _ => none

namespace Document

/-! ## Demands -/

/-- Something that has to hold of a document, and the place that it is about. -/
structure Demand where
  location : Location
  holds : Prop

/-- An error tells about the first demand in a list that is not met: about its place, or a place in
that. -/
inductive FirstUnmet (e : LoadError) : List Demand → Prop
  | here {d : Demand} {rest : List Demand} {place : Location} (hn : ¬ d.holds)
    (hp : e.location? = some place) (he : place.Extends d.location) : FirstUnmet e (d :: rest)
  | later {d : Demand} {rest : List Demand} (hd : d.holds) (h : FirstUnmet e rest) :
    FirstUnmet e (d :: rest)

/-- A reader meets demands: what it returns is a result of which the demands and a property hold,
and if it fails then because of the first demand that is not met. -/
structure Reads {α : Type} (x : Except LoadError α) (demands : List Demand) (Result : α → Prop) :
    Prop where
  ok : ∀ a, x = .ok a → (∀ d ∈ demands, d.holds) ∧ Result a
  error : ∀ e, x = .error e → FirstUnmet e demands

/-- A list has as many members as another one, and each of them is built from the member of the
other that has the same number. -/
structure Numbered {α β : Type} (Built : Nat → α → β → Prop) (xs : List α) (ys : List β) :
    Prop where
  length_eq : ys.length = xs.length
  built : ∀ i x y, xs[i]? = some x → ys[i]? = some y → Built i x y

theorem Numbered.exists_built {α β : Type} {Built : Nat → α → β → Prop} {xs : List α} {ys : List β}
    (h : Numbered Built xs ys) {i : Nat} {y : β} (hy : ys[i]? = some y) :
    ∃ x, xs[i]? = some x ∧ Built i x y := by
  obtain ⟨hi, -⟩ := List.getElem?_eq_some_iff.1 hy
  rw [h.length_eq] at hi
  exact ⟨xs[i], List.getElem?_eq_getElem hi, h.built i _ y (List.getElem?_eq_getElem hi) hy⟩

theorem Numbered.exists_of_built {α β : Type} {Built : Nat → α → β → Prop} {xs : List α}
    {ys : List β} (h : Numbered Built xs ys) {i : Nat} {x : α} (hx : xs[i]? = some x) :
    ∃ y, ys[i]? = some y ∧ Built i x y := by
  obtain ⟨hi, -⟩ := List.getElem?_eq_some_iff.1 hx
  rw [← h.length_eq] at hi
  exact ⟨ys[i], List.getElem?_eq_getElem hi, h.built i x _ hx (List.getElem?_eq_getElem hi)⟩

namespace FirstUnmet

variable {e : LoadError} {first second : List Demand}

theorem append_right (h : FirstUnmet e first) (second : List Demand) :
    FirstUnmet e (first ++ second) := by
  induction h with
  | here hn hp he => exact .here hn hp he
  | later hd _ ih => exact .later hd ih

theorem append_left (hf : ∀ d ∈ first, d.holds) (h : FirstUnmet e second) :
    FirstUnmet e (first ++ second) := by
  induction first with
  | nil => exact h
  | cons d rest ih =>
    obtain ⟨hd, hrest⟩ := List.forall_mem_cons.1 hf
    exact .later hd (ih hrest)

theorem of_append (h : FirstUnmet e (first ++ second)) :
    FirstUnmet e first ∨ (∀ d ∈ first, d.holds) ∧ FirstUnmet e second := by
  induction first with
  | nil => exact .inr ⟨List.forall_mem_nil _, h⟩
  | cons d rest ih =>
    cases h with
    | here hn hp he => exact .inl (.here hn hp he)
    | later hd h =>
      rcases ih h with h | ⟨hrest, h⟩
      · exact .inl (.later hd h)
      · exact .inr ⟨List.forall_mem_cons.2 ⟨hd, hrest⟩, h⟩

theorem exists_unmet (h : FirstUnmet e first) :
    ∃ d ∈ first, ¬ d.holds ∧ ∃ place, e.location? = some place ∧ place.Extends d.location := by
  induction h with
  | here hn hp he => exact ⟨_, List.mem_cons_self, hn, _, hp, he⟩
  | later _ _ ih =>
    obtain ⟨d, hd, hrest⟩ := ih
    exact ⟨d, List.mem_cons_of_mem _ hd, hrest⟩

end FirstUnmet

namespace Reads

variable {α β : Type} {x : Except LoadError α} {f : α → Except LoadError β} {a : α}
  {first second : List Demand} {Result : α → Prop} {Final : β → Prop}

theorem pure (h : ∀ d ∈ first, d.holds) (hr : Result a) :
    Reads (Pure.pure a : Except LoadError α) first Result where
  ok b hb := by
    obtain rfl := pure_eq_ok.1 hb
    exact ⟨h, hr⟩
  error e he := absurd he (by simp [Pure.pure, Except.pure])

theorem bind (hx : Reads x first Result) (hf : ∀ a, Result a → Reads (f a) second Final) :
    Reads (x >>= f) (first ++ second) Final where
  ok b hb := by
    obtain ⟨a, ha, hb⟩ := bind_eq_ok.1 hb
    obtain ⟨hfirst, hresult⟩ := hx.ok a ha
    obtain ⟨hsecond, hfinal⟩ := (hf a hresult).ok b hb
    exact ⟨List.forall_mem_append.2 ⟨hfirst, hsecond⟩, hfinal⟩
  error e he := by
    rcases bind_eq_error.1 he with hx' | ⟨a, ha, he⟩
    · exact (hx.error e hx').append_right second
    · obtain ⟨hfirst, hresult⟩ := hx.ok a ha
      exact .append_left hfirst ((hf a hresult).error e he)

/-- What is made of what was read makes no demands. -/
theorem map {g : α → β} (hx : Reads x first Result) (hg : ∀ a, Result a → Final (g a)) :
    Reads (x >>= fun a => Pure.pure (g a)) first Final := by
  have h : Reads (x >>= fun a => Pure.pure (g a)) (first ++ []) Final :=
    hx.bind fun a ha => pure (List.forall_mem_nil _) (hg a ha)
  rwa [List.append_nil] at h

/-- A demand that is met can be made first. -/
theorem after {d : Demand} (hx : Reads x first Result) (hd : d.holds) :
    Reads x (d :: first) Result where
  ok a ha := (hx.ok a ha).imp (fun h => List.forall_mem_cons.2 ⟨hd, h⟩) id
  error e he := .later hd (hx.error e he)

theorem mono {Other : α → Prop} (hx : Reads x first Result) (h : ∀ a, Result a → Other a) :
    Reads x first Other where
  ok a ha := (hx.ok a ha).imp id (h a)
  error := hx.error

/-- Demands of a reader are one, if its place is that of all of them. -/
theorem unite (hx : Reads x first Result) {d : Demand}
    (hl : ∀ other ∈ first, other.location.Extends d.location)
    (hh : (∀ other ∈ first, other.holds) ↔ d.holds) : Reads x [d] Result where
  ok a ha := by
    obtain ⟨hall, hresult⟩ := hx.ok a ha
    exact ⟨List.forall_mem_singleton.2 (hh.1 hall), hresult⟩
  error e he := by
    obtain ⟨other, hin, hn, place, hp, hextends⟩ := (hx.error e he).exists_unmet
    exact .here (fun hd => hn (hh.2 hd other hin)) hp (hextends.trans (hl other hin))

/-- A reader refuses what does not meet a demand. -/
theorem refuse {e : LoadError} {d : Demand} {rest : List Demand} {place : Location}
    (hn : ¬ d.holds) (hp : e.location? = some place) (he : place.Extends d.location) :
    Reads (.error e : Except LoadError α) (d :: rest) Result where
  ok a ha := absurd ha (by simp)
  error e' he' := by
    obtain rfl := Except.error.inj he'
    exact .here hn hp he

theorem mapM {γ : Type} {read : γ → Except LoadError β} {demands : γ → List Demand}
    {Built : γ → β → Prop} {xs : List γ}
    (h : ∀ x ∈ xs, Reads (read x) (demands x) (Built x)) :
    Reads (xs.mapM read) (xs.flatMap demands) (List.Forall₂ Built xs) := by
  induction xs with
  | nil => exact pure (by simp) .nil
  | cons x rest ih =>
    obtain ⟨hx, hrest⟩ := List.forall_mem_cons.1 h
    rw [List.mapM_cons, List.flatMap_cons]
    exact hx.bind fun b hb => (ih hrest).map fun bs hbs => .cons hb hbs

/-- The same where each member is read with its number. -/
theorem mapM_zipIdx {γ : Type} (read : γ → Nat → Except LoadError β)
    (demands : γ → Nat → List Demand) {Built : Nat → γ → β → Prop}
    (h : ∀ x index, Reads (read x index) (demands x index) (Built index x)) (xs : List γ) :
    Reads (xs.zipIdx.mapM fun p => read p.1 p.2) (xs.zipIdx.flatMap fun p => demands p.1 p.2)
      (Numbered Built xs) := by
  have hall : Reads (xs.zipIdx.mapM fun p => read p.1 p.2)
      (xs.zipIdx.flatMap fun p => demands p.1 p.2)
      (List.Forall₂ (fun p y => Built p.2 p.1 y) xs.zipIdx) :=
    mapM fun p _ => h p.1 p.2
  refine ⟨fun ys hys => ?_, hall.error⟩
  obtain ⟨hdemands, hbuilt⟩ := hall.ok ys hys
  refine ⟨hdemands, ?_, ?_⟩
  · rw [← hbuilt.length_eq, List.length_zipIdx]
  · intro i x y hx hy
    obtain ⟨hi, rfl⟩ := List.getElem?_eq_some_iff.1 hx
    obtain ⟨hi', rfl⟩ := List.getElem?_eq_some_iff.1 hy
    have hget := hbuilt.get (i := i) (by rwa [List.length_zipIdx]) hi'
    simpa using hget

/-- A reader succeeds exactly if its demands are met. -/
theorem exists_ok_iff (hx : Reads x first Result) : (∃ a, x = .ok a) ↔ ∀ d ∈ first, d.holds := by
  constructor
  · rintro ⟨a, ha⟩
    exact (hx.ok a ha).1
  · intro hall
    cases hcase : x with
    | ok a => exact ⟨a, rfl⟩
    | error e =>
      obtain ⟨d, hin, hn, -⟩ := (hx.error e hcase).exists_unmet
      exact absurd (hall d hin) hn

end Reads

/-- What is demanded of the variables of a document: their names are identifiers. -/
def VariablesNamed (vars : Option Variables) : Prop :=
  ∀ declared, vars = some declared → ∀ name ∈ declared.keys, isVariableName name = true

theorem reads_checkVariables (vars : Option Variables) :
    Reads (checkVariables vars) [⟨.story "variables", VariablesNamed vars⟩] (fun _ => True) := by
  unfold checkVariables
  split
  · exact .pure (List.forall_mem_singleton.2 (by rintro _ ⟨⟩)) trivial
  · next declared =>
    split
    · next name hfind =>
      refine .refuse (fun h => ?_) rfl (.refl _)
      have hbad := List.find?_some hfind
      rw [h declared rfl name (List.mem_of_find?_eq_some hfind)] at hbad
      exact absurd hbad (by simp)
    · next hfind =>
      refine .pure (List.forall_mem_singleton.2 ?_) trivial
      rintro _ ⟨⟩ name hname
      simpa using List.find?_eq_none.1 hfind name hname

end Document

end BranchingStory
