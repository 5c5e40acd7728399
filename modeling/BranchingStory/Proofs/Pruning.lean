import BranchingStory.Proofs.Addresses

/-!
# Trees with fewer leaves

A tree is pruned by taking leaves away and keeping all groups. Following names in the pruned tree
comes to what the same names lead to in the whole tree, pruned (`follow_keepBelow?`). So the
addresses that are kept resolve as before, and no others do (`resolve_keepLeaves_eq_ok_iff`).
-/

namespace BranchingStory.NodeTree

mutual

/-- A tree below some names without the leaves that are not kept, if it is not such a leaf. -/
def keepBelow? (keep : String → Bool) (above : List String) : NodeTree → Option NodeTree
  | leaf steps => if keep (joinPath above) then some (leaf steps) else none
  | group children => some (group (keepAmong keep above children))

/-- The children of a group without the leaves that are not kept. -/
def keepAmong (keep : String → Bool) (above : List String) :
    List (String × NodeTree) → List (String × NodeTree)
  | [] => []
  | (name, child) :: rest =>
    match keepBelow? keep (above ++ [name]) child with
    | some kept => (name, kept) :: keepAmong keep above rest
    | none => keepAmong keep above rest

end

/-- A tree without the leaves whose addresses are not kept. Groups stay, even if they are left
without leaves. -/
def keepLeaves (keep : String → Bool) : NodeTree → NodeTree
  | leaf steps => leaf steps
  | group children => group (keepAmong keep [] children)

variable {keep : String → Bool} {tree : NodeTree}

/-! ## Addresses -/

theorem get?_keepAmong (above : List String) {children : List (String × NodeTree)}
    (ho : Dict.Ordered children) (name : String) :
    Dict.get? (keepAmong keep above children) name =
      (Dict.get? children name).bind (keepBelow? keep (above ++ [name])) := by
  induction children with
  | nil => rfl
  | cons entry rest ih =>
    obtain ⟨first, child⟩ := entry
    obtain ⟨hfirst, hrest⟩ := List.pairwise_cons.1 ho
    have ih := ih hrest
    rw [keepAmong, Dict.get?_cons]
    by_cases hname : first = name
    · subst hname
      rw [if_pos rfl, Option.bind_some]
      cases hkeep : keepBelow? keep (above ++ [first]) child with
      | some kept =>
        dsimp only
        rw [Dict.get?_cons, if_pos rfl]
      | none =>
        -- The name is gone, and no other child has it.
        dsimp only
        have hnone : Dict.get? rest first = none := by
          cases hget : Dict.get? rest first with
          | none => rfl
          | some other =>
            have hlt := hfirst _ (Dict.mem_of_get? hget)
            exact absurd hlt (String.lt_irrefl first)
        rw [ih, hnone, Option.bind_none]
    · rw [if_neg hname]
      cases hkeep : keepBelow? keep (above ++ [first]) child with
      | some kept =>
        dsimp only
        rw [Dict.get?_cons, if_neg hname]
        exact ih
      | none => exact ih

/-- Pruning a tree and following names leads to what following the names and pruning leads to. -/
theorem follow_keepBelow? (ho : tree.Ordered) (above names : List String) :
    (keepBelow? keep above tree).bind (follow · names) =
      (tree.follow names).bind (keepBelow? keep (above ++ names)) := by
  induction names generalizing tree above with
  | nil => simp [follow]
  | cons name rest ih =>
    cases ho with
    | leaf steps =>
      rw [keepBelow?]
      split
      · rfl
      · rfl
    | @group children here below =>
      rw [keepBelow?, Option.bind_some, follow, follow, get?_keepAmong above here]
      cases hget : Dict.get? children name with
      | none => rfl
      | some child =>
        have hbelow := ih (below _ (Dict.mem_of_get? hget)) (above ++ [name])
        rw [List.append_assoc, List.singleton_append] at hbelow
        rw [Option.bind_some]
        dsimp only
        rw [← hbelow]
        cases keepBelow? keep (above ++ [name]) child with
        | none => rfl
        | some kept => rfl

theorem follow_keepLeaves (ho : tree.Ordered) (path : String) :
    (tree.keepLeaves keep).follow (segments path) =
      (tree.follow (segments path)).bind (keepBelow? keep (segments path)) := by
  cases tree with
  | leaf steps =>
    obtain ⟨name, rest, hs⟩ := List.exists_cons_of_ne_nil (segments_ne_nil path)
    rw [hs]
    rfl
  | group children => exact follow_keepBelow? ho [] (segments path)

/-- A kept address resolves as it does in the whole tree, and no other address does. -/
theorem resolve_keepLeaves_eq_ok_iff (ho : tree.Ordered) {path : String} {steps : List Step} :
    (tree.keepLeaves keep).resolve path = .ok steps ↔
      tree.resolve path = .ok steps ∧ keep path = true := by
  rw [resolve_eq_ok_iff, resolve_eq_ok_iff, follow_keepLeaves ho]
  constructor
  · intro h
    obtain ⟨found, hf, hkept⟩ := Option.bind_eq_some_iff.1 h
    cases found with
    | leaf here =>
      rw [keepBelow?, joinPath_segments] at hkept
      split at hkept
      · next hk =>
        obtain rfl := NodeTree.leaf.inj (Option.some.inj hkept)
        exact ⟨hf, hk⟩
      · exact absurd hkept (by simp)
    | group children => exact absurd hkept (by simp [keepBelow?])
  · rintro ⟨hf, hk⟩
    rw [hf, Option.bind_some, keepBelow?, joinPath_segments, if_pos hk]

end BranchingStory.NodeTree
