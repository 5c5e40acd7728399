import BranchingStory.Proofs.Addresses

/-!
# What `resolve` answers

`resolve` follows the names in an address and keeps those that it has passed. It finds a leaf, or a
group, or it stops after some of the names because the next one does not lead on (`StopsAfter`).
These names are the longest beginning of the address that can be followed
(`StopsAfter.isPrefix_of_follow`), so there are no others where it could have stopped, and `descend`
stops there (`descend_eq_error_iff`). Nothing is asked of the names in a tree, which may be empty or
hold dots, nor of the address, whose dots may stand anywhere.
-/

namespace BranchingStory.NodeTree

variable {tree : NodeTree} {path name : String} {names rest passed others : List String}

/-! ## Where a way ends -/

/-- A name does not lead on from a tree, which is a leaf or has no child of that name. -/
def IsMissing : NodeTree → String → Prop
  | leaf _, _ => True
  | group children, name => name ∉ Dict.keys children

/-- Names can be followed up to some place, from which the next one does not lead on. -/
def StopsAfter (tree : NodeTree) (names passed : List String) : Prop :=
  ∃ name rest found, names = passed ++ name :: rest ∧ tree.follow passed = some found ∧
    found.IsMissing name

theorem follow_append (tree : NodeTree) (names rest : List String) :
    tree.follow (names ++ rest) = (tree.follow names).bind (follow · rest) := by
  induction names generalizing tree with
  | nil => simp [follow]
  | cons name names ih =>
    cases tree with
    | leaf steps => simp [follow]
    | group children =>
      rw [List.cons_append, follow, follow]
      cases Dict.get? children name with
      | none => rfl
      | some child => exact ih child

theorem IsMissing.follow_eq_none (h : tree.IsMissing name) : tree.follow (name :: rest) = none := by
  cases tree with
  | leaf steps => rfl
  | group children =>
    have hnone : Dict.get? children name = none := Dict.get?_eq_none_iff.2 h
    rw [follow, hnone]

theorem IsMissing.stopsAfter_nil (h : tree.IsMissing name) :
    tree.StopsAfter (name :: rest) [] :=
  ⟨name, rest, tree, rfl, by rw [follow], h⟩

theorem StopsAfter.cons {children : List (String × NodeTree)} {child : NodeTree}
    (hchild : Dict.get? children name = some child) (h : child.StopsAfter rest passed) :
    (group children).StopsAfter (name :: rest) (name :: passed) := by
  obtain ⟨next, after, found, rfl, hfollow, hmissing⟩ := h
  refine ⟨next, after, found, rfl, ?_, hmissing⟩
  rw [follow, hchild]
  exact hfollow

theorem StopsAfter.isPrefix (h : tree.StopsAfter names passed) : passed <+: names := by
  obtain ⟨name, rest, found, rfl, -, -⟩ := h
  exact List.prefix_append passed (name :: rest)

/-- A beginning that can be followed does not go beyond the place where the way ends. -/
theorem StopsAfter.isPrefix_of_follow (h : tree.StopsAfter names passed)
    (hothers : others <+: names) (hfollow : tree.follow others ≠ none) : others <+: passed := by
  obtain ⟨name, rest, found, rfl, hpassed, hmissing⟩ := h
  rcases List.prefix_or_prefix_of_prefix hothers (List.prefix_append passed (name :: rest)) with
    hle | ⟨beyond, rfl⟩
  · exact hle
  -- What lies beyond is nothing, or it begins with the name that does not lead on.
  cases beyond with
  | nil => simp
  | cons first beyond =>
    have hnext := (List.prefix_append_right_inj passed).1 hothers
    obtain ⟨rfl, -⟩ := List.cons_prefix_cons.1 hnext
    rw [follow_append, hpassed, Option.bind_some] at hfollow
    exact absurd hmissing.follow_eq_none hfollow

theorem StopsAfter.follow_eq_none (h : tree.StopsAfter names passed) :
    tree.follow names = none := by
  obtain ⟨name, rest, found, rfl, hpassed, hmissing⟩ := h
  rw [follow_append, hpassed, Option.bind_some]
  exact hmissing.follow_eq_none

theorem StopsAfter.unique (h : tree.StopsAfter names passed) (h' : tree.StopsAfter names others) :
    passed = others := by
  have hfollow : ∀ {ends}, tree.StopsAfter names ends → tree.follow ends ≠ none := by
    rintro ends ⟨name, rest, found, -, hends, -⟩ hnone
    rw [hends] at hnone
    exact absurd hnone (by simp)
  have hle := h'.isPrefix_of_follow h.isPrefix (hfollow h)
  have hge := h.isPrefix_of_follow h'.isPrefix (hfollow h')
  exact hle.eq_of_length (Nat.le_antisymm hle.length_le hge.length_le)

/-! ## Descending -/

theorem stopsAfter_of_descend (before : List String) {reached : List String}
    (h : tree.descend before names = .error reached) :
    ∃ passed, reached = before ++ passed ∧ tree.StopsAfter names passed := by
  induction names generalizing tree before with
  | nil => exact absurd h (by simp [descend])
  | cons name rest ih =>
    cases tree with
    | leaf steps =>
      obtain rfl := Except.error.inj h
      exact ⟨[], (List.append_nil before).symm, IsMissing.stopsAfter_nil trivial⟩
    | group children =>
      rw [descend] at h
      cases hchild : Dict.get? children name with
      | none =>
        rw [hchild] at h
        obtain rfl := Except.error.inj h
        have hmissing : (group children).IsMissing name := Dict.get?_eq_none_iff.1 hchild
        exact ⟨[], (List.append_nil before).symm, hmissing.stopsAfter_nil⟩
      | some child =>
        rw [hchild] at h
        obtain ⟨passed, hreached, hstops⟩ := ih (before ++ [name]) h
        refine ⟨name :: passed, ?_, hstops.cons hchild⟩
        rw [hreached, List.append_assoc, List.singleton_append]

/-- Descending by names fails with those after which the way ends. -/
theorem descend_eq_error_iff :
    tree.descend [] names = .error passed ↔ tree.StopsAfter names passed := by
  constructor
  · intro h
    obtain ⟨found, rfl, hstops⟩ := stopsAfter_of_descend [] h
    exact hstops
  · intro h
    cases hdescend : tree.descend [] names with
    | ok found =>
      have hfollow := (descend_eq_ok_iff []).1 hdescend
      rw [h.follow_eq_none] at hfollow
      exact absurd hfollow (by simp)
    | error reached =>
      obtain ⟨found, rfl, hstops⟩ := stopsAfter_of_descend [] hdescend
      rw [hstops.unique h]

theorem exists_stopsAfter (h : tree.follow names = none) :
    ∃ passed, tree.StopsAfter names passed := by
  cases hdescend : tree.descend [] names with
  | ok found =>
    rw [(descend_eq_ok_iff []).1 hdescend] at h
    exact absurd h (by simp)
  | error reached => exact ⟨reached, descend_eq_error_iff.1 hdescend⟩

/-! ## Resolving -/

theorem resolve_eq_error_iff {problem : AddressProblem} :
    tree.resolve path = .error problem ↔
      (∃ children, tree.follow (segments path) = some (group children)) ∧ problem = .isGroup path ∨
      ∃ passed, tree.StopsAfter (segments path) passed ∧
        problem = .notFound path (joinPath passed) := by
  rw [resolve]
  cases hdescend : tree.descend [] (segments path) with
  | ok found =>
    have hfollow := (descend_eq_ok_iff []).1 hdescend
    have hnot : ∀ passed, ¬tree.StopsAfter (segments path) passed := by
      intro passed hstops
      rw [hstops.follow_eq_none] at hfollow
      exact absurd hfollow (by simp)
    cases found with
    | leaf steps => simp [hfollow, hnot]
    | group children => simp [hfollow, hnot, eq_comm]
  | error reached =>
    have hstops := descend_eq_error_iff.1 hdescend
    rw [hstops.follow_eq_none]
    constructor
    · intro h
      exact .inr ⟨reached, hstops, (Except.error.inj h).symm⟩
    · rintro (⟨⟨children, hgroup⟩, -⟩ | ⟨passed, hpassed, rfl⟩)
      · exact absurd hgroup (by simp)
      · rw [hstops.unique hpassed]

/-- Some names are the longest beginning of others that can be followed down a tree. -/
structure ReachesAtMost (tree : NodeTree) (names passed : List String) : Prop where
  /-- They can be followed, and the name that comes next is not there. -/
  stops : tree.StopsAfter names passed
  /-- Every beginning that can be followed is one of theirs. -/
  longest : ∀ others, others <+: names → tree.follow others ≠ none → others <+: passed

theorem StopsAfter.reachesAtMost (h : tree.StopsAfter names passed) :
    tree.ReachesAtMost names passed :=
  ⟨h, fun _ hothers hfollow => h.isPrefix_of_follow hothers hfollow⟩

/-- What is answered about an address is what following its names from the root of a tree shows: the
steps of a leaf, a group, or how far one gets. -/
structure Answers (tree : NodeTree) (path : String) (answer : Except AddressProblem (List Step)) :
    Prop where
  ok_iff : ∀ steps, answer = .ok steps ↔ tree.follow (segments path) = some (leaf steps)
  isGroup_iff : ∀ given, answer = .error (.isGroup given) ↔
    given = path ∧ ∃ children, tree.follow (segments path) = some (group children)
  notFound_iff : ∀ given reached, answer = .error (.notFound given reached) ↔
    given = path ∧ ∃ passed, tree.ReachesAtMost (segments path) passed ∧ reached = joinPath passed
  notFound_of_none : tree.follow (segments path) = none →
    ∃ passed, tree.ReachesAtMost (segments path) passed ∧
      answer = .error (.notFound path (joinPath passed))

/-- In every tree `resolve` answers what following the names in an address shows. The names are the
pieces of the address between its dots. In a tree that is nothing but a leaf there is no way at all.
-/
theorem resolve_answers (tree : NodeTree) (path : String) :
    tree.Answers path (tree.resolve path) ∧
      (segments path).map String.toList = path.toList.splitOn '.' ∧
      ∀ steps, (leaf steps).resolve path = .error (.notFound path "") := by
  refine ⟨⟨fun _ => resolve_eq_ok_iff, fun given => ?_, fun given reached => ?_, fun hnone => ?_⟩,
    map_toList_segments path, fun steps => ?_⟩
  · rw [resolve_eq_error_iff]
    simp [and_comm]
  · rw [resolve_eq_error_iff]
    constructor
    · rintro (⟨-, heq⟩ | ⟨passed, hstops, heq⟩)
      · exact absurd heq (by simp)
      · obtain ⟨rfl, rfl⟩ := AddressProblem.notFound.inj heq
        exact ⟨rfl, passed, hstops.reachesAtMost, rfl⟩
    · rintro ⟨rfl, passed, hmost, rfl⟩
      exact .inr ⟨passed, hmost.stops, rfl⟩
  · obtain ⟨passed, hstops⟩ := exists_stopsAfter hnone
    exact ⟨passed, hstops.reachesAtMost, resolve_eq_error_iff.2 (.inr ⟨passed, hstops, rfl⟩)⟩
  · obtain ⟨name, rest, hsegments⟩ := List.exists_cons_of_ne_nil (segments_ne_nil path)
    have hstops : (leaf steps).StopsAfter (segments path) [] := by
      rw [hsegments]
      exact IsMissing.stopsAfter_nil trivial
    exact resolve_eq_error_iff.2 (.inr ⟨[], hstops, rfl⟩)

/-- Names may be empty, and an address may go on after a leaf. -/
example : (group [("", group [("", leaf [])])]).resolve "." = .ok [] ∧
    (group [("a", leaf [])]).resolve "a..b" = .error (.notFound "a..b" "a") := by
  constructor
  · cbv
  · cbv

end BranchingStory.NodeTree
