import BranchingStory.Story.Tree

/-!
# Addresses of leaves

`resolve` follows the names of an address down the tree, `leaves` walks the whole tree and joins the
names that it passes. An address that resolves is always listed (`mem_leaves_of_resolve`): joining
undoes splitting. The converse (`resolve_of_mem_leaves`) needs a tree in which splitting undoes
joining, because no name holds a dot, and in which no name of a group hides another one.
-/

namespace BranchingStory.NodeTree

/-! ## Splitting and joining -/

theorem splitAt_eq_splitOn (separator : Char) (cs : List Char) :
    splitAt separator cs = cs.splitOn separator := by
  induction cs with
  | nil => rfl
  | cons c rest ih =>
    rw [splitAt, List.splitOn_cons_eq_if_modifyHead, ih]
    by_cases h : c = separator
    · simp [h]
    · obtain ⟨piece, pieces, hp⟩ := List.exists_cons_of_ne_nil (List.splitOn_ne_nil separator rest)
      simp [h, hp]

theorem segments_ne_nil (path : String) : segments path ≠ [] := by
  simp [segments, splitAt_eq_splitOn]

theorem notMem_of_mem_splitAt {separator : Char} {cs part : List Char}
    (h : part ∈ splitAt separator cs) : separator ∉ part := by
  induction cs generalizing part with
  | nil =>
    obtain rfl := List.mem_singleton.1 h
    simp
  | cons c cs ih =>
    rw [splitAt] at h
    by_cases hc : c = separator
    · rw [if_pos hc] at h
      rcases List.mem_cons.1 h with rfl | hrest
      · simp
      · exact ih hrest
    · rw [if_neg hc] at h
      cases hsplit : splitAt separator cs with
      | nil =>
        rw [hsplit] at h
        obtain rfl := List.mem_singleton.1 h
        simpa using Ne.symm hc
      | cons first parts =>
        rw [hsplit] at h ih
        rcases List.mem_cons.1 h with rfl | hrest
        · have hfirst := ih List.mem_cons_self
          simp [Ne.symm hc, hfirst]
        · exact ih (List.mem_cons_of_mem first hrest)

/-- Texts without a separator are the pieces of the text that they are joined to by it. -/
theorem map_splitAt_intercalate {separator : Char} {texts : List String} (hne : texts ≠ [])
    (hfree : ∀ text ∈ texts, separator ∉ text.toList) :
    (splitAt separator (String.intercalate (String.singleton separator) texts).toList).map
      String.ofList = texts := by
  have hs : texts.map String.toList ≠ [] := by simpa using hne
  have hd : ∀ cs ∈ texts.map String.toList, separator ∉ cs := by
    intro cs hcs
    obtain ⟨text, htext, rfl⟩ := List.mem_map.1 hcs
    exact hfree text htext
  rw [splitAt_eq_splitOn, String.toList_intercalate, String.toList_singleton,
    List.splitOn_intercalate separator hd hs]
  simp [Function.comp_def]

/-- The names in an address are the pieces of its text between the dots. -/
theorem map_toList_segments (path : String) :
    (segments path).map String.toList = path.toList.splitOn '.' := by
  simp [segments, splitAt_eq_splitOn, Function.comp_def]

/-- Joining the names in an address gives the address. -/
theorem joinPath_segments (path : String) : joinPath (segments path) = path := by
  apply String.toList_inj.1
  rw [joinPath, String.toList_intercalate, map_toList_segments]
  exact List.intercalate_splitOn '.'

/-- Names without dots are the names in the address that they are joined to. -/
theorem segments_joinPath {names : List String} (hne : names ≠ [])
    (hdot : ∀ name ∈ names, '.' ∉ name.toList) : segments (joinPath names) = names :=
  map_splitAt_intercalate hne hdot

/-! ## Following names -/

/-- The tree below a tree that some names lead to, if they are all there. -/
def follow : NodeTree → List String → Option NodeTree
  | tree, [] => some tree
  | leaf _, _ :: _ => none
  | group children, name :: rest =>
    match Dict.get? children name with
    | some child => follow child rest
    | none => none

theorem descend_eq_ok_iff {tree t : NodeTree} (passed : List String) {names : List String} :
    tree.descend passed names = .ok t ↔ tree.follow names = some t := by
  induction names generalizing tree passed with
  | nil => cases tree <;> simp [descend, follow]
  | cons name rest ih =>
    cases tree with
    | leaf steps => simp [descend, follow]
    | group children =>
      rw [descend, follow]
      cases Dict.get? children name with
      | none => simp
      | some child => exact ih _

theorem resolve_eq_ok_iff {tree : NodeTree} {path : String} {steps : List Step} :
    tree.resolve path = .ok steps ↔ tree.follow (segments path) = some (leaf steps) := by
  rw [← descend_eq_ok_iff [], resolve]
  split
  · next t h => rw [h]; simp
  · next t h => rw [h]; simp
  · next reached h => rw [h]; simp

/-- A name without dots leads to a leaf exactly if it is the name of a child that is one. -/
theorem resolve_name_iff {children : List (String × NodeTree)} {name : String} {steps : List Step}
    (hdot : '.' ∉ name.toList) :
    (group children).resolve name = .ok steps ↔ Dict.get? children name = some (leaf steps) := by
  have hjoin : joinPath [name] = name := String.intercalate_singleton
  have hname : segments name = [name] := by
    have hs := segments_joinPath (List.cons_ne_nil name []) (List.forall_mem_singleton.2 hdot)
    rwa [hjoin] at hs
  rw [resolve_eq_ok_iff, hname, follow]
  cases Dict.get? children name with
  | none => simp
  | some child => simp [follow]

/-! ## Listing leaves -/

theorem mem_leavesAmong {above : List String} {children : List (String × NodeTree)}
    {found : List String × List Step} :
    found ∈ leavesAmong above children ↔
      ∃ entry ∈ children, found ∈ leavesBelow (above ++ [entry.1]) entry.2 := by
  induction children with
  | nil => simp [leavesAmong]
  | cons entry rest ih =>
    obtain ⟨name, child⟩ := entry
    simp [leavesAmong, ih]

theorem mem_leavesBelow_of_follow {tree : NodeTree} (above : List String) {rest : List String}
    {steps : List Step} (h : tree.follow rest = some (leaf steps)) :
    (above ++ rest, steps) ∈ leavesBelow above tree := by
  induction rest generalizing tree above with
  | nil =>
    rw [follow, Option.some.injEq] at h
    rw [h, leavesBelow, List.append_nil]
    exact List.mem_singleton_self _
  | cons name rest ih =>
    cases tree with
    | leaf _ => exact absurd h (by simp [follow])
    | group children =>
      rw [follow] at h
      split at h
      · next child hc =>
        have hin := ih (above ++ [name]) h
        rw [List.append_assoc, List.singleton_append] at hin
        exact mem_leavesAmong.2 ⟨(name, child), Dict.mem_of_get? hc, hin⟩
      · exact absurd h (by simp)

/-- An address that resolves is the address of a listed leaf. -/
theorem mem_leaves_of_resolve {tree : NodeTree} {path : String} {steps : List Step}
    (h : tree.resolve path = .ok steps) : (path, steps) ∈ tree.leaves := by
  have hf := resolve_eq_ok_iff.1 h
  cases tree with
  | leaf _ =>
    obtain ⟨name, rest, hs⟩ := List.exists_cons_of_ne_nil (segments_ne_nil path)
    rw [hs] at hf
    exact absurd hf (by simp [follow])
  | group children =>
    have hin := mem_leavesBelow_of_follow [] hf
    rw [leavesBelow, List.nil_append] at hin
    refine List.mem_map.2 ⟨_, hin, ?_⟩
    rw [joinPath_segments]

/-! ## Trees in which every listed address resolves -/

/-- The children of every group in a tree have a property. -/
inductive EveryGroup (P : List (String × NodeTree) → Prop) : NodeTree → Prop
  /-- There is no group in a leaf. -/
  | leaf (steps : List Step) : EveryGroup P (leaf steps)
  /-- The children of a group, and those of all groups below. -/
  | group {children : List (String × NodeTree)} (here : P children)
      (below : ∀ entry ∈ children, EveryGroup P entry.2) : EveryGroup P (group children)

/-- In every group the names increase. -/
abbrev Ordered (tree : NodeTree) : Prop :=
  tree.EveryGroup Dict.Ordered

/-- No name in a tree holds a dot. -/
abbrev DotFree (tree : NodeTree) : Prop :=
  tree.EveryGroup fun children => ∀ entry ∈ children, '.' ∉ entry.1.toList

theorem exists_follow_of_mem_leavesBelow {tree : NodeTree} (ho : tree.Ordered)
    {above names : List String} {steps : List Step} (h : (names, steps) ∈ leavesBelow above tree) :
    ∃ rest, names = above ++ rest ∧ tree.follow rest = some (leaf steps) := by
  induction ho generalizing above with
  | leaf found =>
    rw [leavesBelow, List.mem_singleton, Prod.mk.injEq] at h
    exact ⟨[], by simp [h.1], by simp [follow, h.2]⟩
  | @group children here _ ih =>
    rw [leavesBelow] at h
    obtain ⟨⟨name, child⟩, hc, hin⟩ := mem_leavesAmong.1 h
    obtain ⟨rest, hnames, hf⟩ := ih _ hc hin
    refine ⟨name :: rest, by simp [hnames], ?_⟩
    rw [follow, here.get?_of_mem hc]
    exact hf

theorem dot_notMem_of_mem_leavesBelow {tree : NodeTree} (hd : tree.DotFree)
    {above names : List String} {steps : List Step} (h : (names, steps) ∈ leavesBelow above tree)
    (ha : ∀ name ∈ above, '.' ∉ name.toList) : ∀ name ∈ names, '.' ∉ name.toList := by
  induction hd generalizing above with
  | leaf found =>
    rw [leavesBelow, List.mem_singleton, Prod.mk.injEq] at h
    rw [h.1]
    exact ha
  | @group children here _ ih =>
    rw [leavesBelow] at h
    obtain ⟨entry, hc, hin⟩ := mem_leavesAmong.1 h
    refine ih entry hc hin fun name hname => ?_
    rcases List.mem_append.1 hname with hname | hname
    · exact ha name hname
    · rw [List.mem_singleton.1 hname]
      exact here entry hc

/-- If no name holds a dot or hides another one, every listed address resolves. -/
theorem resolve_of_mem_leaves {tree : NodeTree} (ho : tree.Ordered) (hd : tree.DotFree)
    {path : String} {steps : List Step} (h : (path, steps) ∈ tree.leaves) :
    tree.resolve path = .ok steps := by
  cases tree with
  | leaf _ => exact absurd h (by simp [leaves])
  | group children =>
    obtain ⟨⟨names, found⟩, hin, heq⟩ := List.mem_map.1 h
    obtain ⟨rfl, rfl⟩ := Prod.mk.inj heq
    have hbelow : (names, found) ∈ leavesBelow [] (group children) := by
      rw [leavesBelow]
      exact hin
    obtain ⟨rest, hnames, hf⟩ := exists_follow_of_mem_leavesBelow ho hbelow
    rw [List.nil_append] at hnames
    subst hnames
    have hne : names ≠ [] := by
      rintro rfl
      exact absurd hf (by simp [follow])
    have hdot := dot_notMem_of_mem_leavesBelow hd hbelow (by simp)
    rw [resolve_eq_ok_iff, segments_joinPath hne hdot]
    exact hf

/-- If no name holds a dot or hides another one, the listed addresses are those that resolve. -/
theorem mem_leafPaths_iff {tree : NodeTree} (ho : tree.Ordered) (hd : tree.DotFree)
    {path : String} : path ∈ tree.leafPaths ↔ ∃ steps, tree.resolve path = .ok steps := by
  constructor
  · intro h
    obtain ⟨⟨_, steps⟩, hin, rfl⟩ := List.mem_map.1 h
    exact ⟨steps, resolve_of_mem_leaves ho hd hin⟩
  · rintro ⟨steps, h⟩
    exact List.mem_map.2 ⟨(path, steps), mem_leaves_of_resolve h, rfl⟩

end BranchingStory.NodeTree
