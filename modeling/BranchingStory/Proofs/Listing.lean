import BranchingStory.Proofs.ByteOrder
import BranchingStory.Proofs.LoadedTree
import Mathlib

/-!
# The list of the leaves

The leaves of a tree are listed depth first and, in each group, in the order of the names. Read as
lists of names, their addresses therefore increase (`pairwise_leafPaths`), which is not the order of
the addresses as texts: the dot stands after some characters that a name may hold. So no address is
listed twice, and if no name holds a dot the list is the table of `resolve` (`leaves_tabulate`).
-/

namespace BranchingStory.NodeTree

theorem leavesAmong_eq_flatMap (above : List String) (children : List (String × NodeTree)) :
    leavesAmong above children =
      children.flatMap fun entry => leavesBelow (above ++ [entry.1]) entry.2 := by
  induction children with
  | nil => rfl
  | cons entry rest ih => rw [leavesAmong, ih, List.flatMap_cons]

-- Below two children of a group the names on the way first differ at the names of the children.
theorem pairwise_leavesBelow {tree : NodeTree} (ho : tree.Ordered) (above : List String) :
    (leavesBelow above tree).Pairwise fun a b => a.1 < b.1 := by
  induction ho generalizing above with
  | leaf steps =>
    rw [leavesBelow]
    exact List.pairwise_singleton _ _
  | @group children here below ih =>
    rw [leavesBelow, leavesAmong_eq_flatMap, List.pairwise_flatMap]
    refine ⟨fun entry hentry => ih entry hentry _, ?_⟩
    refine here.imp_of_mem ?_
    intro first second hfirst hsecond hlt a ha b hb
    obtain ⟨resta, hresta, -⟩ := exists_follow_of_mem_leavesBelow (below first hfirst) ha
    obtain ⟨restb, hrestb, -⟩ := exists_follow_of_mem_leavesBelow (below second hsecond) hb
    rw [hresta, hrestb, List.append_assoc, List.append_assoc]
    exact List.append_left_lt (List.cons_lt_cons_iff.2 (.inl hlt))

/-- If no name holds a dot, the names on the way to a listed leaf are those in its address. -/
theorem segments_joinPath_of_mem {children : List (String × NodeTree)}
    (ho : (group children).Ordered) (hd : (group children).DotFree)
    {found : List String × List Step} (h : found ∈ leavesAmong [] children) :
    segments (joinPath found.1) = found.1 := by
  have hbelow : found ∈ leavesBelow [] (group children) := by
    rw [leavesBelow]
    exact h
  obtain ⟨rest, hnames, hf⟩ := exists_follow_of_mem_leavesBelow ho hbelow
  have hne : found.1 ≠ [] := by
    intro hnil
    rw [List.nil_append] at hnames
    rw [← hnames, hnil] at hf
    exact absurd hf (by simp [follow])
  exact segments_joinPath hne (dot_notMem_of_mem_leavesBelow hd hbelow (by simp))

theorem pairwise_leafPaths {tree : NodeTree} (ho : tree.Ordered) (hd : tree.DotFree) :
    tree.leafPaths.Pairwise fun p q => segments p < segments q := by
  cases tree with
  | leaf steps => exact List.Pairwise.nil
  | group children =>
    have hp := pairwise_leavesBelow ho []
    rw [leavesBelow] at hp
    rw [leafPaths, leaves, List.map_map, List.pairwise_map]
    refine hp.imp_of_mem ?_
    intro a b ha hb hlt
    show segments (joinPath a.1) < segments (joinPath b.1)
    rw [segments_joinPath_of_mem ho hd ha, segments_joinPath_of_mem ho hd hb]
    exact hlt

/-- Names can be compared by their bytes as well. -/
theorem map_bytes_lt {names others : List String} (h : names < others) :
    names.map Text.bytes < others.map Text.bytes := by
  induction h with
  | nil => exact List.nil_lt_cons _ _
  | rel hlt =>
    rw [List.map_cons, List.map_cons, List.cons_lt_cons_iff]
    exact .inl (Text.bytes_lt_bytes hlt)
  | cons _ ih =>
    rw [List.map_cons, List.map_cons, List.cons_lt_cons_iff]
    exact .inr ⟨rfl, ih⟩

theorem map_bytes_lt_iff {names others : List String} :
    names.map Text.bytes < others.map Text.bytes ↔ names < others := by
  constructor
  · intro h
    rcases Std.lt_trichotomy names others with hlt | rfl | hgt
    · exact hlt
    · exact absurd h (List.lt_irrefl _)
    · exact absurd (map_bytes_lt hgt) (List.lt_asymm h)
  · exact map_bytes_lt

/-- The leaves of a tree are the table of `resolve`: it lists what resolves and nothing else, each
address once, in the order of the names, which are compared by their bytes. -/
structure Tabulated (tree : NodeTree) : Prop where
  mem_iff : ∀ path steps, (path, steps) ∈ tree.leaves ↔ tree.resolve path = .ok steps
  nodup : tree.leafPaths.Nodup
  increasing : tree.leafPaths.Pairwise fun p q =>
    (segments p).map Text.bytes < (segments q).map Text.bytes

/-- If no name holds a dot or hides another one, the leaves are the table of `resolve`; and the tree
of a story that was loaded is such a tree. -/
theorem leaves_tabulate :
    (∀ tree : NodeTree, tree.Ordered → tree.DotFree → tree.Tabulated) ∧
      ∀ text language story, Story.load text language = .ok story →
        story.nodes.Ordered ∧ story.nodes.DotFree := by
  refine ⟨fun tree ho hd => ?_, fun text language story hload => ?_⟩
  · have hp := pairwise_leafPaths ho hd
    refine ⟨fun path steps => ?_, ?_, hp.imp map_bytes_lt⟩
    · exact ⟨resolve_of_mem_leaves ho hd, mem_leaves_of_resolve⟩
    · refine hp.imp ?_
      rintro p _ hlt rfl
      exact List.lt_irrefl _ hlt
  · exact ⟨Story.ordered_of_load hload, Story.dotFree_of_load hload⟩

/-- A document with a leaf in a group, and another leaf whose name is that of the group with a
character added that stands before the dot. -/
def markedName : String :=
  "\x7b\"start\":\"A.Z\",\"nodes\":\x7b\"A!\":[],\"A\":\x7b\"Z\":[],\"B\":\x7b\"C\":[]\x7d\x7d\x7d\x7d"

/-- The leaf in the group is listed first, although its address is the greater text. -/
theorem leaves_tabulate_of_markedName :
    ∃ story, Story.load markedName .own = .ok story ∧
      story.nodes.leafPaths = ["A.B.C", "A.Z", "A!"] ∧ "A!" < "A.Z" ∧ story.nodes.Tabulated := by
  have hload : Story.load markedName .own =
      .ok ⟨"A.Z", none, .group [("A", .group [("B", .group [("C", .leaf [])]), ("Z", .leaf [])]),
        ("A!", .leaf [])], [], []⟩ := by
    cbv
  obtain ⟨ho, hd⟩ := leaves_tabulate.2 markedName .own _ hload
  exact ⟨_, hload, by decide, by decide, leaves_tabulate.1 _ ho hd⟩

end BranchingStory.NodeTree
