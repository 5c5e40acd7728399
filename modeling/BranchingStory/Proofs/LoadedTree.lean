import BranchingStory.Document.Basic
import BranchingStory.Proofs.Addresses
import BranchingStory.Proofs.Success

/-!
# The trees of story documents

The objects of a document are dictionaries, and the names of nodes and groups are checked while the
document is read. So the tree of a story that was loaded is one in which the listed addresses are
those that resolve (`ordered_of_load`, `dotFree_of_load`), whatever language its scripts are in.
-/

namespace BranchingStory

namespace Json

/-- Every object in a value is a dictionary. -/
inductive Sorted : Json → Prop
  /-- There is no object in a value that is neither an array nor an object. -/
  | null : Sorted null
  | bool (b : Bool) : Sorted (bool b)
  | number (n : Number) : Sorted (number n)
  | string (s : String) : Sorted (string s)
  /-- The objects in an array are those in its elements. -/
  | array {items : List Json} (below : ∀ item ∈ items, Sorted item) : Sorted (array items)
  /-- An object, and the objects in its fields. -/
  | object {fields : List (String × Json)} (here : Dict.Ordered fields)
      (below : ∀ field ∈ fields, Sorted field.2) : Sorted (object fields)

mutual

theorem sorted_sorted : ∀ json : Json, json.sorted.Sorted
  | null => .null
  | bool b => .bool b
  | number n => .number n
  | string s => .string s
  | array items => .array (sortedItems_sorted items)
  | object fields =>
    have h := sortedFields_sorted fields (d := []) Dict.ordered_nil (by simp)
    .object h.1 h.2

theorem sortedItems_sorted : ∀ items : List Json, ∀ item ∈ sortedItems items, item.Sorted
  | [] => by simp [sortedItems]
  | item :: rest => by
    intro found h
    rcases List.mem_cons.1 h with rfl | h
    · exact sorted_sorted item
    · exact sortedItems_sorted rest found h

theorem sortedFields_sorted : ∀ (fields : List (String × Json)) {d : Dict Json}, d.Ordered →
    (∀ field ∈ d, field.2.Sorted) →
    (sortedFields fields d).Ordered ∧ ∀ field ∈ sortedFields fields d, field.2.Sorted
  | [], _, ho, hd => ⟨ho, hd⟩
  | (name, value) :: rest, d, ho, hd => by
    refine sortedFields_sorted rest (ho.insert name value.sorted) fun field h => ?_
    rcases Dict.eq_or_mem_of_mem_insert h with rfl | h
    · exact sorted_sorted value
    · exact hd field h

end

end Json

namespace Document

/-- The name of a node holds no dot. -/
theorem dot_notMem_of_isNodeName {name : String} (h : isNodeName name = true) :
    '.' ∉ name.toList := by
  intro hdot
  rw [isNodeName, Bool.and_eq_true, List.all_eq_true] at h
  exact absurd (h.2 '.' hdot) (by decide)

/-- The children of a group are read one after the other. -/
theorem readChildren_cons_eq_ok {language : Script.Language} {path name : String} {json : Json}
    {rest : List (String × Json)} {children : List (String × NodeTree)}
    (h : readChildren language path ((name, json) :: rest) = .ok children) :
    ∃ child others, isNodeName name = true ∧
      readTree language (childPath path name) json = .ok child ∧
      readChildren language path rest = .ok others ∧ children = (name, child) :: others := by
  rw [readChildren] at h
  by_cases hn : isNodeName name = true
  · simp only [hn, Bool.not_true, Bool.false_eq_true, if_false, bind_eq_ok, pure_eq_ok] at h
    obtain ⟨child, hc, others, hr, rfl⟩ := h
    exact ⟨child, others, hn, hc, hr, rfl⟩
  · simp [hn] at h

/-- The children that were read have the names of their fields, which are names of nodes. -/
theorem keys_of_readChildren {language : Script.Language} {path : String}
    {fields : List (String × Json)} {children : List (String × NodeTree)}
    (h : readChildren language path fields = .ok children) :
    Dict.keys children = Dict.keys fields ∧ ∀ entry ∈ children, isNodeName entry.1 = true := by
  induction fields generalizing children with
  | nil =>
    obtain rfl : [] = children := Except.ok.inj h
    exact ⟨rfl, by simp⟩
  | cons field rest ih =>
    obtain ⟨child, others, hn, -, hr, rfl⟩ := readChildren_cons_eq_ok h
    obtain ⟨hkeys, hnames⟩ := ih hr
    refine ⟨congrArg (field.1 :: ·) hkeys, fun entry hentry => ?_⟩
    rcases List.mem_cons.1 hentry with rfl | hentry
    · exact hn
    · exact hnames entry hentry

/-- The names of a group increase, and all of them are names of nodes. -/
def NamedGroup (children : List (String × NodeTree)) : Prop :=
  Dict.Ordered children ∧ ∀ entry ∈ children, isNodeName entry.1 = true

theorem namedGroup_of_readChildren {language : Script.Language} {path : String}
    {fields : List (String × Json)} {children : List (String × NodeTree)}
    (ho : Dict.Ordered fields) (h : readChildren language path fields = .ok children) :
    NamedGroup children := by
  obtain ⟨hkeys, hnames⟩ := keys_of_readChildren h
  refine ⟨?_, hnames⟩
  rw [Dict.ordered_iff_pairwise_keys, hkeys]
  exact Dict.ordered_iff_pairwise_keys.1 ho

mutual

theorem everyGroup_of_readTree {language : Script.Language} : ∀ {json : Json} {path : String}
    {tree : NodeTree}, json.Sorted → readTree language path json = .ok tree →
    tree.EveryGroup NamedGroup
  | .object fields, path, tree, hs, h => by
    simp only [readTree, bind_eq_ok, pure_eq_ok] at h
    obtain ⟨children, hc, rfl⟩ := h
    cases hs with
    | object here below =>
      exact .group (namedGroup_of_readChildren here hc) (everyGroup_of_readChildren below hc)
  | .array items, path, tree, _, h => by
    simp only [readTree, bind_eq_ok, pure_eq_ok] at h
    obtain ⟨steps, -, rfl⟩ := h
    exact .leaf steps
  | .null, _, _, _, h | .bool _, _, _, _, h | .number _, _, _, _, h | .string _, _, _, _, h => by
    simp [readTree] at h

theorem everyGroup_of_readChildren {language : Script.Language} :
    ∀ {fields : List (String × Json)} {path : String} {children : List (String × NodeTree)},
    (∀ field ∈ fields, field.2.Sorted) → readChildren language path fields = .ok children →
    ∀ entry ∈ children, entry.2.EveryGroup NamedGroup
  | [], _, _, _, h => by
    obtain rfl := Except.ok.inj h
    simp
  | (name, json) :: rest, path, _, hs, h => by
    obtain ⟨child, others, -, hc, hr, rfl⟩ := readChildren_cons_eq_ok h
    intro entry hentry
    rcases List.mem_cons.1 hentry with rfl | hentry
    · exact everyGroup_of_readTree (hs _ List.mem_cons_self) hc
    · exact everyGroup_of_readChildren (fun field hf => hs field (List.mem_cons_of_mem _ hf)) hr
        entry hentry

end

theorem everyGroup_of_readNodes {language : Script.Language} {nodes : Option Json}
    {tree : NodeTree} (hs : ∀ json, nodes = some json → json.Sorted)
    (h : readNodes language nodes = .ok tree) : tree.EveryGroup NamedGroup := by
  have hempty : (NodeTree.group []).EveryGroup NamedGroup :=
    .group ⟨Dict.ordered_nil, by simp⟩ (by simp)
  unfold readNodes at h
  split at h
  · rw [← Except.ok.inj h]
    exact hempty
  · rw [← Except.ok.inj h]
    exact hempty
  · next children =>
    simp only [bind_eq_ok, pure_eq_ok] at h
    obtain ⟨below, hc, rfl⟩ := h
    cases hs _ rfl with
    | object here hbelow =>
      exact .group (namedGroup_of_readChildren here hc) (everyGroup_of_readChildren hbelow hc)
  · simp at h

/-- The objects among the nodes of a document that was parsed are dictionaries. -/
theorem sorted_of_parse {text : String} {d : Document} (h : parse text = .ok d) :
    ∀ json, d.nodes = some json → json.Sorted := by
  simp only [parse, ofDraft, bind_eq_ok, pure_eq_ok] at h
  obtain ⟨_, -, _, -, _, -, _, -, nodes, -, _, -, _, -, rfl⟩ := h
  intro json hj
  obtain ⟨found, -, rfl⟩ := Option.map_eq_some_iff.1 hj
  exact Json.sorted_sorted found

end Document

open Document

theorem NodeTree.EveryGroup.mono {P Q : List (String × NodeTree) → Prop} {tree : NodeTree}
    (h : tree.EveryGroup P) (himp : ∀ children, P children → Q children) : tree.EveryGroup Q := by
  induction h with
  | leaf steps => exact .leaf steps
  | group here _ ih => exact .group (himp _ here) ih

theorem Story.everyGroup_of_load {text : String} {language : Script.Language} {story : Story}
    (h : Story.load text language = .ok story) : story.nodes.EveryGroup NamedGroup := by
  simp only [Story.load, bind_eq_ok, mapError_eq_ok] at h
  obtain ⟨d, hd, h⟩ := h
  simp only [Document.story, bind_eq_ok, pure_eq_ok] at h
  obtain ⟨_, -, nodes, hn, rfl⟩ := h
  exact everyGroup_of_readNodes (sorted_of_parse hd) hn

/-- No name in the tree of a story that was loaded hides another one. -/
theorem Story.ordered_of_load {text : String} {language : Script.Language} {story : Story}
    (h : Story.load text language = .ok story) : story.nodes.Ordered :=
  (everyGroup_of_load h).mono fun _ hc => hc.1

/-- No name in the tree of a story that was loaded holds a dot. -/
theorem Story.dotFree_of_load {text : String} {language : Script.Language} {story : Story}
    (h : Story.load text language = .ok story) : story.nodes.DotFree :=
  (everyGroup_of_load h).mono fun _ hc entry hentry => dot_notMem_of_isNodeName (hc.2 entry hentry)

end BranchingStory
