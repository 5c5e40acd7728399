import BranchingStory.Proofs.Listing
import BranchingStory.Proofs.LoadedSteps
import BranchingStory.Proofs.StepDemands
import Mathlib

/-!
# Stories mirror their documents

A document consists of elements: the names of its nodes and groups, the values under these names,
and the steps in the arrays among them (`elements`). A document that could be parsed makes a story
exactly if all of its elements are well-formed, the story has the arrays of the document as its
leaves, and an error is about the first element that is not well-formed (`load_mirrors`).
-/

namespace BranchingStory

open Playback

namespace Document

/-! ## Elements -/

/-- A part of a document of which something is demanded. -/
inductive Element
  /-- The variables. -/
  | vars (declared : Option Variables)
  /-- What is given as the nodes. -/
  | nodes (json : Option Json)
  /-- The name of a node or group, and its address. -/
  | name (path name : String)
  /-- The value of a node or group, and its address. -/
  | node (path : String) (json : Json)
  /-- A step of a node. -/
  | step (path : String) (index : Nat) (json : Json)

namespace Element

def location : Element → Location
  | vars _ => .story "variables"
  | nodes _ => .story "nodes"
  | name path _ => .node path
  | node path _ => .node path
  | step path index _ => .step path index

/-- What is demanded of an element. -/
def demands (language : Script.Language) : Element → List Demand
  | vars declared => [⟨.story "variables", VariablesNamed declared⟩]
  | nodes json =>
    [⟨.story "nodes", json = none ∨ json = some .null ∨ ∃ children, json = some (.object children)⟩]
  | name path given => [⟨.node path, isNodeName given = true⟩]
  | node path json =>
    [⟨.node path, (∃ children, json = .object children) ∨ ∃ items, json = .array items⟩]
  | step path index json => stepDemands language path index json

/-- An element is as it has to be. -/
def WellFormed (language : Script.Language) (x : Element) : Prop :=
  ∀ d ∈ x.demands language, d.holds

/-- The steps of a node, if the element is the value of one, and its address. -/
def array? : Element → Option (String × List Json)
  | node path (.array items) => some (path, items)
  | _ => none

theorem location_extends {language : Script.Language} {x : Element} {d : Demand}
    (h : d ∈ x.demands language) : d.location.Extends x.location := by
  cases x with
  | step path index json => exact extends_of_mem_stepDemands h
  | _ =>
    rw [List.mem_singleton.1 h]
    exact .refl _

end Element

mutual

/-- The elements of a node or group at an address: its value, and those in it. -/
def elementsOf (path : String) : Json → List Element
  | .object children => .node path (.object children) :: elementsAmong path children
  | .array items =>
    .node path (.array items) :: items.zipIdx.map fun item => .step path item.2 item.1
  | json => [.node path json]

/-- The elements among the children of the group at an address. -/
def elementsAmong (path : String) : List (String × Json) → List Element
  | [] => []
  | (name, json) :: rest =>
    .name (childPath path name) name ::
      (elementsOf (childPath path name) json ++ elementsAmong path rest)

end

/-- The elements among what is given as the nodes of a document. -/
def elementsOfNodes : Option Json → List Element
  | some (.object children) => elementsAmong "" children
  | _ => []

/-- The elements of a document, in its order. -/
def elements (d : Document) : List Element :=
  .vars d.vars :: .nodes d.nodes :: elementsOfNodes d.nodes

/-- The arrays among the nodes of a document, with their addresses. -/
def arrays (d : Document) : List (String × List Json) :=
  d.elements.filterMap Element.array?

/-- A leaf mirrors an array: it has the same address, and its steps mirror the items one by one. -/
structure LeafMirrors (language : Script.Language) (leaf : String × List Step)
    (array : String × List Json) : Prop where
  path_eq : leaf.1 = array.1
  steps : Numbered (StepMirrors language leaf.1) array.2 leaf.2

/-! ## Nodes and groups -/

theorem ne_empty_of_isNodeName {name : String} (h : isNodeName name = true) : name ≠ "" := by
  rw [isNodeName, Bool.and_eq_true] at h
  simpa using h.1

/-- Going down from the node or group below some names adds a name to its address. -/
theorem childPath_joinPath {above : List String} (h : "" ∉ above) (name : String) :
    childPath (NodeTree.joinPath above) name = NodeTree.joinPath (above ++ [name]) := by
  cases above with
  | nil => rfl
  | cons first rest =>
    have hne : first ≠ "" := fun heq => h (heq ▸ List.mem_cons_self)
    rw [List.cons_append, ← foldl_childPath hne, ← foldl_childPath hne, List.foldl_append]
    rfl

/-- The leaves of a tree that stands below some names, with their addresses, mirror the arrays among
some elements. -/
def TreeMirrors (language : Script.Language) (leaves : List (List String × List Step))
    (elements : List Element) : Prop :=
  List.Forall₂ (LeafMirrors language)
    (leaves.map fun found => (NodeTree.joinPath found.1, found.2))
    (elements.filterMap Element.array?)

variable {language : Script.Language}

theorem reads_items (language : Script.Language) (path : String) (items : List Json) :
    Reads (items.zipIdx.mapM fun (json, index) => readStep path index json language)
      ((items.zipIdx.map fun item => Element.step path item.2 item.1).flatMap
        (Element.demands language))
      (Numbered (StepMirrors language path) items) := by
  rw [List.flatMap_map]
  exact Reads.mapM_zipIdx (fun json index => readStep path index json language) _
    (fun json index => reads_readStep language path index json) items

theorem filterMap_array?_items (path : String) (items : List Json) :
    (items.zipIdx.map fun item => Element.step path item.2 item.1).filterMap Element.array? =
      [] := by
  rw [List.filterMap_map]
  exact List.filterMap_eq_nil_iff.2 fun _ _ => rfl

-- The induction is on the nesting of the document; the names above a node give it its address.
mutual

theorem reads_readTree (language : Script.Language) : ∀ (json : Json) {above : List String},
    "" ∉ above → Reads (readTree language (NodeTree.joinPath above) json)
      ((elementsOf (NodeTree.joinPath above) json).flatMap (Element.demands language))
      (fun tree => TreeMirrors language (tree.leavesBelow above)
        (elementsOf (NodeTree.joinPath above) json))
  | .object children, above, h => by
    rw [readTree, elementsOf, List.flatMap_cons]
    refine Reads.after (Reads.map (reads_readChildren language children h) fun _ hc => ?_)
      (Or.inl ⟨children, rfl⟩)
    exact hc
  | .array items, above, h => by
    rw [readTree, elementsOf, List.flatMap_cons]
    refine Reads.after (Reads.map (reads_items language _ items) fun steps hsteps => ?_)
      (Or.inr ⟨items, rfl⟩)
    rw [NodeTree.leavesBelow, TreeMirrors, List.filterMap_cons, filterMap_array?_items]
    exact .cons ⟨rfl, hsteps⟩ .nil
  | .null, above, h | .bool _, above, h | .number _, above, h | .string _, above, h => by
    simp only [readTree, elementsOf]
    exact .refuse (by simp) rfl (.refl _)

theorem reads_readChildren (language : Script.Language) :
    ∀ (fields : List (String × Json)) {above : List String}, "" ∉ above →
    Reads (readChildren language (NodeTree.joinPath above) fields)
      ((elementsAmong (NodeTree.joinPath above) fields).flatMap (Element.demands language))
      (fun children => TreeMirrors language (NodeTree.leavesAmong above children)
        (elementsAmong (NodeTree.joinPath above) fields))
  | [], above, h => .pure (by simp [elementsAmong]) .nil
  | (name, json) :: rest, above, h => by
    rw [readChildren, elementsAmong, List.flatMap_cons]
    by_cases hn : isNodeName name = true
    · -- With names that are not empty, the address of the child is made of the names above it.
      have hbelow : "" ∉ above ++ [name] := by
        have hne : name ≠ "" := ne_empty_of_isNodeName hn
        simp [h, hne.symm]
      simp only [hn, Bool.not_true, Bool.false_eq_true, if_false, childPath_joinPath h,
        List.flatMap_append]
      rw [Element.demands, List.singleton_append]
      refine Reads.after (Reads.bind (reads_readTree language json hbelow) fun child hchild =>
        Reads.map (reads_readChildren language rest h) fun others hothers => ?_) hn
      rw [NodeTree.leavesAmong, TreeMirrors, List.map_append, List.filterMap_cons,
        List.filterMap_append]
      exact List.rel_append hchild hothers
    · simp only [hn, Bool.not_false, if_true]
      exact .refuse hn rfl (.refl _)

end

/-! ## Documents -/

theorem reads_readNodes (language : Script.Language) (nodes : Option Json) :
    Reads (readNodes language nodes)
      ((.nodes nodes :: elementsOfNodes nodes).flatMap (Element.demands language))
      (fun tree => List.Forall₂ (LeafMirrors language) tree.leaves
        ((elementsOfNodes nodes).filterMap Element.array?)) := by
  rw [List.flatMap_cons]
  unfold readNodes
  split
  · exact .pure (List.forall_mem_singleton.2 (.inl rfl)) .nil
  · exact .pure (List.forall_mem_singleton.2 (.inr (.inl rfl))) .nil
  · next children =>
    have hempty : "" ∉ ([] : List String) := List.not_mem_nil
    refine Reads.after (Reads.map (reads_readChildren language children hempty) fun _ hc => ?_)
      (Or.inr (.inr ⟨children, rfl⟩))
    exact hc
  · next json hnull hobject =>
    refine .refuse ?_ rfl (.refl _)
    rintro (h | h | ⟨children, h⟩)
    · exact absurd h (by simp)
    · exact hnull (Option.some.inj h)
    · exact hobject children (Option.some.inj h)

/-- A document whose elements are well-formed is read as a story that mirrors it. -/
theorem reads_story (d : Document) (language : Script.Language) :
    Reads (d.story language) (d.elements.flatMap (Element.demands language))
      (fun story => List.Forall₂ (LeafMirrors language) story.nodes.leaves d.arrays) := by
  rw [elements, List.flatMap_cons]
  exact (reads_checkVariables d.vars).bind fun _ _ =>
    (reads_readNodes language d.nodes).map fun tree htree => htree

/-- If an error tells about the first demand of elements that is not met, then it tells about the
first element that is not well-formed. -/
theorem exists_first_of_firstUnmet {e : LoadError} {xs : List Element}
    (h : FirstUnmet e (xs.flatMap (Element.demands language))) :
    ∃ before x after, xs = before ++ x :: after ∧ (∀ y ∈ before, y.WellFormed language) ∧
      FirstUnmet e (x.demands language) := by
  induction xs with
  | nil => cases h
  | cons x rest ih =>
    rw [List.flatMap_cons] at h
    rcases h.of_append with h | ⟨hx, h⟩
    · exact ⟨[], x, rest, rfl, List.forall_mem_nil _, h⟩
    · obtain ⟨before, y, after, rfl, hbefore, hy⟩ := ih h
      exact ⟨x :: before, y, after, rfl, List.forall_mem_cons.2 ⟨hx, hbefore⟩, hy⟩

/-- An error is about an element that is not well-formed: about the first of its demands that is not
met. The place that is told is that of the element, or in it. -/
structure PointsTo (language : Script.Language) (x : Element) (e : LoadError) : Prop where
  illFormed : ¬ x.WellFormed language
  first : FirstUnmet e (x.demands language)
  located : ∀ wording, ∃ rest, (e.report wording).location = some (x.location.text ++ rest)

theorem pointsTo_of_firstUnmet {e : LoadError} {x : Element}
    (h : FirstUnmet e (x.demands language)) : PointsTo language x e := by
  obtain ⟨d, hd, hn, place, hplace, hextends⟩ := h.exists_unmet
  obtain ⟨rest, htext⟩ := (hextends.trans (Element.location_extends hd)).text
  refine ⟨fun hx => hn (hx d hd), h, fun wording => ⟨rest, ?_⟩⟩
  rw [LoadError.report, hplace, ← htext]
  rfl

/-- A story mirrors a document: its leaves are the arrays of the document, each address once. -/
structure Mirrored (language : Script.Language) (d : Document) (story : Story) : Prop where
  leaves : List.Forall₂ (LeafMirrors language) story.nodes.leaves d.arrays
  distinct : story.nodes.leafPaths.Nodup

theorem load_eq_story {text : String} {d : Document} (hparse : parse text = .ok d)
    (language : Script.Language) : Story.load text language = d.story language := by
  rw [Story.load, hparse]
  rfl

/-- A document that could be parsed makes a story exactly if its elements are well-formed: the names
of its variables are identifiers; its nodes are given as an object, if at all; and among them names
are names of nodes, values are objects or arrays, and steps meet the demands of their kinds. The
story mirrors the document. If there is none, then the error points to the first element, in the
order of the document, that is not well-formed. -/
theorem load_mirrors {text : String} {d : Document} (hparse : parse text = .ok d)
    (language : Script.Language) :
    ((∃ story, Story.load text language = .ok story) ↔
      ∀ x ∈ d.elements, x.WellFormed language) ∧
    (∀ story, Story.load text language = .ok story → Mirrored language d story) ∧
    ∀ e, Story.load text language = .error e → ∃ before x after,
      d.elements = before ++ x :: after ∧ (∀ y ∈ before, y.WellFormed language) ∧
        PointsTo language x e := by
  have hload := load_eq_story hparse language
  have hreads := reads_story d language
  refine ⟨?_, ?_, ?_⟩
  · rw [hload, hreads.exists_ok_iff, List.forall_mem_flatMap]
    rfl
  · intro story hstory
    have hp := NodeTree.pairwise_leafPaths (Story.ordered_of_load hstory)
      (Story.dotFree_of_load hstory)
    rw [hload] at hstory
    refine ⟨(hreads.ok story hstory).2, hp.imp ?_⟩
    rintro path _ hlt rfl
    exact List.lt_irrefl _ hlt
  · intro e he
    rw [hload] at he
    obtain ⟨before, x, after, hsplit, hbefore, hx⟩ :=
      exists_first_of_firstUnmet (hreads.error e he)
    exact ⟨before, x, after, hsplit, hbefore, pointsTo_of_firstUnmet hx⟩

/-- A document with an empty node, and a node in a group that has a choice and a computed value. -/
def groupedChoice : String :=
  "\x7b\"start\":\"B\",\"nodes\":\x7b\"G\":\x7b\"A\":[\x7b\"options\":" ++
    "[[\"Go\",\"B\"],[\"Stay\",null,null]],\"kind\":\"choice\"\x7d,\x7b\"kind\":" ++
    "\"set_variable\",\"key\":\"n\",\"compute\":\"1\"\x7d]\x7d,\"B\":[]\x7d\x7d"

/-- The steps of that node. -/
def groupedItems : List Json :=
  [.object [("kind", .string "choice"), ("options", .array [.array [.string "Go", .string "B"],
      .array [.string "Stay", .null, .null]])],
    .object [("compute", .string "1"), ("key", .string "n"), ("kind", .string "set_variable")]]

/-- The record that the document is. -/
def groupedDocument : Document where
  start := some "B"
  nodes := some (.object [("B", .array []), ("G", .object [("A", .array groupedItems)])])

/-- The story that the document describes. -/
def groupedStory : Story where
  start := "B"
  vars := none
  nodes := .group [("B", .leaf []), ("G", .group [("A", .leaf [
    .choice none [⟨some "Go", some "B", none⟩, ⟨some "Stay", none, none⟩],
    .setVariable (some "n") (some (.computed (Script.Language.own.compute (.literal (.int 1))
      (.field "G.A" 1 "compute"))))])])]
  characters := []
  places := []

/-- The story has the empty node and the node in the group as its leaves, and their steps mirror
those of the document. -/
theorem load_mirrors_of_groupedChoice :
    parse groupedChoice = .ok groupedDocument ∧
      Story.load groupedChoice .own = .ok groupedStory ∧
      (∀ x ∈ groupedDocument.elements, x.WellFormed .own) ∧
      groupedDocument.arrays = [("B", []), ("G.A", groupedItems)] ∧
      Mirrored .own groupedDocument groupedStory := by
  have hparse : parse groupedChoice = .ok groupedDocument := by cbv
  have hstory : groupedDocument.story .own = .ok groupedStory := by cbv
  have hload : Story.load groupedChoice .own = .ok groupedStory :=
    (load_eq_story hparse .own).trans hstory
  obtain ⟨hiff, hmirrored, -⟩ := load_mirrors hparse .own
  exact ⟨hparse, hload, hiff.1 ⟨_, hload⟩, by cbv, hmirrored _ hload⟩

end Document

end BranchingStory
