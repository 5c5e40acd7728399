import BranchingStory.Files.Tree
import BranchingStory.Proofs.Addresses
import BranchingStory.Proofs.Success
import Mathlib

/-!
# Paths of files

A path may be written in several ways. What matters of it are the pieces that lead somewhere, its
components: joining a name to a path adds a component (`components_join`) and the parent of such a
path has the components of the path again (`components_parent_join`), although not always its text.
Also which directory is found at a path depends on its components alone (`find_eq_directory_iff`).
-/

namespace BranchingStory.Files

namespace Path

/-- The pieces of a path that lead somewhere. -/
def components (path : String) : List String :=
  (pieces path).filter fun piece => !isIdle piece

/-- Whether a path does not start with an empty piece. -/
def IsRelative (path : String) : Prop :=
  (pieces path).head? ≠ some ""

/-- Something in a directory may be called by a name. -/
structure IsName (name : String) : Prop where
  noSlash : '/' ∉ name.toList
  notIdle : isIdle name = false
  notParent : name ≠ ".."

instance (name : String) : Decidable (IsName name) :=
  decidable_of_iff ('/' ∉ name.toList ∧ isIdle name = false ∧ name ≠ "..")
    ⟨fun h => ⟨h.1, h.2.1, h.2.2⟩, fun h => ⟨h.noSlash, h.notIdle, h.notParent⟩⟩

variable {path directory name : String} {names : List String}

/-! ## Pieces -/

theorem pieces_eq (path : String) : pieces path = (path.toList.splitOn '/').map String.ofList := by
  rw [pieces, NodeTree.splitAt_eq_splitOn]

theorem pieces_ne_nil (path : String) : pieces path ≠ [] := by
  simp [pieces_eq]

theorem pieces_append_slash (base rest : String) :
    pieces (base ++ "/" ++ rest) = pieces base ++ pieces rest := by
  have htext : (base ++ "/" ++ rest).toList = base.toList ++ '/' :: rest.toList := by
    simp
  rw [pieces_eq, htext, List.splitOn_append_cons_self, List.map_append, ← pieces_eq, ← pieces_eq]

theorem pieces_of_noSlash (h : '/' ∉ path.toList) : pieces path = [path] := by
  rw [pieces_eq, List.splitOn_eq_singleton h]
  simp

theorem slash_notMem_of_mem_pieces {piece : String} (h : piece ∈ pieces path) :
    '/' ∉ piece.toList := by
  obtain ⟨part, hpart, rfl⟩ := List.mem_map.1 h
  simpa using NodeTree.notMem_of_mem_splitAt hpart

/-- Pieces without slashes are the pieces of the path that they are joined to. -/
theorem pieces_intercalate (hne : names ≠ []) (hslash : ∀ name ∈ names, '/' ∉ name.toList) :
    pieces (String.intercalate "/" names) = names :=
  NodeTree.map_splitAt_intercalate hne hslash

/-- The paths that start with an empty piece are the empty one and those that start with a slash. -/
theorem head?_pieces_eq_iff :
    (pieces path).head? = some "" ↔ path = "" ∨ path.startsWith "/" = true := by
  rw [pieces, String.startsWith_string_iff, ← String.toList_eq_nil_iff]
  show _ ↔ _ ∨ ['/'] <+: path.toList
  cases path.toList with
  | nil => simp [NodeTree.splitAt]
  | cons c cs =>
    rw [NodeTree.splitAt]
    by_cases hc : c = '/'
    · simp [hc]
    · rw [if_neg hc]
      cases NodeTree.splitAt '/' cs with
      | nil => simp [Ne.symm hc]
      | cons first parts => simp [Ne.symm hc]

/-! ## Joining -/

/-- A name is joined to a path by a slash, unless the path ends with one. -/
theorem exists_join_eq (hne : directory ≠ "") (name : String) :
    ∃ base, join directory name = base ++ "/" ++ name ∧
      (directory = base ∨ directory = base ++ "/") := by
  rw [join, if_neg hne]
  by_cases hend : directory.endsWith "/" = true
  · rw [if_pos hend]
    rw [← String.endsWith_toSlice, String.Slice.endsWith_string_iff, String.copy_toSlice] at hend
    obtain ⟨front, hfront⟩ := hend
    have hbase : directory = String.ofList front ++ "/" := by
      apply String.toList_inj.1
      simp [← hfront]
    exact ⟨String.ofList front, by rw [hbase], .inr hbase⟩
  · rw [if_neg hend]
    exact ⟨directory, rfl, .inl rfl⟩

theorem components_append_slash (base rest : String) :
    components (base ++ "/" ++ rest) = components base ++ components rest := by
  rw [components, pieces_append_slash, List.filter_append, ← components, ← components]

theorem IsName.components_eq (h : IsName name) : components name = [name] := by
  rw [components, pieces_of_noSlash h.noSlash]
  simp [h.notIdle]

theorem components_empty : components "" = [] := rfl

theorem components_base {base : String} (h : directory = base ∨ directory = base ++ "/") :
    components directory = components base := by
  rcases h with rfl | rfl
  · rfl
  · have hslash := components_append_slash base ""
    rw [components_empty, List.append_nil, String.append_empty] at hslash
    exact hslash

/-- Joining a name to a path adds a component. -/
theorem components_join (h : IsName name) (directory : String) :
    components (join directory name) = components directory ++ [name] := by
  by_cases hne : directory = ""
  · subst hne
    rw [join, if_pos rfl, h.components_eq]
    rfl
  · obtain ⟨base, hjoin, hbase⟩ := exists_join_eq hne name
    rw [hjoin, components_append_slash, h.components_eq, components_base hbase]

theorem IsRelative.ne_empty (h : IsRelative path) : path ≠ "" := by
  rintro rfl
  exact h rfl

/-- What a path starts with does not change when something is joined to it. -/
theorem head?_pieces_base {base : String} (h : directory = base ∨ directory = base ++ "/") :
    (pieces directory).head? = (pieces base).head? := by
  rcases h with rfl | rfl
  · rfl
  · have hslash := pieces_append_slash base ""
    rw [String.append_empty] at hslash
    rw [hslash, List.head?_append_of_ne_nil _ (pieces_ne_nil base)]

theorem IsRelative.join (h : IsRelative directory) (name : String) :
    IsRelative (join directory name) := by
  obtain ⟨base, hjoin, hbase⟩ := exists_join_eq h.ne_empty name
  rw [IsRelative, hjoin, pieces_append_slash, List.head?_append_of_ne_nil _ (pieces_ne_nil base),
    ← head?_pieces_base hbase]
  exact h

theorem name?_join (h : IsName name) (directory : String) :
    name? (Path.join directory name) = some name := by
  have hlast : (components (Path.join directory name)).getLast? = some name := by
    rw [components_join h, List.getLast?_concat]
  rw [name?, ← components, hlast, Option.bind_some, if_neg h.notParent]

theorem components_foldl_join (hnames : ∀ name ∈ names, IsName name) (path : String) :
    components (names.foldl Path.join path) = components path ++ names := by
  induction names generalizing path with
  | nil => simp
  | cons name rest ih =>
    obtain ⟨hname, hrest⟩ := List.forall_mem_cons.1 hnames
    rw [List.foldl_cons, ih hrest, components_join hname, List.append_assoc, List.singleton_append]

theorem isRelative_foldl_join (names : List String) (hpath : IsRelative path) :
    IsRelative (names.foldl Path.join path) := by
  induction names generalizing path with
  | nil => exact hpath
  | cons name rest ih => exact ih (hpath.join name)

/-! ## Parents -/

theorem dropIdle_ne_nil (hne : names ≠ []) : dropIdle names ≠ [] := by
  cases names with
  | nil => exact absurd rfl hne
  | cons first rest => simp [dropIdle]

theorem head?_dropIdle (names : List String) : (dropIdle names).head? = names.head? := by
  cases names with
  | nil => rfl
  | cons first rest => rfl

theorem dropIdle_isPrefix (names : List String) : dropIdle names <+: names := by
  cases names with
  | nil => exact List.prefix_refl []
  | cons first rest =>
    have hsuffix := List.dropWhile_suffix (l := rest.reverse) isIdle
    rw [← List.reverse_prefix, List.reverse_reverse] at hsuffix
    exact List.cons_prefix_cons.2 ⟨rfl, hsuffix⟩

theorem filter_dropWhile_reverse (rest : List String) :
    (rest.reverse.dropWhile isIdle).reverse.filter (fun piece => !isIdle piece) =
      rest.filter fun piece => !isIdle piece := by
  induction rest using List.reverseRecOn with
  | nil => rfl
  | append_singleton rest last ih =>
    rw [List.reverse_concat, List.dropWhile_cons]
    by_cases hidle : isIdle last = true
    · rw [if_pos hidle, ih, List.filter_append]
      simp [hidle]
    · rw [if_neg hidle, List.reverse_cons, List.reverse_reverse]

/-- What is dropped are no components. -/
theorem filter_dropIdle (names : List String) :
    (dropIdle names).filter (fun piece => !isIdle piece) =
      names.filter fun piece => !isIdle piece := by
  cases names with
  | nil => rfl
  | cons first rest => rw [dropIdle, List.filter_cons, List.filter_cons, filter_dropWhile_reverse]

theorem dropIdle_concat (hne : names ≠ []) (h : isIdle name = false) :
    dropIdle (names ++ [name]) = names ++ [name] := by
  cases names with
  | nil => exact absurd rfl hne
  | cons first rest => simp [dropIdle, h]

/-- What is joined to a path has the path for its parent, without the pieces at its end that lead
nowhere else. -/
theorem exists_parent_join (h : IsName name) (hdirectory : IsRelative directory) :
    ∃ base, (directory = base ∨ directory = base ++ "/") ∧
      pieces (parent (Path.join directory name)) = dropIdle (pieces base) := by
  obtain ⟨base, hjoin, hbase⟩ := exists_join_eq hdirectory.ne_empty name
  refine ⟨base, hbase, ?_⟩
  have hpieces : pieces (Path.join directory name) = pieces base ++ [name] := by
    rw [hjoin, pieces_append_slash, pieces_of_noSlash h.noSlash]
  have hhead : (dropIdle (pieces base)).head? ≠ some "" := by
    rw [head?_dropIdle, ← head?_pieces_base hbase]
    exact hdirectory
  have hslash : ∀ piece ∈ dropIdle (pieces base), '/' ∉ piece.toList := by
    intro piece hpiece
    exact slash_notMem_of_mem_pieces ((dropIdle_isPrefix _).subset hpiece)
  rw [parent, hpieces, dropIdle_concat (pieces_ne_nil base) h.notIdle, List.dropLast_concat]
  split
  · next hroot =>
    rw [hroot] at hhead
    exact absurd rfl hhead
  · exact pieces_intercalate (dropIdle_ne_nil (pieces_ne_nil base)) hslash

theorem components_parent_join (h : IsName name) (hdirectory : IsRelative directory) :
    components (parent (Path.join directory name)) = components directory := by
  obtain ⟨base, hbase, hpieces⟩ := exists_parent_join h hdirectory
  rw [components, hpieces, filter_dropIdle, ← components, components_base hbase]

theorem isRelative_parent_join (h : IsName name) (hdirectory : IsRelative directory) :
    IsRelative (parent (Path.join directory name)) := by
  obtain ⟨base, hbase, hpieces⟩ := exists_parent_join h hdirectory
  rw [IsRelative, hpieces, head?_dropIdle, ← head?_pieces_base hbase]
  exact hdirectory

end Path

/-! ## Finding directories -/

namespace FileTree

open Files.Path

variable {tree found : FileTree} {entries : List (String × FileTree)} {path root : String}
  {names rest : List String}

/-- What some names lead to from a tree. -/
def lookup? : FileTree → List String → Option FileTree
  | tree, [] => some tree
  | file _, _ :: _ => none
  | directory entries, name :: rest =>
    match Dict.get? entries name with
    | some tree => lookup? tree rest
    | none => none

theorem lookup?_append (tree : FileTree) (names rest : List String) :
    tree.lookup? (names ++ rest) = (tree.lookup? names).bind (lookup? · rest) := by
  induction names generalizing tree with
  | nil => cases tree <;> simp [lookup?]
  | cons name names ih =>
    cases tree with
    | file bytes => simp [lookup?]
    | directory entries =>
      rw [List.cons_append, lookup?, lookup?]
      cases Dict.get? entries name with
      | none => rfl
      | some child => exact ih child

/-- Names lead to the same, whatever lies above. -/
theorem follow_eq_ok_iff (hnames : ∀ name ∈ names, IsName name) (above : List FileTree) :
    follow above tree names = .ok found ↔ tree.lookup? names = some found := by
  induction names generalizing tree above with
  | nil => cases tree <;> simp [follow, lookup?]
  | cons name names ih =>
    obtain ⟨hname, hrest⟩ := List.forall_mem_cons.1 hnames
    cases tree with
    | file bytes => simp [follow, lookup?]
    | directory entries =>
      have hidle : ¬isIdle name = true := by simp [hname.notIdle]
      simp only [follow, if_neg hidle, if_neg hname.notParent, lookup?]
      cases Dict.get? entries name with
      | none => simp
      | some child => exact ih hrest (directory entries :: above)

@[simp] theorem follow_nil (above : List FileTree) (tree : FileTree) :
    follow above tree [] = .ok tree := by
  cases tree <;> rfl

/-- A path is followed by its first pieces and then by the others. What lies above then depends on
the first pieces, which may lead upwards. -/
theorem exists_follow_append {above : List FileTree} {pieces : List String}
    (h : follow above tree pieces = .ok found) :
    ∃ above', ∀ rest, follow above tree (pieces ++ rest) = follow above' found rest := by
  induction pieces generalizing above tree with
  | nil =>
    rw [follow_nil] at h
    obtain rfl := Except.ok.inj h
    exact ⟨above, fun rest => rfl⟩
  | cons piece pieces ih =>
    cases tree with
    | file bytes => exact absurd h (by simp [follow])
    | directory entries =>
      simp only [List.cons_append, follow] at h ⊢
      by_cases hidle : isIdle piece = true
      · simp only [if_pos hidle] at h ⊢
        exact ih h
      · simp only [if_neg hidle] at h ⊢
        by_cases hup : piece = ".."
        · simp only [if_pos hup] at h ⊢
          cases above with
          | nil => exact ih h
          | cons parent above => exact ih h
        · simp only [if_neg hup] at h ⊢
          cases hchild : Dict.get? entries piece with
          | none =>
            rw [hchild] at h
            exact absurd h (by simp)
          | some child =>
            rw [hchild] at h
            exact ih h

/-- Which directory a path leads to depends on its components alone. A file is not found behind a
piece that leads nowhere else. -/
theorem follow_filter_iff (above : List FileTree) (pieces : List String) :
    follow above tree pieces = .ok (directory entries) ↔
      follow above tree (pieces.filter fun piece => !isIdle piece) = .ok (directory entries) := by
  induction pieces generalizing above tree with
  | nil => simp
  | cons piece pieces ih =>
    by_cases hidle : isIdle piece = true
    · rw [List.filter_cons, if_neg (by simp [hidle])]
      cases tree with
      | file bytes =>
        constructor
        · intro h
          exact absurd h (by simp [follow])
        · intro h
          -- From a file nothing is followed, and a file is no directory.
          cases hkept : pieces.filter fun piece => !isIdle piece with
          | nil =>
            rw [hkept, follow_nil] at h
            exact absurd (Except.ok.inj h) (by simp)
          | cons first kept =>
            rw [hkept] at h
            exact absurd h (by simp [follow])
      | directory entries' =>
        simp only [follow, if_pos hidle]
        exact ih above
    · rw [List.filter_cons, if_pos (by simp [hidle])]
      cases tree with
      | file bytes => simp [follow]
      | directory entries' =>
        simp only [follow, if_neg hidle]
        by_cases hup : piece = ".."
        · simp only [if_pos hup]
          cases above with
          | nil => exact ih []
          | cons parent above => exact ih above
        · simp only [if_neg hup]
          cases Dict.get? entries' piece with
          | none => simp
          | some child => exact ih _

theorem find_eq_ok_iff :
    tree.find path = .ok found ↔ IsRelative path ∧ follow [] tree (pieces path) = .ok found := by
  rw [find, IsRelative, Ne, head?_pieces_eq_iff]
  by_cases h : path = "" ∨ path.startsWith "/" = true
  · rw [if_pos h]
    constructor
    · intro herror
      exact absurd herror (by simp)
    · intro hrelative
      exact absurd h hrelative.1
  · rw [if_neg h]
    constructor
    · intro hok
      exact ⟨h, hok⟩
    · intro hok
      exact hok.2

/-- Which directory is found at a path depends on its components alone. -/
theorem find_eq_directory_iff :
    tree.find path = .ok (directory entries) ↔
      IsRelative path ∧ follow [] tree (components path) = .ok (directory entries) := by
  rw [find_eq_ok_iff, components, ← follow_filter_iff]

/-- The directories below a directory that is found at a path are those that names lead to. -/
theorem find_of_components {files : FileTree} (hroot : files.find root = .ok (directory entries))
    {path : String} (hnames : ∀ name ∈ names, IsName name)
    (hcomponents : components path = components root ++ names) (hpath : IsRelative path)
    {entries' : List (String × FileTree)} :
    files.find path = .ok (directory entries') ↔
      (directory entries).lookup? names = some (directory entries') := by
  have hfollow := (find_eq_directory_iff.1 hroot).2
  obtain ⟨above, happend⟩ := exists_follow_append hfollow
  rw [find_eq_directory_iff, hcomponents, happend, follow_eq_ok_iff hnames]
  simp [hpath]

end FileTree

end BranchingStory.Files
