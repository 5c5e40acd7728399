import BranchingStory.Case.Directory
import BranchingStory.Proofs.FilePaths
import BranchingStory.Proofs.Listing
import Mathlib

/-!
# The search for test cases

A search lists the directories below a root that hold a test case. The files are visited in the
order of their names, directories among them, so the paths of the test cases increase
(`pairwise_filesBelow`), and each directory is listed once, at the place of its test case.

This is not the order of the directories themselves. A directory stands before what lies in it, but
the test case in it stands behind those in subdirectories whose names come before its own name. The
listed directories increase exactly if there is no such subdirectory with a test case in it
(`caseDirectories_lists`), and there may be one (`not_increasing_of_nested`).
-/

namespace BranchingStory

namespace Files

open Files.Path

/-! ## Trees with proper names -/

/-- In every directory the names are proper and increase. -/
inductive FileTree.WellFormed : FileTree → Prop
  /-- There is no directory in a file. -/
  | file (bytes : ByteArray) : WellFormed (file bytes)
  /-- The entries of a directory, and those of all directories below. -/
  | directory {entries : List (String × FileTree)} (ordered : Dict.Ordered entries)
    (named : ∀ entry ∈ entries, IsName entry.1) (below : ∀ entry ∈ entries, WellFormed entry.2) :
    WellFormed (directory entries)

namespace FileTree

variable {tree found : FileTree} {path file : String} {names : List String} {bytes : ByteArray}

theorem WellFormed.isName_of_lookup? (hw : tree.WellFormed)
    (h : tree.lookup? names = some found) : ∀ name ∈ names, IsName name := by
  induction names generalizing tree with
  | nil => simp
  | cons name rest ih =>
    cases hw with
    | file bytes => exact absurd h (by simp [lookup?])
    | @directory entries _ named below =>
      rw [lookup?] at h
      cases hchild : Dict.get? entries name with
      | none =>
        rw [hchild] at h
        exact absurd h (by simp)
      | some child =>
        rw [hchild] at h
        have hmem := Dict.mem_of_get? hchild
        exact List.forall_mem_cons.2 ⟨named _ hmem, ih (below _ hmem) h⟩

/-! ## Listing files -/

theorem filesAmong_eq_flatMap (path : String) (entries : List (String × FileTree)) :
    filesAmong path entries =
      entries.flatMap fun entry => filesBelow (join path entry.1) entry.2 := by
  induction entries with
  | nil => rfl
  | cons entry rest ih => rw [filesAmong, ih, List.flatMap_cons]

/-- The files that are listed are those that names lead to, each at the path joined with them. -/
theorem WellFormed.mem_filesBelow_iff (hw : tree.WellFormed) :
    (file, bytes) ∈ filesBelow path tree ↔
      ∃ names, file = names.foldl join path ∧ tree.lookup? names = some (.file bytes) := by
  induction hw generalizing path with
  | file found =>
    rw [filesBelow, List.mem_singleton, Prod.mk.injEq]
    constructor
    · rintro ⟨rfl, rfl⟩
      exact ⟨[], rfl, by rw [lookup?]⟩
    · rintro ⟨names, rfl, hlookup⟩
      cases names with
      | nil =>
        rw [lookup?] at hlookup
        exact ⟨rfl, (FileTree.file.inj (Option.some.inj hlookup)).symm⟩
      | cons name rest => exact absurd hlookup (by simp [lookup?])
  | @directory entries ordered _ _ ih =>
    rw [filesBelow, filesAmong_eq_flatMap, List.mem_flatMap]
    constructor
    · rintro ⟨⟨name, child⟩, hentry, hfile⟩
      obtain ⟨names, rfl, hlookup⟩ := (ih _ hentry).1 hfile
      refine ⟨name :: names, rfl, ?_⟩
      rw [lookup?, ordered.get?_of_mem hentry]
      exact hlookup
    · rintro ⟨names, rfl, hlookup⟩
      cases names with
      | nil => exact absurd hlookup (by simp [lookup?])
      | cons name names =>
        rw [lookup?] at hlookup
        cases hchild : Dict.get? entries name with
        | none =>
          rw [hchild] at hlookup
          exact absurd hlookup (by simp)
        | some child =>
          rw [hchild] at hlookup
          have hentry := Dict.mem_of_get? hchild
          exact ⟨(name, child), hentry, (ih _ hentry).2 ⟨names, rfl, hlookup⟩⟩

theorem WellFormed.components_of_mem (hw : tree.WellFormed) {listed : String × ByteArray}
    (h : listed ∈ filesBelow path tree) :
    ∃ names, components listed.1 = components path ++ names := by
  obtain ⟨names, hfile, hlookup⟩ := hw.mem_filesBelow_iff.1 h
  exact ⟨names, by rw [hfile, components_foldl_join (hw.isName_of_lookup? hlookup)]⟩

-- Below two entries of a directory the components first differ at the names of the entries.
theorem WellFormed.pairwise_filesBelow (hw : tree.WellFormed) (path : String) :
    (filesBelow path tree).Pairwise fun a b => components a.1 < components b.1 := by
  induction hw generalizing path with
  | file found =>
    rw [filesBelow]
    exact List.pairwise_singleton _ _
  | @directory entries ordered named below ih =>
    rw [filesBelow, filesAmong_eq_flatMap, List.pairwise_flatMap]
    refine ⟨fun entry hentry => ih entry hentry _, ?_⟩
    refine ordered.imp_of_mem ?_
    intro first second hfirst hsecond hlt a ha b hb
    obtain ⟨resta, hresta⟩ := (below first hfirst).components_of_mem ha
    obtain ⟨restb, hrestb⟩ := (below second hsecond).components_of_mem hb
    rw [hresta, hrestb, components_join (named first hfirst),
      components_join (named second hsecond), List.append_assoc, List.append_assoc]
    exact List.append_left_lt (List.cons_lt_cons_iff.2 (.inl hlt))

/-- Putting something under proper names keeps a tree one with proper names. -/
theorem WellFormed.put {content : FileTree} (hcontent : content.WellFormed)
    (hnames : ∀ name ∈ names, IsName name) (hw : tree.WellFormed) :
    (put content names tree).WellFormed := by
  have hempty : (FileTree.directory []).WellFormed :=
    .directory Dict.ordered_nil (by simp) (by simp)
  induction names generalizing tree with
  | nil =>
    cases tree <;> exact hcontent
  | cons name rest ih =>
    obtain ⟨hname, hrest⟩ := List.forall_mem_cons.1 hnames
    cases hw with
    | file bytes =>
      rw [FileTree.put]
      refine .directory (List.pairwise_singleton _ _) ?_ ?_
      · exact List.forall_mem_singleton.2 hname
      · exact List.forall_mem_singleton.2 (ih hrest hempty)
    | @directory entries ordered named below =>
      have hinner : ((Dict.get? entries name).getD (FileTree.directory [])).WellFormed := by
        cases hchild : Dict.get? entries name with
        | none => exact hempty
        | some child => exact below _ (Dict.mem_of_get? hchild)
      rw [FileTree.put]
      refine .directory (ordered.insert _ _) ?_ ?_
      · intro entry hentry
        rcases Dict.eq_or_mem_of_mem_insert hentry with rfl | hold
        · exact hname
        · exact named entry hold
      · intro entry hentry
        rcases Dict.eq_or_mem_of_mem_insert hentry with rfl | hold
        · exact ih hrest hinner
        · exact below entry hold

end FileTree

/-! ## The order of paths -/

namespace Path

/-- A path stands before another one if its components do, compared one after the other by their
bytes. -/
def Precedes (path other : String) : Prop :=
  (components path).map Text.bytes < (components other).map Text.bytes

instance (path other : String) : Decidable (Precedes path other) :=
  inferInstanceAs (Decidable (_ < _))

theorem precedes_iff {path other : String} :
    Precedes path other ↔ components path < components other :=
  NodeTree.map_bytes_lt_iff

/-- A path leads to where another one leads, or by names from there to something below. -/
def IsWithin (root path : String) : Prop :=
  ∃ names, (∀ name ∈ names, IsName name) ∧ components path = components root ++ names

/-- With the same name behind both, the greater of two paths can only come first if it leads below
the other one by a name that comes before that name. -/
theorem lt_or_exists_of_concat_lt {first second : List String} {last : String}
    (h : first ++ [last] < second ++ [last]) :
    first < second ∨ ∃ name rest, first = second ++ name :: rest ∧ name < last := by
  induction first generalizing second with
  | nil =>
    cases second with
    | nil => exact absurd h (List.lt_irrefl _)
    | cons other second => exact .inl (List.nil_lt_cons other second)
  | cons name first ih =>
    cases second with
    | nil =>
      rcases List.cons_lt_cons_iff.1 h with hlt | ⟨-, hnil⟩
      · exact .inr ⟨name, first, rfl, hlt⟩
      · exact absurd hnil (List.not_lt_nil _)
    | cons other second =>
      rcases List.cons_lt_cons_iff.1 h with hlt | ⟨rfl, hrest⟩
      · exact .inl (List.cons_lt_cons_iff.2 (.inl hlt))
      · rcases ih hrest with hlt | ⟨next, rest, rfl, hlt⟩
        · exact .inl (List.cons_lt_cons_iff.2 (.inr ⟨rfl, hlt⟩))
        · exact .inr ⟨next, rest, rfl, hlt⟩

end Path

end Files

namespace Case

open Files Files.Path

variable {files tree : FileTree} {root path file : String} {names rest : List String}
  {entries : List (String × FileTree)}

/-! ## Test cases in a tree -/

theorem isName_fileName : IsName TestCase.fileName := by
  decide

/-- There is a directory with a test case at a path. -/
def HoldsCase (files : FileTree) (path : String) : Prop :=
  ∃ entries bytes, files.find path = .ok (.directory entries) ∧
    Dict.get? entries TestCase.fileName = some (.file bytes)

/-- Names lead from a tree to a directory with a test case. -/
def CaseAt (tree : FileTree) (names : List String) : Prop :=
  ∃ entries bytes, tree.lookup? names = some (.directory entries) ∧
    Dict.get? entries TestCase.fileName = some (.file bytes)

/-- The path of the test case in the directory that names lead to. -/
def caseFile (root : String) (names : List String) : String :=
  join (names.foldl join root) TestCase.fileName

theorem caseAt_iff : CaseAt tree names ↔
    ∃ bytes, tree.lookup? (names ++ [TestCase.fileName]) = some (.file bytes) := by
  rw [CaseAt, FileTree.lookup?_append]
  cases tree.lookup? names with
  | none => simp
  | some found =>
    cases found with
    | file bytes => simp [FileTree.lookup?]
    | directory entries =>
      cases hcase : Dict.get? entries TestCase.fileName with
      | none => simp [FileTree.lookup?, hcase]
      | some child => simp [FileTree.lookup?, hcase]

/-- Below the place of a test case there is nothing. -/
theorem CaseAt.ne_fileName (h : CaseAt tree names) {name : String}
    (hbelow : CaseAt tree (names ++ name :: rest)) : name ≠ TestCase.fileName := by
  rintro rfl
  obtain ⟨bytes, hfile⟩ := caseAt_iff.1 h
  obtain ⟨entries, -, hdirectory, -⟩ := hbelow
  rw [← List.singleton_append, ← List.append_assoc, FileTree.lookup?_append, hfile,
    Option.bind_some] at hdirectory
  cases rest with
  | nil => exact absurd hdirectory (by simp [FileTree.lookup?])
  | cons next rest => exact absurd hdirectory (by simp [FileTree.lookup?])

theorem holdsCase_iff (hroot : files.find root = .ok (.directory entries))
    (hnames : ∀ name ∈ names, IsName name)
    (hcomponents : components path = components root ++ names) (hpath : IsRelative path) :
    HoldsCase files path ↔ CaseAt (.directory entries) names := by
  simp only [HoldsCase, CaseAt, FileTree.find_of_components hroot hnames hcomponents hpath]

/-! ## The search -/

/-- The test cases that a search comes to are those that names lead to. -/
theorem mem_caseFiles_iff (hw : (FileTree.directory entries).WellFormed) :
    file ∈ ((FileTree.directory entries).filePaths root).filter
        (fun file => name? file = some TestCase.fileName) ↔
      ∃ names, CaseAt (.directory entries) names ∧ file = caseFile root names := by
  rw [List.mem_filter, FileTree.filePaths, List.mem_map]
  constructor
  · rintro ⟨⟨⟨_, bytes⟩, hlisted, rfl⟩, hname⟩
    obtain ⟨all, rfl, hlookup⟩ := hw.mem_filesBelow_iff.1 hlisted
    rcases List.eq_nil_or_concat all with rfl | ⟨names, last, rfl⟩
    · exact absurd hlookup (by simp [FileTree.lookup?])
    · rw [List.concat_eq_append] at hlookup hname ⊢
      have hlast : IsName last := hw.isName_of_lookup? hlookup last (by simp)
      rw [List.foldl_append, List.foldl_cons, List.foldl_nil, name?_join hlast] at hname
      obtain rfl : last = TestCase.fileName := by simpa using hname
      refine ⟨names, caseAt_iff.2 ⟨bytes, hlookup⟩, ?_⟩
      rw [List.foldl_append, List.foldl_cons, List.foldl_nil, caseFile]
  · rintro ⟨names, hcase, rfl⟩
    obtain ⟨bytes, hlookup⟩ := caseAt_iff.1 hcase
    have hpath : caseFile root names = (names ++ [TestCase.fileName]).foldl join root := by
      rw [List.foldl_append, List.foldl_cons, List.foldl_nil, caseFile]
    refine ⟨⟨(caseFile root names, bytes), hw.mem_filesBelow_iff.2 ⟨_, hpath, hlookup⟩, rfl⟩, ?_⟩
    have hname := name?_join isName_fileName (names.foldl join root)
    exact decide_eq_true hname

theorem caseDirectories_eq (hroot : files.find root = .ok tree) :
    caseDirectories files root = .ok (((tree.filePaths root).filter fun file =>
      name? file = some TestCase.fileName).map parent) := by
  rw [caseDirectories, hroot]
  rfl

theorem isName_of_caseAt (hw : tree.WellFormed) (h : CaseAt tree names) :
    ∀ name ∈ names, IsName name := by
  obtain ⟨entries, -, hlookup, -⟩ := h
  exact hw.isName_of_lookup? hlookup

theorem isRelative_parent_caseFile (hroot : IsRelative root) (names : List String) :
    IsRelative (parent (caseFile root names)) :=
  isRelative_parent_join isName_fileName (isRelative_foldl_join names hroot)

/-- The directory of a test case is the one that the names lead to. -/
theorem components_parent_caseFile (hroot : IsRelative root)
    (hnames : ∀ name ∈ names, IsName name) :
    components (parent (caseFile root names)) = components root ++ names := by
  rw [caseFile, components_parent_join isName_fileName (isRelative_foldl_join names hroot),
    components_foldl_join hnames]

/-- The path of a test case is that of its directory with the name of test cases. -/
theorem components_caseFile (hroot : IsRelative root) (hnames : ∀ name ∈ names, IsName name) :
    components (caseFile root names) =
      components (join (parent (caseFile root names)) TestCase.fileName) := by
  rw [components_join isName_fileName, components_parent_caseFile hroot hnames, caseFile,
    components_join isName_fileName, components_foldl_join hnames]

/-- A list of directories is what a search below a root finds: the directories with a test case in
them, each once, in the order of the paths of their test cases. -/
structure ListsCases (files : FileTree) (root : String) (directories : List String) : Prop where
  holds : ∀ directory ∈ directories, IsWithin root directory ∧ HoldsCase files directory
  listed : ∀ directory, IsWithin root directory → HoldsCase files directory →
    ∃ found ∈ directories, components found = components directory
  once : (directories.map components).Nodup
  ordered : directories.Pairwise fun first second =>
    Precedes (join first TestCase.fileName) (join second TestCase.fileName)
  /-- The directories increase as well if no test case lies in a subdirectory of one of them whose
  name comes before that of the test case, and only then. -/
  increasing_iff : directories.Pairwise Precedes ↔
    ∀ upper ∈ directories, ∀ lower ∈ directories, ∀ name rest,
      components lower = components upper ++ name :: rest → TestCase.fileName < name

theorem precedes_join_iff {first second : String} :
    Precedes (join first TestCase.fileName) (join second TestCase.fileName) ↔
      components first ++ [TestCase.fileName] < components second ++ [TestCase.fileName] := by
  rw [precedes_iff, components_join isName_fileName, components_join isName_fileName]

/-- A test case in a subdirectory comes first if the name of the subdirectory does. -/
theorem concat_lt_concat_of_lt {upper lower : List String} {name : String}
    (hlower : lower = upper ++ name :: rest) (hlt : name < TestCase.fileName) :
    lower ++ [TestCase.fileName] < upper ++ [TestCase.fileName] := by
  rw [hlower, List.append_assoc]
  exact List.append_left_lt (List.cons_lt_cons_iff.2 (.inl hlt))

theorem lt_append_cons (upper : List String) (name : String) (rest : List String) :
    upper < upper ++ name :: rest := by
  have happend : upper ++ [] < upper ++ name :: rest :=
    List.append_left_lt (List.nil_lt_cons name rest)
  rwa [List.append_nil] at happend

/-- If directories are listed in the order of their test cases, they increase exactly if none of
them has a test case in a subdirectory that comes before its own. -/
theorem pairwise_precedes_iff {directories : List String}
    (hordered : directories.Pairwise fun first second =>
      Precedes (join first TestCase.fileName) (join second TestCase.fileName))
    (hname : ∀ upper ∈ directories, ∀ lower ∈ directories, ∀ name rest,
      components lower = components upper ++ name :: rest → name ≠ TestCase.fileName) :
    directories.Pairwise Precedes ↔
      ∀ upper ∈ directories, ∀ lower ∈ directories, ∀ name rest,
        components lower = components upper ++ name :: rest → TestCase.fileName < name := by
  constructor
  · intro hincreasing upper hupper lower hlower name rest hcomponents
    rcases Std.lt_trichotomy TestCase.fileName name with hlt | heq | hgt
    · exact hlt
    · exact absurd heq.symm (hname upper hupper lower hlower name rest hcomponents)
    -- The lower directory is listed before the upper one, but it is the greater path.
    · have hbelow : components upper < components lower := by
        rw [hcomponents]
        exact lt_append_cons _ _ _
      have hcases := concat_lt_concat_of_lt hcomponents hgt
      obtain ⟨i, hi, rfl⟩ := List.getElem_of_mem hupper
      obtain ⟨j, hj, rfl⟩ := List.getElem_of_mem hlower
      rcases Nat.lt_trichotomy i j with hij | rfl | hji
      · have hfirst := List.pairwise_iff_getElem.1 hordered i j hi hj hij
        exact absurd (precedes_join_iff.1 hfirst) (List.lt_asymm hcases)
      · exact absurd hbelow (List.lt_irrefl _)
      · have hfirst := List.pairwise_iff_getElem.1 hincreasing j i hj hi hji
        exact absurd (precedes_iff.1 hfirst) (List.lt_asymm hbelow)
  · intro hlater
    refine hordered.imp_of_mem ?_
    intro first second hfirst hsecond hlt
    rcases lt_or_exists_of_concat_lt (precedes_join_iff.1 hlt) with
      hless | ⟨name, rest, heq, hbefore⟩
    · exact precedes_iff.2 hless
    · have hafter := hlater second hsecond first hfirst name rest heq
      exact absurd hafter (String.lt_asymm hbefore)

/-- The search below a directory finds the directories with a test case in them. -/
theorem caseDirectories_lists (hroot : files.find root = .ok (.directory entries))
    (hw : (FileTree.directory entries).WellFormed) :
    ∃ directories, caseDirectories files root = .ok directories ∧
      ListsCases files root directories := by
  have hrelative := (FileTree.find_eq_directory_iff.1 hroot).1
  refine ⟨_, caseDirectories_eq hroot, ?_⟩
  generalize hfiles : ((FileTree.directory entries).filePaths root).filter
    (fun file => name? file = some TestCase.fileName) = caseFiles
  have hmem : ∀ file ∈ caseFiles, ∃ names, CaseAt (.directory entries) names ∧
      file = caseFile root names := by
    intro file hfile
    exact (mem_caseFiles_iff hw).1 (hfiles ▸ hfile)
  have hdirectory : ∀ directory ∈ caseFiles.map parent, ∃ names,
      CaseAt (.directory entries) names ∧ IsRelative directory ∧
        components directory = components root ++ names := by
    intro directory hin
    obtain ⟨file, hfile, rfl⟩ := List.mem_map.1 hin
    obtain ⟨names, hcase, rfl⟩ := hmem file hfile
    exact ⟨names, hcase, isRelative_parent_caseFile hrelative names,
      components_parent_caseFile hrelative (isName_of_caseAt hw hcase)⟩
  have hordered : (caseFiles.map parent).Pairwise fun first second =>
      Precedes (join first TestCase.fileName) (join second TestCase.fileName) := by
    have hlisted : ((FileTree.directory entries).filePaths root).Pairwise fun a b =>
        components a < components b := List.pairwise_map.2 (hw.pairwise_filesBelow root)
    have hcases : caseFiles.Pairwise fun a b => components a < components b :=
      hfiles ▸ hlisted.filter _
    refine List.pairwise_map.2 (hcases.imp_of_mem ?_)
    intro first second hfirst hsecond hlt
    obtain ⟨names, hcase, rfl⟩ := hmem first hfirst
    obtain ⟨names', hcase', rfl⟩ := hmem second hsecond
    rw [precedes_iff, ← components_caseFile hrelative (isName_of_caseAt hw hcase),
      ← components_caseFile hrelative (isName_of_caseAt hw hcase')]
    exact hlt
  refine ⟨?_, ?_, ?_, hordered, pairwise_precedes_iff hordered ?_⟩
  · intro directory hin
    obtain ⟨names, hcase, hrel, hcomponents⟩ := hdirectory directory hin
    have hnames := isName_of_caseAt hw hcase
    exact ⟨⟨names, hnames, hcomponents⟩, (holdsCase_iff hroot hnames hcomponents hrel).2 hcase⟩
  · rintro directory ⟨names, hnames, hcomponents⟩ hholds
    have hrel : IsRelative directory := by
      obtain ⟨entries', -, hfind, -⟩ := hholds
      exact (FileTree.find_eq_directory_iff.1 hfind).1
    have hcase := (holdsCase_iff hroot hnames hcomponents hrel).1 hholds
    have hin : caseFile root names ∈ caseFiles :=
      hfiles ▸ (mem_caseFiles_iff hw).2 ⟨names, hcase, rfl⟩
    refine ⟨_, List.mem_map_of_mem hin, ?_⟩
    rw [components_parent_caseFile hrelative hnames, hcomponents]
  · refine List.pairwise_map.2 (hordered.imp ?_)
    intro first second hlt heq
    rw [precedes_join_iff, heq] at hlt
    exact List.lt_irrefl _ hlt
  · intro upper hupper lower hlower name rest hbelow
    obtain ⟨names, hcase, -, hcomponents⟩ := hdirectory upper hupper
    obtain ⟨names', hcase', -, hcomponents'⟩ := hdirectory lower hlower
    rw [hcomponents, hcomponents', List.append_assoc, List.append_cancel_left_eq] at hbelow
    exact hcase.ne_fileName (hbelow ▸ hcase')

/-- What is in a directory with a test case and a subdirectory, whose name comes before that of the
test case, with another one. -/
def nestedEntries : List (String × FileTree) :=
  [("A", .directory [(TestCase.fileName, .file ByteArray.empty)]),
    (TestCase.fileName, .file ByteArray.empty)]

/-- The files with this directory. -/
def nestedFiles : FileTree :=
  .directory [("r", .directory nestedEntries)]

theorem find_nestedFiles : nestedFiles.find "r" = .ok (.directory nestedEntries) := by
  cbv

theorem wellFormed_nestedEntries : (FileTree.directory nestedEntries).WellFormed := by
  have hcase : (FileTree.file ByteArray.empty).WellFormed := .file _
  have hput : FileTree.put (.file ByteArray.empty) [TestCase.fileName]
      (FileTree.put (.file ByteArray.empty) ["A", TestCase.fileName] (.directory [])) =
        .directory nestedEntries := by
    cbv
  rw [← hput]
  refine hcase.put (by decide) (hcase.put (by decide) ?_)
  exact .directory Dict.ordered_nil (by simp) (by simp)

theorem caseDirectories_nestedFiles :
    caseDirectories nestedFiles "r" = .ok ["r/A", "r"] := by
  cbv

/-- Both directories are found, in the order of their test cases. -/
theorem caseDirectories_lists_of_nested :
    nestedFiles.find "r" = .ok (.directory nestedEntries) ∧
      (FileTree.directory nestedEntries).WellFormed ∧
      ListsCases nestedFiles "r" ["r/A", "r"] := by
  refine ⟨find_nestedFiles, wellFormed_nestedEntries, ?_⟩
  obtain ⟨directories, hfound, hlists⟩ :=
    caseDirectories_lists find_nestedFiles wellFormed_nestedEntries
  rw [caseDirectories_nestedFiles] at hfound
  obtain rfl := Except.ok.inj hfound
  exact hlists

/-- The directory is found after its subdirectory, so what is found does not increase. -/
theorem not_increasing_of_nested :
    ∃ directories, caseDirectories nestedFiles "r" = .ok directories ∧
      ¬directories.Pairwise Precedes :=
  ⟨["r/A", "r"], caseDirectories_nestedFiles, by decide⟩

end Case

end BranchingStory
