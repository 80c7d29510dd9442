import FileRoutes.Proofs.Foremost

/-!
# The search for a loading view

A page is served by the loading file of its own folder, of the nearest group
around that folder, or of the root folder.  Folders around it that are not
groups are passed over. Folders are lists of names here, the groups among them.
-/

namespace FileRoutes

/-- The folders around a folder, from the inside outwards, that are groups. -/
def enclosingGroups (folder : List String) : List (List String) :=
  folder.dropLast.inits.reverse.filter fun outer => outer.getLast?.any isGroup

/-- The folders whose loading files may serve a page in a folder: the folder
itself, then the groups around it, then the root folder. -/
def servingFolders (folder : List String) : List (List String) :=
  folder :: enclosingGroups folder ++ [[]]

theorem prefix_of_mem_servingFolders {folder names : List String}
    (member : names ∈ servingFolders folder) : names <+: folder := by
  rw [servingFolders, List.cons_append, List.mem_cons, List.mem_append,
    List.mem_singleton] at member
  rcases member with rfl | isGroup | rfl
  · exact List.prefix_rfl
  · have begins := List.mem_of_mem_filter isGroup
    rw [List.mem_reverse, List.mem_inits] at begins
    exact begins.trans (List.dropLast_prefix folder)
  · exact List.nil_prefix

/-- The view shown while a page in a folder loads: that of the foremost file of
the first serving folder that has a file. -/
def nearestLoading (rootPrefix : String) (files : List ListedFile)
    (folder : List String) :
    View :=
  (((servingFolders folder).findSome?
    (foremost? ParsedFile.folders rootPrefix files)).map View.file).getD
    (.builtin .loading)

/-! ## Keys of folders -/

theorem Key.lastName_joinSlash (names : List String) {name : String}
    (valid : Text.IsName name) :
    lastName (Text.joinSlash (names ++ [name])) = name := by
  have plain :
      ∀ character ∈ name.toList.reverse, (!Text.isSlash character) = true := by
    intro character member
    simp [valid.2 character (List.mem_reverse.mp member)]
  have lastCharacters :
      (Text.joinSlash (names ++ [name])).toList.reverse.takeWhile
        (fun character => !Text.isSlash character) = name.toList.reverse := by
    by_cases alone : names = []
    · rw [alone, List.nil_append, Text.joinSlash_singleton,
        List.takeWhile_eq_self_iff]
      exact plain
    · rw [Text.joinSlash_append_singleton alone, List.reverse_append,
        List.reverse_cons, List.append_assoc,
        List.takeWhile_append_of_pos plain]
      exact List.append_nil _
  rw [lastName, lastCharacters, List.reverse_reverse, String.ofList_toList]

/-- The key of a folder ends in the name of a group when the folder is one. -/
theorem isGroup_lastName_joinSlash {names : List String}
    (valid : ∀ name ∈ names, Text.IsName name) :
    isGroup (Key.lastName (Text.joinSlash names)) =
      names.getLast?.any isGroup := by
  cases names using List.reverseRecOn with
  | nil => rfl
  | append_singleton names name =>
    rw [Key.lastName_joinSlash names (valid name (by simp)),
      List.getLast?_concat, Option.any_some]

/-- The keys of the search are those of the folder and of the groups around
it. -/
theorem ViewIndex.loadingKeys_joinSlash {folder : List String}
    (valid : ∀ name ∈ folder, Text.IsName name) :
    loadingKeys (Text.joinSlash folder) =
      (folder :: enclosingGroups folder).map Text.joinSlash := by
  rw [loadingKeys, Key.ancestors_joinSlash valid, enclosingGroups]
  cases folder using List.reverseRecOn with
  | nil => rfl
  | append_singleton outer name =>
    have groups : (outer.inits.reverse.map Text.joinSlash).filter
          (fun key => isGroup (Key.lastName key)) =
        (outer.inits.reverse.filter fun above => above.getLast?.any isGroup).map
          Text.joinSlash := by
      rw [List.filter_map]
      apply congrArg (List.map Text.joinSlash)
      apply List.filter_congr
      intro above member
      have begins :=
        (List.mem_inits above outer).mp (List.mem_reverse.mp member)
      rw [Function.comp_apply, isGroup_lastName_joinSlash fun name inside =>
        valid name (List.mem_append_left _ (begins.subset inside))]
    simp only [List.inits_append, List.reverse_append, List.dropLast_concat,
      List.map_cons]
    exact congrArg _ groups

/-! ## The search -/

/-- The loading view of a file is the nearest one: the search through keys is
the search through folders.  The file that stands for a folder is listed ahead
of, or ranked before, every other file in it. -/
theorem findLoading_eq_nearest (rootPrefix : String) (files : List ListedFile) :
    (∀ id, (ViewIndex.byFolder rootPrefix files).2.findLoading
        (ParsedFile.parse rootPrefix id) =
      nearestLoading rootPrefix files (ParsedFile.parse rootPrefix id).folders) ∧
    ∀ folder file,
      foremost? ParsedFile.folders rootPrefix files folder = some file ↔
      ∃ front back, files = front ++ file :: back ∧
        (ParsedFile.parse rootPrefix file.id).folders = folder ∧
        (∀ other ∈ front,
          (ParsedFile.parse rootPrefix other.id).folders = folder ->
          (ParsedFile.parse rootPrefix file.id).rank <
            (ParsedFile.parse rootPrefix other.id).rank) ∧
        ∀ other ∈ back,
          (ParsedFile.parse rootPrefix other.id).folders = folder ->
          (ParsedFile.parse rootPrefix file.id).rank ≤
            (ParsedFile.parse rootPrefix other.id).rank := by
  refine ⟨fun id => ?_, fun _ _ => foremost_eq_some_iff⟩
  generalize isFolder : (ParsedFile.parse rootPrefix id).folders = folder
  have valid : ∀ name ∈ folder, Text.IsName name :=
    fun name member => ParsedFile.isName_of_mem_folders (isFolder ▸ member)
  let index := (ViewIndex.byFolder rootPrefix files).2
  have byNames :
      ((servingFolders folder).map Text.joinSlash).findSome? index.get? =
        ((servingFolders folder).findSome?
          (foremost? ParsedFile.folders rootPrefix files)).map View.file :=
    findSome_build_joinSlash (fun _ _ => ParsedFile.isName_of_mem_folders)
      fun names member name inside =>
        valid name ((prefix_of_mem_servingFolders member).subset inside)
  have byKeys :
      ((ViewIndex.loadingKeys (Text.joinSlash folder)).findSome? index.get?).or
          (index.get? "") =
      ((servingFolders folder).map Text.joinSlash).findSome? index.get? := by
    rw [ViewIndex.loadingKeys_joinSlash valid, servingFolders, List.map_append,
      List.findSome?_append, List.map_singleton, List.findSome?_singleton]
    rfl
  rw [ViewIndex.findLoading, ParsedFile.folderKey, isFolder, byKeys, byNames,
    nearestLoading]

/-- The plain folder in between is passed over. -/
example : servingFolders ["(shop)", "cart", "(steps)", "pay"] =
    [["(shop)", "cart", "(steps)", "pay"], ["(shop)", "cart", "(steps)"],
      ["(shop)"], []] := by
  decide +kernel

end FileRoutes
