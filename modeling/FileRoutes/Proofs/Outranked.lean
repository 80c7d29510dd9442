import FileRoutes.Proofs.Foremost
import Mathlib.Data.List.Dedup
import Mathlib.Data.List.Perm.Basic

/-!
# Views that lose their key

Of the files that share a key the foremost one holds it, and each of the others
is named once in a warning, no matter in which order they arrive and displace
each other.
-/

namespace FileRoutes

/-- The identifier that a warning names as ignored for another view. -/
def Event.outranked? : Event -> Option String
  | viewIgnored ignored _ _ => some ignored
  | _ => none

namespace ViewIndex

/-- The keys of an index. -/
def keys (index : ViewIndex) : List String :=
  index.entries.map Prod.fst

/-- The views of an index. -/
def views (index : ViewIndex) : List View :=
  index.entries.map fun entry => entry.2.view

/-- A key has no entry exactly if it is not among the keys. -/
theorem lookup_eq_none_iff {index : ViewIndex} {key : String} :
    index.entries.lookup key = none ↔ key ∉ index.keys := by
  rw [List.lookup_eq_none_iff, keys, List.mem_map]
  constructor
  · rintro apart ⟨entry, member, rfl⟩
    simpa using apart entry member
  · intro missing entry member
    rw [bne_iff_ne]
    rintro rfl
    exact missing ⟨entry, member, rfl⟩

/-- In an index that has each key once, every entry is found under its key. -/
theorem lookup_of_mem {index : ViewIndex} (distinct : index.keys.Nodup)
    {key : String} {holder : RankedView}
    (member : (key, holder) ∈ index.entries) :
    index.entries.lookup key = some holder := by
  obtain ⟨front, back, isSplit⟩ := List.append_of_mem member
  refine List.lookup_eq_some_iff.mpr ⟨front, back, isSplit,
    fun entry inFront => ?_⟩
  rw [keys, isSplit, List.map_append, List.map_cons, List.nodup_append]
    at distinct
  have apart :=
    distinct.2.2 entry.1 (List.mem_map_of_mem inFront) key List.mem_cons_self
  exact bne_iff_ne.mpr fun same => apart same.symm

/-- A view that is put in place of another leaves the other entries as they
are. -/
theorem exists_split_replace {index : ViewIndex} (distinct : index.keys.Nodup)
    {key : String} {holder : RankedView}
    (found : index.entries.lookup key = some holder) (candidate : RankedView) :
    ∃ front back, index.entries = front ++ (key, holder) :: back ∧
      (index.replace key candidate).entries =
        front ++ (key, candidate) :: back := by
  obtain ⟨front, back, isSplit, frontApart⟩ := List.lookup_eq_some_iff.mp found
  refine ⟨front, back, isSplit, ?_⟩
  rw [keys, isSplit, List.map_append, List.map_cons, List.nodup_append,
    List.nodup_cons]
    at distinct
  have kept {entries : List (String × RankedView)}
      (apart : ∀ entry ∈ entries, entry.1 ≠ key) :
      entries.map (fun entry => if entry.1 = key then (key, candidate)
                                else entry) = entries :=
    (List.map_congr_left fun entry member => if_neg (apart entry member)).trans
      (List.map_id _)
  rw [replace, isSplit, List.map_append, List.map_cons, if_pos rfl, kept, kept]
  · intro entry member same
    exact distinct.2.1.1 (List.mem_map.mpr ⟨entry, member, same⟩)
  · intro entry member same
    exact bne_iff_ne.mp (frontApart entry member) same.symm

/-! ## Registering files -/

section Build

variable {keyOf : ParsedFile -> String} {rootPrefix : String}
  {files : List ListedFile} {file : ListedFile}

theorem log_build_append :
    (build keyOf rootPrefix (files ++ [file])).1 =
      (build keyOf rootPrefix files).1 ++
        ((build keyOf rootPrefix files).2.register
          (keyOf (ParsedFile.parse rootPrefix file.id))
            (ranked rootPrefix file)).1 := by
  rw [build, List.foldl_append, ← build, List.foldl_cons,
    List.foldl_nil, ranked]

/-- What an index has registered: the files that hold a key, and the others,
each of which was named in a warning. -/
structure Registered (files : List ListedFile) (log : List Event)
    (index : ViewIndex) (losers : List ListedFile) : Prop where
  distinct : index.keys.Nodup
  log_eq : log.filterMap Event.outranked? = losers.map ListedFile.id
  perm : (losers.map View.file ++ index.views).Perm (files.map View.file)

/-- Registering one more file keeps the account of winners and losers. -/
theorem Registered.register {log : List Event} {index : ViewIndex}
    {losers : List ListedFile} (registered : Registered files log index losers)
    (key : String) (rank : Precedence) :
    ∃ losers, Registered (files ++ [file])
      (log ++ (index.register key ⟨rank, .file file⟩).1)
      (index.register key ⟨rank, .file file⟩).2 losers := by
  have perm := registered.perm
  rw [ViewIndex.register]
  cases found : index.entries.lookup key with
  | none =>
    refine ⟨losers, ?_, ?_, ?_⟩
    · rw [keys, List.map_append, ← keys, List.map_singleton,
        ← List.concat_eq_append]
      exact registered.distinct.concat (lookup_eq_none_iff.mp found)
    · rw [List.append_nil, registered.log_eq]
    · rw [views, List.map_append, ← views, ← List.append_assoc, List.map_append]
      exact perm.append_right _
  | some holder =>
    obtain ⟨front, back, isSplit, isReplaced⟩ :=
      exists_split_replace registered.distinct found ⟨rank, .file file⟩
    have isView : holder.view ∈ files.map View.file := by
      apply perm.subset
      rw [views, isSplit, List.map_append, List.map_cons]
      simp
    obtain ⟨loser, _, isLoser⟩ := List.mem_map.mp isView
    dsimp only
    split
    · refine ⟨losers ++ [loser], ?_, ?_, ?_⟩
      · have sameKeys :
            (index.replace key ⟨rank, .file file⟩).keys = index.keys := by
          rw [keys, keys, isReplaced, isSplit, List.map_append, List.map_append,
            List.map_cons, List.map_cons]
        rw [sameKeys]
        exact registered.distinct
      · rw [List.filterMap_append, registered.log_eq,
          List.map_append, ← isLoser]
        rfl
      · rw [views, isSplit] at perm
        rw [views, isReplaced]
        rw [List.perm_iff_count] at perm ⊢
        intro view
        have count := perm view
        simp only [List.map_append, List.map_cons, List.map_nil,
          List.count_append, List.count_cons, isLoser] at count ⊢
        omega
    · refine ⟨losers ++ [file], registered.distinct, ?_, ?_⟩
      · rw [List.filterMap_append, registered.log_eq, List.map_append]
        rfl
      · rw [List.perm_iff_count] at perm ⊢
        intro view
        have count := perm view
        simp only [List.map_append, List.count_append] at count ⊢
        omega

theorem exists_registered (keyOf : ParsedFile -> String) (rootPrefix : String)
    (files : List ListedFile) :
    ∃ losers, Registered files (build keyOf rootPrefix files).1
      (build keyOf rootPrefix files).2 losers := by
  induction files using List.reverseRecOn with
  | nil => exact ⟨[], List.nodup_nil, rfl, .refl _⟩
  | append_singleton files file step =>
    obtain ⟨losers, registered⟩ := step
    rw [log_build_append, build_append, ranked]
    exact registered.register _ _

end Build

/-! ## The files without a key -/

section Losers

variable (keyOf : ParsedFile -> String) (rootPrefix : String)
  (files : List ListedFile)

/-- The files that are not the foremost one of their key. -/
def outranked : List ListedFile :=
  files.filter fun file =>
    foremost? keyOf rootPrefix files
      (keyOf (ParsedFile.parse rootPrefix file.id)) ≠ some file

theorem hasKey_of_foremost {key : String} {file : ListedFile}
    (isForemost : foremost? keyOf rootPrefix files key = some file) :
    file ∈ files ∧ keyOf (ParsedFile.parse rootPrefix file.id) = key := by
  have member := List.mem_filter.mp (List.argmin_mem isForemost)
  exact ⟨member.1, of_decide_eq_true member.2⟩

/-- The foremost files, and no others, are in the index. -/
theorem mem_views_build_iff {file : ListedFile} :
    .file file ∈ (build keyOf rootPrefix files).2.views ↔
      foremost? keyOf rootPrefix files
        (keyOf (ParsedFile.parse rootPrefix file.id)) =
        some file := by
  obtain ⟨losers, registered⟩ := exists_registered keyOf rootPrefix files
  have lookup := lookup_build_eq_foremost keyOf rootPrefix files
  constructor
  · intro member
    obtain ⟨⟨key, holder⟩, isEntry, isView⟩ := List.mem_map.mp member
    have found := lookup_of_mem registered.distinct isEntry
    rw [lookup key] at found
    obtain ⟨other, isForemost, rfl⟩ := Option.map_eq_some_iff.mp found
    obtain rfl : other = file := View.file.inj isView
    rwa [(hasKey_of_foremost keyOf rootPrefix files isForemost).2]
  · intro isForemost
    have found := lookup (keyOf (ParsedFile.parse rootPrefix file.id))
    rw [isForemost, Option.map_some] at found
    obtain ⟨front, back, isSplit, _⟩ := List.lookup_eq_some_iff.mp found
    refine List.mem_map.mpr
      ⟨(keyOf (ParsedFile.parse rootPrefix file.id), ranked rootPrefix file),
      ?_, rfl⟩
    rw [isSplit]
    exact List.mem_append_right front List.mem_cons_self

/-- Exactly the files that are not foremost are named in warnings, each of them
once. -/
theorem outranked_perm (distinct : files.Nodup) :
    ((build keyOf rootPrefix files).1.filterMap Event.outranked?).Perm
      ((outranked keyOf rootPrefix files).map ListedFile.id) := by
  obtain ⟨losers, registered⟩ := exists_registered keyOf rootPrefix files
  have injective : Function.Injective View.file := fun _ _ => View.file.inj
  have apart := registered.perm.nodup_iff.mpr (distinct.map injective)
  rw [List.nodup_append] at apart
  rw [registered.log_eq]
  apply List.Perm.map
  have losersDistinct : losers.Nodup := apart.1.of_map
  rw [outranked, List.perm_ext_iff_of_nodup losersDistinct (distinct.filter _)]
  intro file
  have members := registered.perm.mem_iff (a := .file file)
  rw [List.mem_append, List.mem_map_of_injective injective,
    List.mem_map_of_injective injective, mem_views_build_iff] at members
  rw [List.mem_filter, decide_eq_true_iff, ← members]
  constructor
  · intro isLoser
    refine ⟨.inl isLoser, fun isForemost => ?_⟩
    have inViews := (mem_views_build_iff keyOf rootPrefix files).mpr isForemost
    exact apart.2.2 _ (List.mem_map_of_mem isLoser) _ inViews rfl
  · rintro ⟨isLoser | isForemost, notForemost⟩
    · exact isLoser
    · exact absurd isForemost notForemost

/-- An index has the keys of its files, each of them once. -/
theorem keys_build_perm :
    (build keyOf rootPrefix files).2.keys.Perm
      (files.map fun file =>
        keyOf (ParsedFile.parse rootPrefix file.id)).dedup := by
  obtain ⟨losers, registered⟩ := exists_registered keyOf rootPrefix files
  rw [List.perm_ext_iff_of_nodup registered.distinct (List.nodup_dedup _)]
  intro key
  rw [List.mem_dedup, ← not_iff_not, ← lookup_eq_none_iff,
    lookup_build_eq_foremost, Option.map_eq_none_iff,
    ← Option.not_isSome_iff_eq_none, isSome_foremost_iff, List.mem_map]

/-- There are as many warnings as there are files beyond the first one of each
key. -/
theorem length_outranked :
    ((build keyOf rootPrefix files).1.filterMap Event.outranked?).length +
        (files.map fun file =>
          keyOf (ParsedFile.parse rootPrefix file.id)).dedup.length =
      files.length := by
  obtain ⟨losers, registered⟩ := exists_registered keyOf rootPrefix files
  have total := registered.perm.length_eq
  have keysLength := (keys_build_perm keyOf rootPrefix files).length_eq
  rw [keys, List.length_map] at keysLength
  rw [List.length_append, List.length_map, List.length_map, views,
    List.length_map] at total
  rw [registered.log_eq, List.length_map, ← keysLength, total]

end Losers

theorem mem_log_build {keyOf : ParsedFile -> String} {rootPrefix : String}
    {files : List ListedFile} {event : Event}
    (member : event ∈ (build keyOf rootPrefix files).1) :
    ∃ ignored kept key, event = .viewIgnored ignored kept key := by
  induction files using List.reverseRecOn with
  | nil => cases member
  | append_singleton files file step =>
    rw [log_build_append, List.mem_append] at member
    rcases member with old | new
    · exact step old
    · rw [ViewIndex.register] at new
      split at new
      · cases new
      · split at new
        · exact ⟨_, _, _, List.mem_singleton.mp new⟩
        · exact ⟨_, _, _, List.mem_singleton.mp new⟩

end ViewIndex
end FileRoutes
