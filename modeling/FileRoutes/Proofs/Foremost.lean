import FileRoutes.Proofs.Ranking
import FileRoutes.Proofs.RouteKey
import Mathlib.Data.List.MinMax
import Mathlib.Data.Prod.Lex
import Mathlib.Data.String.Basic

/-!
# The foremost file of a key

Files that share a key are ranked by the number of groups on their way and then
by their canonical identifiers.  An index keeps the least of them, and of files
with the same rank the one that is listed first.  The view nearest to a route is
the one that the longest beginning of the route has a file for.
-/

namespace FileRoutes

/-- The rank of a file: the number of groups on its way, then its canonical
identifier. -/
def ParsedFile.rank (file : ParsedFile) : Nat ×ₗ String :=
  toLex (file.groupDepth, Identifier.normalize file.id)

theorem ParsedFile.before_precedence_iff {left right : ParsedFile} :
    left.precedence.before right.precedence = true ↔
      left.rank < right.rank := by
  rw [Precedence.before_iff, rank, rank, Prod.Lex.toLex_lt_toLex]
  rfl

/-- The least of the files with a key, and the one listed first among equals. -/
def foremost? {Key : Type} [DecidableEq Key] (keyOf : ParsedFile -> Key)
    (rootPrefix : String) (files : List ListedFile) (key : Key) :
    Option ListedFile :=
  (files.filter fun file =>
      keyOf (ParsedFile.parse rootPrefix file.id) = key).argmin
    fun file => (ParsedFile.parse rootPrefix file.id).rank

/-- The view that a route shows when nothing matches: the foremost file of the
longest beginning of the route that is the route of a file. -/
def nearestNotFound (rootPrefix : String) (files : List ListedFile)
    (route : List String) : View :=
  ((route.inits.reverse.findSome?
    (foremost? ParsedFile.routeTokens rootPrefix files)).map View.file).getD
      (.builtin .notFound)

/-! ## First come, first served -/

/-- The least element of a list comes before all others that are as small. -/
theorem argmin_eq_some_iff {α β : Type} [LinearOrder β] {rank : α -> β}
    {list : List α} {least : α} :
    list.argmin rank = some least ↔
      ∃ front back, list = front ++ least :: back ∧
      (∀ other ∈ front, rank least < rank other) ∧
        ∀ other ∈ back, rank least ≤ rank other := by
  induction list generalizing least with
  | nil => simp
  | cons first rest step =>
    have isFirst : (∃ front back, first :: rest = front ++ least :: back ∧
          (∀ other ∈ front, rank least < rank other) ∧
            ∀ other ∈ back, rank least ≤ rank other) ↔
        (first = least ∧ ∀ other ∈ rest, rank least ≤ rank other) ∨
          rank least < rank first ∧ rest.argmin rank = some least := by
      rw [step]
      constructor
      · rintro ⟨_ | ⟨head, front⟩, back, isSplit, before, after⟩
        · obtain ⟨rfl, rfl⟩ := List.cons.inj isSplit
          exact Or.inl ⟨rfl, after⟩
        · obtain ⟨rfl, rfl⟩ := List.cons.inj isSplit
          obtain ⟨less, others⟩ := List.forall_mem_cons.mp before
          exact Or.inr ⟨less, front, back, rfl, others, after⟩
      · rintro (⟨rfl, after⟩ | ⟨less, front, back, rfl, before, after⟩)
        · exact ⟨[], rest, rfl, List.forall_mem_nil _, after⟩
        · exact ⟨first :: front, back, rfl,
            List.forall_mem_cons.mpr ⟨less, before⟩, after⟩
    rw [isFirst, List.argmin_cons]
    cases found : rest.argmin rank with
    | none =>
      have empty := List.argmin_eq_none.mp found
      simp [empty]
    | some smallest =>
      have least_le : ∀ other ∈ rest, rank smallest ≤ rank other :=
        fun other member => List.le_of_mem_argmin member found
      have member : smallest ∈ rest := List.argmin_mem found
      dsimp only
      by_cases less : rank smallest < rank first
      · rw [if_pos less]
        constructor
        · intro same
          cases same
          exact Or.inr ⟨less, rfl⟩
        · rintro (⟨rfl, after⟩ | ⟨_, same⟩)
          · exact absurd (after smallest member) (not_le_of_gt less)
          · exact same
      · rw [if_neg less]
        constructor
        · intro same
          cases same
          exact Or.inl ⟨rfl, fun other inRest =>
            (le_of_not_gt less).trans (least_le other inRest)⟩
        · rintro (⟨rfl, _⟩ | ⟨lessFirst, same⟩)
          · rfl
          · cases same
            exact absurd lessFirst less

/-- A key has a foremost file when a file has it. -/
theorem isSome_foremost_iff {Key : Type} [DecidableEq Key]
    {keyOf : ParsedFile -> Key} {rootPrefix : String} {files : List ListedFile}
    {key : Key} :
    (foremost? keyOf rootPrefix files key).isSome = true ↔
      ∃ file ∈ files, keyOf (ParsedFile.parse rootPrefix file.id) = key := by
  rw [← not_iff_not, Option.not_isSome_iff_eq_none, foremost?,
    List.argmin_eq_none, List.filter_eq_nil_iff]
  simp

/-- The foremost file of a key comes before every other file with the key that
is not listed behind it. -/
theorem foremost_eq_some_iff {Key : Type} [DecidableEq Key]
    {keyOf : ParsedFile -> Key}
    {rootPrefix : String} {files : List ListedFile} {key : Key}
    {file : ListedFile} :
    foremost? keyOf rootPrefix files key = some file ↔
      ∃ front back, files = front ++ file :: back ∧
        keyOf (ParsedFile.parse rootPrefix file.id) = key ∧
        (∀ other ∈ front, keyOf (ParsedFile.parse rootPrefix other.id) = key ->
          (ParsedFile.parse rootPrefix file.id).rank <
            (ParsedFile.parse rootPrefix other.id).rank) ∧
        ∀ other ∈ back, keyOf (ParsedFile.parse rootPrefix other.id) = key ->
          (ParsedFile.parse rootPrefix file.id).rank ≤
            (ParsedFile.parse rootPrefix other.id).rank := by
  rw [foremost?, argmin_eq_some_iff]
  constructor
  · rintro ⟨before, after, isSplit, less, notMore⟩
    obtain ⟨front, rest, rfl, rfl, isRest⟩ :=
      List.filter_eq_append_iff.mp isSplit
    obtain ⟨skipped, back, rfl, apart, hasKey, rfl⟩ :=
      List.filter_eq_cons_iff.mp isRest
    refine ⟨front ++ skipped, back, by simp, by simpa using hasKey, ?_, ?_⟩
    · intro other member otherKey
      rcases List.mem_append.mp member with inFront | inSkipped
      · exact less other (List.mem_filter.mpr ⟨inFront, by simpa using otherKey⟩)
      · exact absurd (by simpa using otherKey) (apart other inSkipped)
    · intro other member otherKey
      exact notMore other (List.mem_filter.mpr ⟨member, by simpa using otherKey⟩)
  · rintro ⟨front, back, rfl, hasKey, less, notMore⟩
    rw [List.filter_append, List.filter_cons_of_pos (by simpa using hasKey)]
    refine ⟨_, _, rfl, ?_, ?_⟩
    · intro other member
      obtain ⟨inFront, otherKey⟩ := List.mem_filter.mp member
      exact less other inFront (by simpa using otherKey)
    · intro other member
      obtain ⟨inBack, otherKey⟩ := List.mem_filter.mp member
      exact notMore other inBack (by simpa using otherKey)

/-! ## Indexes keep the foremost files -/

section Build

variable {rootPrefix : String} {files : List ListedFile} {file : ListedFile}

/-- A further file is the foremost one of its key when it comes strictly before
the one so far. -/
theorem foremost_append (keyOf : ParsedFile -> String) (key : String) :
    foremost? keyOf rootPrefix (files ++ [file]) key =
      if keyOf (ParsedFile.parse rootPrefix file.id) = key then
        match foremost? keyOf rootPrefix files key with
        | none => some file
        | some holder =>
          if (ParsedFile.parse rootPrefix file.id).rank <
              (ParsedFile.parse rootPrefix holder.id).rank then some file
          else some holder
      else foremost? keyOf rootPrefix files key := by
  rw [foremost?, List.filter_append]
  split
  · rename_i hasKey
    rw [List.filter_cons_of_pos (by simpa using hasKey), List.filter_nil,
      List.argmin_concat, ← foremost?]
    cases foremost? keyOf rootPrefix files key <;> rfl
  · rename_i otherKey
    rw [List.filter_cons_of_neg (by simpa using otherKey), List.filter_nil,
      List.append_nil, ← foremost?]

theorem lookup_build_eq_foremost (keyOf : ParsedFile -> String)
    (rootPrefix : String) (files : List ListedFile) (key : String) :
    (ViewIndex.build keyOf rootPrefix files).2.entries.lookup key =
      (foremost? keyOf rootPrefix files key).map
        (ViewIndex.ranked rootPrefix) := by
  induction files using List.reverseRecOn with
  | nil => rfl
  | append_singleton files file step =>
    rw [ViewIndex.build_append, ViewIndex.lookup_register, foremost_append]
    by_cases hasKey : keyOf (ParsedFile.parse rootPrefix file.id) = key
    · rw [if_pos hasKey.symm, if_pos hasKey, hasKey, step]
      cases foremost? keyOf rootPrefix files key with
      | none => rfl
      | some holder =>
        simp only [Option.map_some, ViewIndex.winner, ViewIndex.ranked,
          ParsedFile.before_precedence_iff]
        split <;> rfl
    · rw [if_neg fun same => hasKey same.symm, if_neg hasKey, step]

/-- The view under a key is the one of the foremost file. -/
theorem get_build_eq_foremost (keyOf : ParsedFile -> String)
    (rootPrefix : String) (files : List ListedFile) (key : String) :
    (ViewIndex.build keyOf rootPrefix files).2.get? key =
      (foremost? keyOf rootPrefix files key).map View.file := by
  rw [ViewIndex.get?, lookup_build_eq_foremost, Option.map_map]
  rfl

/-- Lists of names are told apart as well as the keys that join them. -/
theorem foremost_joinSlash {namesOf : ParsedFile -> List String}
    (named : ∀ id, ∀ name ∈ namesOf (ParsedFile.parse rootPrefix id),
      Text.IsName name)
    {names : List String} (valid : ∀ name ∈ names, Text.IsName name) :
    foremost? (fun file => Text.joinSlash (namesOf file)) rootPrefix files
        (Text.joinSlash names) =
      foremost? namesOf rootPrefix files names := by
  have sameFiles : files.filter (fun file =>
        Text.joinSlash (namesOf (ParsedFile.parse rootPrefix file.id)) =
          Text.joinSlash names) =
      files.filter fun file =>
        namesOf (ParsedFile.parse rootPrefix file.id) = names := by
    apply List.filter_congr
    intro file _
    rw [decide_eq_decide]
    exact ⟨Text.joinSlash_inj (named file.id) valid, congrArg Text.joinSlash⟩
  rw [foremost?, sameFiles, foremost?]

/-- A search through joined names finds the foremost file of the first list of
names that is the one of a file. -/
theorem findSome_build_joinSlash {namesOf : ParsedFile -> List String}
    (named : ∀ id, ∀ name ∈ namesOf (ParsedFile.parse rootPrefix id),
      Text.IsName name)
    {lists : List (List String)}
    (valid : ∀ names ∈ lists, ∀ name ∈ names, Text.IsName name) :
    (lists.map Text.joinSlash).findSome?
        (ViewIndex.build (fun file => Text.joinSlash (namesOf file)) rootPrefix
          files).2.get? =
      (lists.findSome? (foremost? namesOf rootPrefix files)).map View.file := by
  rw [List.findSome?_map, List.map_findSome?, ← List.head?_filterMap,
    ← List.head?_filterMap]
  apply congrArg List.head?
  apply List.filterMap_congr
  intro names member
  rw [Function.comp_apply, get_build_eq_foremost,
    foremost_joinSlash named (valid names member)]
  rfl

end Build

/-! ## The nearest view -/

/-- The not-found view nearest to the key of a route is the nearest one by its
tokens. -/
theorem NotFoundViews.nearest_byRoute (rootPrefix : String)
    (files : List ListedFile) {route : List String}
    (valid : ∀ name ∈ route, Text.IsName name) :
    NotFoundViews.nearest ⟨(ViewIndex.byRoute rootPrefix files).2⟩
        (Text.joinSlash route) =
      nearestNotFound rootPrefix files route := by
  let index := (ViewIndex.byRoute rootPrefix files).2
  have search {lists : List (List String)}
      (begins : ∀ names ∈ lists, names <+: route) :
      (lists.map Text.joinSlash).findSome? index.get? =
        (lists.findSome?
          (foremost? ParsedFile.routeTokens rootPrefix files)).map View.file :=
    findSome_build_joinSlash (fun _ _ => ParsedFile.isName_of_mem_routeTokens)
      fun names member name inside =>
        valid name ((begins names member).subset inside)
  have sameNearest : index.nearest? (Text.joinSlash route) =
      (route.inits.reverse.findSome?
        (foremost? ParsedFile.routeTokens rootPrefix files)).map View.file := by
    rw [ViewIndex.nearest?, Key.ancestors_joinSlash valid]
    exact search fun names member =>
      (List.mem_inits _ _).mp (List.mem_reverse.mp member)
  rw [NotFoundViews.nearest, sameNearest, nearestNotFound]
  cases found : route.inits.reverse.findSome?
      (foremost? ParsedFile.routeTokens rootPrefix files) with
  | some file => rfl
  | none =>
    have atRoot : [""].findSome? index.get? = none := by
      have noFile := List.findSome?_eq_none_iff.mp found [] (by simp)
      refine (@search [[]] (by simp)).trans ?_
      rw [List.findSome?_singleton, noFile, Option.map_none]
    rw [List.findSome?_singleton] at atRoot
    rw [Option.map_none, Option.getD_none, fallback, atRoot]

end FileRoutes
