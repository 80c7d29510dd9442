import FileRoutes.ViewIndex
import Mathlib.Data.List.Induction

/-!
# Ranked views

Of all files with one key the least one in the order of ranks holds the key.
Ranks are told apart by canonical identifiers, so the holder does not depend on
the order of registration.
-/

namespace FileRoutes
namespace Precedence

/-- A rank is before another one by the number of groups, and by the identifier
where these are equal. -/
theorem before_iff {left right : Precedence} :
    left.before right = true ↔ left.groupDepth < right.groupDepth ∨
      left.groupDepth = right.groupDepth ∧
      left.identifier < right.identifier := by
  simp [before]

theorem not_before_self (rank : Precedence) : rank.before rank = false := by
  rw [← Bool.not_eq_true, before_iff]
  rintro (fewer | ⟨_, less⟩)
  · omega
  · exact Std.lt_irrefl less

theorem before_trans {first second third : Precedence}
    (left : first.before second = true) (right : second.before third = true) :
    first.before third = true := by
  rw [before_iff] at *
  rcases left with fewer | ⟨same, less⟩
  · rcases right with deeper | ⟨equal, _⟩
    · exact Or.inl (by omega)
    · exact Or.inl (by omega)
  · rcases right with deeper | ⟨equal, later⟩
    · exact Or.inl (by omega)
    · exact Or.inr ⟨same.trans equal, Std.lt_trans less later⟩

/-- Ranks are linearly ordered. -/
theorem eq_of_not_before {left right : Precedence}
    (notLess : left.before right = false)
    (notMore : right.before left = false) : left = right := by
  rw [← Bool.not_eq_true, before_iff, not_or, not_and] at notLess notMore
  have sameDepth : left.groupDepth = right.groupDepth := by omega
  have sameIdentifier : left.identifier = right.identifier := by
    rcases Std.lt_trichotomy left.identifier right.identifier with
      less | equal | more
    · exact absurd less (notLess.2 sameDepth)
    · exact equal
    · exact absurd more (notMore.2 sameDepth.symm)
  cases left
  cases right
  exact congr (congrArg mk sameDepth) sameIdentifier

end Precedence

theorem ParsedFile.identifier_precedence (rootPrefix id : String) :
    (parse rootPrefix id).precedence.identifier = Identifier.normalize id := by
  rw [precedence]
  simp only [parse]

namespace ViewIndex

/-! ## Registering one view -/

theorem lookup_replace (index : ViewIndex) (key other : String)
    (candidate : RankedView) :
    (index.replace key candidate).entries.lookup other =
      if other = key then (index.entries.lookup key).map fun _ => candidate
      else index.entries.lookup other := by
  rw [replace]
  induction index.entries with
  | nil => simp
  | cons entry rest step =>
    obtain ⟨name, view⟩ := entry
    rw [List.map_cons]
    by_cases isKey : name = key
    · subst isKey
      rw [if_pos rfl, List.lookup_cons, step, List.lookup_cons,
        List.lookup_cons]
      by_cases isOther : other = name
      · simp [isOther]
      · have otherApart : (other == name) = false := beq_false_of_ne isOther
        simp [isOther, otherApart]
    · have keyApart : (key == name) = false := beq_false_of_ne fun same =>
        isKey same.symm
      rw [if_neg isKey, List.lookup_cons, step, List.lookup_cons,
        List.lookup_cons, keyApart]
      by_cases isOther : other = name
      · simp [isOther, isKey]
      · have otherApart : (other == name) = false := beq_false_of_ne isOther
        simp [otherApart]

/-- The candidate takes a key that is free or whose holder comes after it. -/
def winner (candidate : RankedView) : Option RankedView -> RankedView
  | none => candidate
  | some holder =>
      if candidate.rank.before holder.rank then candidate else holder

/-- Registering a view lets it compete for its key and leaves all other keys
alone. -/
theorem lookup_register (index : ViewIndex) (key other : String)
    (candidate : RankedView) :
    (index.register key candidate).2.entries.lookup other =
      if other = key then some (winner candidate (index.entries.lookup key))
      else index.entries.lookup other := by
  rw [register]
  cases holder : index.entries.lookup key with
  | none =>
    rw [List.lookup_append]
    by_cases isKey : other = key
    · simp [isKey, holder, winner]
    · have apart : (other == key) = false := beq_false_of_ne isKey
      simp [List.lookup_cons, isKey, apart]
  | some ranked =>
    simp only [winner]
    by_cases before : candidate.rank.before ranked.rank = true
    · rw [if_pos before, if_pos before]
      rw [lookup_replace, holder, Option.map_some]
    · rw [if_neg before, if_neg before]
      by_cases isKey : other = key
      · rw [if_pos isKey, isKey, holder]
      · rw [if_neg isKey]

/-! ## Registering files -/

/-- A file with its rank. -/
def ranked (rootPrefix : String) (file : ListedFile) : RankedView :=
  ⟨(ParsedFile.parse rootPrefix file.id).precedence, .file file⟩

/-- A view holds a key when its file has the key and no file with the key comes
before it. -/
structure Holds (keyOf : ParsedFile -> String) (rootPrefix : String)
    (files : List ListedFile) (key : String) (view : RankedView) : Prop where
  listed : ∃ file ∈ files, keyOf (ParsedFile.parse rootPrefix file.id) = key ∧
    view = ranked rootPrefix file
  least : ∀ file ∈ files, keyOf (ParsedFile.parse rootPrefix file.id) = key ->
    (ranked rootPrefix file).rank.before view.rank = false

section Build

variable {keyOf : ParsedFile -> String} {rootPrefix : String}
  {files : List ListedFile} {file : ListedFile} {key : String}

theorem build_append :
    (build keyOf rootPrefix (files ++ [file])).2 =
      ((build keyOf rootPrefix files).2.register
        (keyOf (ParsedFile.parse rootPrefix file.id))
          (ranked rootPrefix file)).2 := by
  rw [build, List.foldl_append, ← build, List.foldl_cons,
    List.foldl_nil, ranked]

/-- What is least among some files stays least when the next one does not come
before it. -/
theorem least_append {rank : Precedence}
    (least : ∀ other ∈ files,
      keyOf (ParsedFile.parse rootPrefix other.id) = key ->
      (ranked rootPrefix other).rank.before rank = false)
    (notBefore : keyOf (ParsedFile.parse rootPrefix file.id) = key ->
      (ranked rootPrefix file).rank.before rank = false) :
    ∀ other ∈ files ++ [file],
      keyOf (ParsedFile.parse rootPrefix other.id) = key ->
      (ranked rootPrefix other).rank.before rank = false := by
  rw [List.forall_mem_append, List.forall_mem_singleton]
  exact ⟨least, notBefore⟩

/-- A further file that does not come before the holder of a key leaves the
holder in place. -/
theorem Holds.append_of_not_before {view : RankedView}
    (holds : Holds keyOf rootPrefix files key view)
    (notBefore : keyOf (ParsedFile.parse rootPrefix file.id) = key ->
      (ranked rootPrefix file).rank.before view.rank = false) :
    Holds keyOf rootPrefix (files ++ [file]) key view where
  listed := by
    obtain ⟨holder, member, isHolder⟩ := holds.listed
    exact ⟨holder, List.mem_append_left _ member, isHolder⟩
  least := least_append holds.least notBefore

/-- A further file that is the least of its key holds the key. -/
theorem holds_append_of_least
    (least : ∀ other ∈ files,
      keyOf (ParsedFile.parse rootPrefix other.id) = key ->
      (ranked rootPrefix other).rank.before (ranked rootPrefix file).rank =
        false)
    (hasKey : keyOf (ParsedFile.parse rootPrefix file.id) = key) :
    Holds keyOf rootPrefix (files ++ [file]) key (ranked rootPrefix file) where
  listed := ⟨file, by simp, hasKey, rfl⟩
  least := least_append least fun _ => Precedence.not_before_self _

theorem Holds.append_of_key {view : RankedView}
    (holds : Holds keyOf rootPrefix files key view)
    (hasKey : keyOf (ParsedFile.parse rootPrefix file.id) = key) :
    Holds keyOf rootPrefix (files ++ [file]) key
      (winner (ranked rootPrefix file) (some view)) := by
  rw [winner]
  by_cases before : (ranked rootPrefix file).rank.before view.rank = true
  · rw [if_pos before]
    apply holds_append_of_least _ hasKey
    intro other member otherKey
    have notBefore := holds.least other member otherKey
    rw [← Bool.not_eq_true] at notBefore ⊢
    exact fun otherBefore =>
      notBefore (Precedence.before_trans otherBefore before)
  · rw [if_neg before]
    exact holds.append_of_not_before fun _ => Bool.eq_false_iff.mpr before

/-- A key is held by the least of the files that have it, if there are any. -/
theorem lookup_build (keyOf : ParsedFile -> String) (rootPrefix : String)
    (files : List ListedFile) (key : String) :
    (∀ file ∈ files, keyOf (ParsedFile.parse rootPrefix file.id) ≠ key) ∧
        (build keyOf rootPrefix files).2.entries.lookup key = none ∨
      ∃ view, (build keyOf rootPrefix files).2.entries.lookup key = some view ∧
        Holds keyOf rootPrefix files key view := by
  induction files using List.reverseRecOn with
  | nil => exact Or.inl ⟨by simp, rfl⟩
  | append_singleton files file step =>
    rw [build_append, lookup_register]
    by_cases hasKey : keyOf (ParsedFile.parse rootPrefix file.id) = key
    · rw [if_pos hasKey.symm, hasKey]
      rcases step with ⟨free, missing⟩ | ⟨view, found, holds⟩
      · rw [missing]
        refine Or.inr ⟨_, rfl, holds_append_of_least ?_ hasKey⟩
        exact fun other member otherKey => absurd otherKey (free other member)
      · rw [found]
        exact Or.inr ⟨_, rfl, holds.append_of_key hasKey⟩
    · rw [if_neg fun same => hasKey same.symm]
      rcases step with ⟨free, missing⟩ | ⟨view, found, holds⟩
      · refine Or.inl ⟨?_, missing⟩
        rw [List.forall_mem_append, List.forall_mem_singleton]
        exact ⟨free, hasKey⟩
      · refine Or.inr ⟨view, found, holds.append_of_not_before ?_⟩
        exact fun otherKey => absurd otherKey hasKey

end Build

/-! ## Indexes that agree -/

/-- Two indexes agree when their views have the same labels. -/
def Agree (left right : ViewIndex) : Prop :=
  ∀ key, (left.get? key).map View.label = (right.get? key).map View.label

end ViewIndex

/-- Identifiers that are spelled in one way only. -/
def SpelledOnce (ids : List String) : Prop :=
  ∀ left ∈ ids, ∀ right ∈ ids,
    Identifier.normalize left = Identifier.normalize right -> left = right

namespace ViewIndex

/-- Some files are tied for a key: the identifiers of two of them are different
spellings of one, and no file with the key comes before them. -/
def Tied (keyOf : ParsedFile -> String) (rootPrefix : String)
    (files : List ListedFile) :
    Prop :=
  ∃ left ∈ files, ∃ right ∈ files, left.id ≠ right.id ∧
    Identifier.normalize left.id = Identifier.normalize right.id ∧
    ∀ other ∈ files, keyOf (ParsedFile.parse rootPrefix other.id) =
        keyOf (ParsedFile.parse rootPrefix left.id) ->
      (ranked rootPrefix other).rank.before (ranked rootPrefix left).rank =
        false

section Agree

variable {keyOf : ParsedFile -> String} {rootPrefix : String}
  {files others : List ListedFile} {key : String}

/-- Files whose identifiers are spelled in one way are not tied for any key. -/
theorem not_tied_of_spelledOnce
    (spelledOnce : SpelledOnce (files.map ListedFile.id)) :
    ¬Tied keyOf rootPrefix files := by
  rintro ⟨left, isLeft, right, isRight, different, sameIdentifier, _⟩
  exact different (spelledOnce left.id (List.mem_map_of_mem isLeft) right.id
    (List.mem_map_of_mem isRight) sameIdentifier)

theorem exists_mem_of_same_ids
    (sameIds : ∀ id, id ∈ files.map ListedFile.id ↔
      id ∈ others.map ListedFile.id)
    {file : ListedFile} (member : file ∈ files) :
    ∃ other ∈ others, other.id = file.id :=
  List.mem_map.mp ((sameIds file.id).mp (List.mem_map_of_mem member))

/-- A holder among some files does not come behind a holder among others with
the same identifiers. -/
theorem Holds.not_before {view otherView : RankedView}
    (holds : Holds keyOf rootPrefix files key view)
    (otherHolds : Holds keyOf rootPrefix others key otherView)
    (sameIds : ∀ id, id ∈ files.map ListedFile.id ↔
      id ∈ others.map ListedFile.id) :
    view.rank.before otherView.rank = false := by
  obtain ⟨file, member, hasKey, isFile⟩ := holds.listed
  obtain ⟨other, otherMember, sameId⟩ := exists_mem_of_same_ids sameIds member
  have least :=
    otherHolds.least other otherMember (by rw [sameId]; exact hasKey)
  rw [ranked, sameId] at least
  rw [isFile]
  exact least

/-- The holder of a key does not depend on the order of registration. -/
theorem Holds.label_eq {view otherView : RankedView}
    (holds : Holds keyOf rootPrefix files key view)
    (otherHolds : Holds keyOf rootPrefix others key otherView)
    (sameIds : ∀ id, id ∈ files.map ListedFile.id ↔
      id ∈ others.map ListedFile.id)
    (untied : ¬Tied keyOf rootPrefix files) :
    view.view.label = otherView.view.label := by
  have sameRank :=
    Precedence.eq_of_not_before (holds.not_before otherHolds sameIds)
      (otherHolds.not_before holds fun id => (sameIds id).symm)
  obtain ⟨file, member, hasKey, isFile⟩ := holds.listed
  obtain ⟨other, otherMember, _, isOther⟩ := otherHolds.listed
  obtain ⟨rival, isRival, sameId⟩ :=
    exists_mem_of_same_ids (fun id => (sameIds id).symm) otherMember
  have least := holds.least
  rw [isFile, isOther] at sameRank ⊢
  rw [isFile] at least
  have sameIdentifier := congrArg Precedence.identifier sameRank
  rw [ranked, ranked, ParsedFile.identifier_precedence,
    ParsedFile.identifier_precedence] at sameIdentifier
  show file.id = other.id
  by_contra different
  rw [← sameId] at sameIdentifier different
  rw [← hasKey] at least
  exact untied ⟨file, member, rival, isRival, different, sameIdentifier, least⟩

/-- Indexes of the same identifiers agree. -/
theorem agree_build (keyOf : ParsedFile -> String) (rootPrefix : String)
    (sameIds : ∀ id, id ∈ files.map ListedFile.id ↔
      id ∈ others.map ListedFile.id)
    (untied : ¬Tied keyOf rootPrefix files) :
    Agree (build keyOf rootPrefix files).2
      (build keyOf rootPrefix others).2 := by
  intro key
  rw [get?, get?]
  rcases lookup_build keyOf rootPrefix files key with
    ⟨free, missing⟩ | ⟨view, found, holds⟩
  · rcases lookup_build keyOf rootPrefix others key with
      ⟨_, otherMissing⟩ | ⟨_, _, otherHolds⟩
    · rw [missing, otherMissing]
    · obtain ⟨other, otherMember, hasKey, _⟩ := otherHolds.listed
      obtain ⟨file, member, sameId⟩ :=
        exists_mem_of_same_ids (fun id => (sameIds id).symm) otherMember
      exact absurd (by rw [sameId]; exact hasKey) (free file member)
  · rcases lookup_build keyOf rootPrefix others key with
      ⟨otherFree, _⟩ | ⟨otherView, otherFound, otherHolds⟩
    · obtain ⟨file, member, hasKey, _⟩ := holds.listed
      obtain ⟨other, otherMember, sameId⟩ :=
        exists_mem_of_same_ids sameIds member
      exact absurd (by rw [sameId]; exact hasKey) (otherFree other otherMember)
    · rw [found, otherFound]
      exact congrArg some (holds.label_eq otherHolds sameIds untied)

end Agree

variable {left right : ViewIndex}

/-- Indexes that agree find the same label along any keys. -/
theorem Agree.findSome (agree : Agree left right) (keys : List String) :
    (keys.findSome? left.get?).map View.label =
      (keys.findSome? right.get?).map View.label := by
  rw [List.map_findSome?, List.map_findSome?]
  congr 1
  funext key
  exact agree key

/-- Indexes that agree serve a page with the same loading view. -/
theorem Agree.label_findLoading (agree : Agree left right) (file : ParsedFile) :
    (left.findLoading file).label = (right.findLoading file).label := by
  rw [findLoading, findLoading, ← Option.getD_map View.label, Option.map_or,
    agree.findSome, agree, ← Option.map_or, Option.getD_map View.label]

/-- Indexes that agree serve a route with the same not-found view. -/
theorem Agree.label_nearest (agree : Agree left right) (routeKey : String) :
    (NotFoundViews.nearest ⟨left⟩ routeKey).label =
      (NotFoundViews.nearest ⟨right⟩ routeKey).label := by
  have sameFallback : (NotFoundViews.fallback ⟨left⟩).label =
      (NotFoundViews.fallback ⟨right⟩).label := by
    rw [NotFoundViews.fallback, NotFoundViews.fallback,
      ← Option.getD_map View.label, agree, Option.getD_map View.label]
  rw [NotFoundViews.nearest, NotFoundViews.nearest,
    ← Option.getD_map View.label, nearest?, agree.findSome, sameFallback,
    Option.getD_map View.label, nearest?]

end ViewIndex
end FileRoutes
