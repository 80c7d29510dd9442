import FileRoutes.Compiler
import FileRoutes.Outline
import FileRoutes.Proofs.Ranking

/-!
# Sorting

Outlines are sorted before they are compared, and error views before they are
attached.  Where equal ranks mean equal things, sorting forgets the order in
which they were listed.
-/

namespace FileRoutes

/-- Lists with the same members are sorted alike when no two members tie. -/
theorem mergeSort_eq_of_perm {α : Type} {inOrder : α -> α -> Bool}
    (trans : ∀ first second third, inOrder first second = true ->
      inOrder second third = true -> inOrder first third = true)
    (total : ∀ left right, (inOrder left right || inOrder right left) = true)
    {left right : List α} (perm : left.Perm right)
    (ties : ∀ first ∈ left, ∀ second ∈ left, inOrder first second = true ->
      inOrder second first = true -> first = second) :
    left.mergeSort inOrder = right.mergeSort inOrder := by
  apply List.Perm.eq_of_pairwise _ (List.pairwise_mergeSort trans total left)
    (List.pairwise_mergeSort trans total right)
  · exact (List.mergeSort_perm left _).trans
      (perm.trans (List.mergeSort_perm right _).symm)
  · intro first second inLeft inRight
    rw [List.mem_mergeSort] at inLeft inRight
    exact ties first inLeft second (perm.mem_iff.mpr inRight)

/-! ## Outlines -/

namespace Outline

/-- The order of siblings as a comparison. -/
def compareRank : Outline -> Outline -> Ordering :=
  compareLex (compareOn fun outline => !outline.index)
    (compareLex (compareOn Outline.path) (compareOn Outline.source))

instance : Std.TransCmp compareRank :=
  inferInstanceAs (Std.TransCmp (compareLex _ _))

/-- Optional texts are compared as the order on them says. -/
theorem compareOptional_eq (left right : Option String) :
    compareOptional left right = compare left right := by
  cases left <;> cases right <;> rfl

/-- Outlines are in order exactly if their ranks are. -/
theorem inOrder_eq (left right : Outline) :
    inOrder left right = (compareRank left right).isLE := by
  rw [inOrder, compareOptional_eq, compareOptional_eq]
  rfl

theorem inOrder_trans (first second third : Outline)
    (left : inOrder first second = true) (right : inOrder second third = true) :
    inOrder first third = true := by
  rw [inOrder_eq] at *
  exact Std.TransCmp.isLE_trans left right

theorem inOrder_total (left right : Outline) :
    (inOrder left right || inOrder right left) = true := by
  rw [inOrder_eq, inOrder_eq, Bool.or_eq_true]
  by_cases before : (compareRank left right).isLE = true
  · exact Or.inl before
  · exact Or.inr (by rw [Std.OrientedCmp.lt_of_not_isLE before]; rfl)

/-- Siblings that tie are both index nodes or have the same path. -/
theorem eq_of_inOrder {left right : Outline}
    (before : inOrder left right = true) (after : inOrder right left = true) :
    left.index = right.index ∧ left.path = right.path := by
  rw [inOrder_eq] at before after
  have same := Std.OrientedCmp.isLE_antisymm before after
  obtain ⟨sameIndex, rest⟩ := compareLex_eq_eq.mp same
  obtain ⟨samePath, _⟩ := compareLex_eq_eq.mp rest
  refine ⟨?_, Std.LawfulEqOrd.eq_of_compare samePath⟩
  exact Bool.not_inj (Std.LawfulEqOrd.eq_of_compare sameIndex)

end Outline

/-! ## Error views -/

namespace ParsedFile

/-- Whether the error view of a file may be attached before that of another. -/
def attachesBefore (left right : ParsedFile) : Bool :=
  left.segments.length < right.segments.length ||
    (left.segments.length == right.segments.length &&
      !right.precedence.before left.precedence)

/-- Error views are attached by the length of the route, and then by
precedence. -/
theorem attachesBefore_iff {left right : ParsedFile} :
    left.attachesBefore right = true ↔
      left.segments.length < right.segments.length ∨
      left.segments.length = right.segments.length ∧
        right.precedence.before left.precedence = false := by
  simp [attachesBefore]

theorem attachesBefore_trans (first second third : ParsedFile)
    (left : first.attachesBefore second = true)
    (right : second.attachesBefore third = true) :
    first.attachesBefore third = true := by
  rw [attachesBefore_iff] at *
  rcases left with shorter | ⟨same, notBefore⟩
  · rcases right with longer | ⟨equal, _⟩
    · exact Or.inl (by omega)
    · exact Or.inl (by omega)
  · rcases right with longer | ⟨equal, laterNotBefore⟩
    · exact Or.inl (by omega)
    · refine Or.inr ⟨same.trans equal, ?_⟩
      rw [← Bool.not_eq_true]
      intro thirdFirst
      cases firstSecond : first.precedence.before second.precedence with
      | true =>
        rw [Precedence.before_trans thirdFirst firstSecond] at laterNotBefore
        cases laterNotBefore
      | false =>
        have sameRank := Precedence.eq_of_not_before firstSecond notBefore
        rw [← sameRank, thirdFirst] at laterNotBefore
        cases laterNotBefore

theorem attachesBefore_total (left right : ParsedFile) :
    (left.attachesBefore right || right.attachesBefore left) = true := by
  rw [Bool.or_eq_true, attachesBefore_iff, attachesBefore_iff]
  rcases Nat.lt_trichotomy left.segments.length right.segments.length with
    shorter | same | longer
  · exact Or.inl (Or.inl shorter)
  · cases before : right.precedence.before left.precedence with
    | false => exact Or.inl (Or.inr ⟨same, rfl⟩)
    | true =>
      refine Or.inr (Or.inr ⟨same.symm, ?_⟩)
      rw [← Bool.not_eq_true]
      intro after
      have loop := Precedence.before_trans before after
      rw [Precedence.not_before_self] at loop
      cases loop
  · exact Or.inr (Or.inl longer)

/-- Of files that tie, none is before the other by its rank. -/
theorem not_before_of_tie {left right : ParsedFile}
    (before : left.attachesBefore right = true)
    (after : right.attachesBefore left = true) :
    right.precedence.before left.precedence = false := by
  rw [attachesBefore_iff] at before after
  rcases before with shorter | ⟨_, notBefore⟩
  · rcases after with longer | ⟨same, _⟩
    · omega
    · omega
  · exact notBefore

/-- Files that tie have the same canonical identifier. -/
theorem normalize_eq_of_attachesBefore {rootPrefix left right : String}
    (before : (parse rootPrefix left).attachesBefore (parse rootPrefix right) =
      true)
    (after : (parse rootPrefix right).attachesBefore (parse rootPrefix left) =
      true) :
    Identifier.normalize left = Identifier.normalize right := by
  have sameRank := Precedence.eq_of_not_before (not_before_of_tie after before)
    (not_before_of_tie before after)
  rw [← identifier_precedence rootPrefix left, sameRank, identifier_precedence]

end ParsedFile

theorem Boundary.map_parsed_mergeSort (rootPrefix : String)
    (files : List ListedFile) :
    ((files.map (Boundary.ofFile rootPrefix)).mergeSort Boundary.inOrder).map
        Boundary.parsed =
      ((files.map ListedFile.id).map (ParsedFile.parse rootPrefix)).mergeSort
        ParsedFile.attachesBefore := by
  have sameOrder : ∀ left ∈ files.map (Boundary.ofFile rootPrefix),
      ∀ right ∈ files.map (Boundary.ofFile rootPrefix),
        Boundary.inOrder left right = left.parsed.attachesBefore right.parsed :=
    fun _ _ _ _ => rfl
  have sameFile : Boundary.parsed ∘ Boundary.ofFile rootPrefix =
      ParsedFile.parse rootPrefix ∘ ListedFile.id := by
    funext file
    rw [Function.comp_apply, Function.comp_apply, ofFile]
  rw [List.map_mergeSort sameOrder, List.map_map, List.map_map, sameFile]

/-- The order in which error views are attached does not depend on the order of
their listing. -/
theorem Boundary.map_parsed_mergeSort_perm (rootPrefix : String)
    {files others : List ListedFile}
    (perm : (files.map ListedFile.id).Perm (others.map ListedFile.id))
    (spelledOnce : SpelledOnce (files.map ListedFile.id)) :
    ((files.map (Boundary.ofFile rootPrefix)).mergeSort Boundary.inOrder).map
        Boundary.parsed =
      ((others.map (Boundary.ofFile rootPrefix)).mergeSort Boundary.inOrder).map
        Boundary.parsed := by
  rw [map_parsed_mergeSort, map_parsed_mergeSort]
  apply mergeSort_eq_of_perm ParsedFile.attachesBefore_trans
    ParsedFile.attachesBefore_total (perm.map _)
  intro first firstMember second secondMember before after
  obtain ⟨left, leftMember, isLeft⟩ := List.mem_map.mp firstMember
  obtain ⟨right, rightMember, isRight⟩ := List.mem_map.mp secondMember
  subst isLeft isRight
  rw [spelledOnce left leftMember right rightMember
    (ParsedFile.normalize_eq_of_attachesBefore before after)]

end FileRoutes
