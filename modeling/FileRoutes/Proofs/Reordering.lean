import FileRoutes.Proofs.Sorting
import Mathlib.Data.List.Nodup
import Mathlib.Data.List.Perm.Basic

/-!
# Outlines up to the order of siblings

An outline is a reordering of another when permuting the children of nodes, at
every level on its own, makes one from the other.  Sorting gives a reordering,
and where siblings can be told apart by index and path it gives the same one for
all reorderings.
-/

namespace FileRoutes
namespace Outline

/-- An outline without its children. -/
def childless (outline : Outline) : Outline :=
  { outline with children := [] }

/-- Whether an outline is made from another by reordering each child in itself
and then permuting the children. -/
inductive Reordered : Outline -> Outline -> Prop
  | intro {left right : Outline} {between : List Outline}
      (sameOwn : left.childless = right.childless)
      (inside : List.Forall₂ Reordered left.children between)
      (perm : between.Perm right.children) : Reordered left right

/-- Whether no two siblings of an outline share both the index flag and the
path. -/
inductive Distinct : Outline -> Prop
  | intro {outline : Outline}
      (apart : (outline.children.map fun child => (child.index, child.path)).Nodup)
      (below : ∀ child ∈ outline.children, Distinct child) : Distinct outline

mutual

/-- What holds of an outline when it holds of its children holds of every
outline. -/
theorem induction_on_children {holds : Outline -> Prop}
    (step : ∀ outline, (∀ child ∈ outline.children, holds child) ->
      holds outline)
    (outline : Outline) : holds outline := by
  obtain ⟨path, index, parameter, content, source, loading, error, children⟩ :=
    outline
  exact step _ (induction_on_forest step children)

theorem induction_on_forest {holds : Outline -> Prop}
    (step : ∀ outline, (∀ child ∈ outline.children, holds child) ->
      holds outline)
    (forest : List Outline) : ∀ outline ∈ forest, holds outline := by
  match forest with
  | [] => exact fun _ member => absurd member List.not_mem_nil
  | first :: rest =>
    rw [List.forall_mem_cons]
    exact ⟨induction_on_children step first, induction_on_forest step rest⟩

end

theorem eq_of_childless {left right : Outline}
    (sameOwn : left.childless = right.childless)
    (sameChildren : left.children = right.children) : left = right := by
  cases left
  cases right
  simp_all [childless]

/-! ## The children of a sorted outline -/

theorem sortedForest_eq_map (forest : List Outline) :
    sortedForest forest = forest.map sorted := by
  induction forest with
  | nil => rfl
  | cons first rest step => rw [sortedForest, step, List.map_cons]

/-- Sorting leaves the own data of an outline as they are. -/
theorem childless_sorted (outline : Outline) :
    outline.sorted.childless = outline.childless := by
  cases outline
  rfl

/-- The children of a sorted outline are the sorted children, put in order. -/
theorem children_sorted (outline : Outline) :
    outline.sorted.children =
      (outline.children.map sorted).mergeSort inOrder := by
  cases outline
  rw [sorted, sortedForest_eq_map]

/-- Sorting brings in no child and drops none. -/
theorem perm_children_sorted (outline : Outline) :
    outline.sorted.children.Perm (outline.children.map sorted) :=
  children_sorted outline ▸ List.mergeSort_perm _ _

theorem sorted_index (outline : Outline) :
    outline.sorted.index = outline.index := by
  cases outline
  rfl

theorem sorted_path (outline : Outline) :
    outline.sorted.path = outline.path := by
  cases outline
  rfl

/-- Sorting again changes nothing: the children of a sorted outline are sorted,
each in itself and one after the other. -/
theorem sorted_sorted (outline : Outline) :
    outline.sorted.sorted = outline.sorted := by
  induction outline using induction_on_children with
  | step outline below =>
    have sameChild :
        ∀ child ∈ outline.sorted.children, child.sorted = id child := by
      intro child member
      have listed := (perm_children_sorted outline).mem_iff.mp member
      obtain ⟨original, isOriginal, rfl⟩ := List.mem_map.mp listed
      exact below original isOriginal
    have ordered : outline.sorted.children.Pairwise fun left right =>
        inOrder left right :=
      children_sorted outline ▸ List.pairwise_mergeSort inOrder_trans
        inOrder_total _
    apply eq_of_childless (childless_sorted outline.sorted)
    rw [children_sorted outline.sorted, List.map_congr_left sameChild,
      List.map_id, List.mergeSort_of_pairwise ordered]

/-! ## Equal sorted outlines -/

/-- Outlines that are sorted alike are reorderings of each other. -/
theorem reordered_of_sorted_eq {left right : Outline}
    (same : left.sorted = right.sorted) :
    Reordered left right := by
  induction left using induction_on_children generalizing right with
  | step left below =>
    have perm : (left.children.map sorted).Perm (right.children.map sorted) :=
      ((perm_children_sorted left).symm.trans
        (.of_eq (congrArg children same))).trans
        (perm_children_sorted right)
    -- The children on the right, put in the order in which those on the left
    -- are sorted like them.
    obtain ⟨between, sameSorted, isPerm⟩ :=
      (congrFun₂ (List.eq_map_comp_perm sorted) _ right.children).mpr perm
    have alike : List.Forall₂ (fun child other => child.sorted = other.sorted)
        left.children between := by
      rw [← List.forall₂_eq_eq_eq, List.forall₂_map_left_iff,
        List.forall₂_map_right_iff] at sameSorted
      exact sameSorted
    have inside := (List.forall₂_and_left left.children between).mpr
      ⟨fun child member other => @below child member other, alike⟩
    refine .intro ?_ (inside.imp fun child other known => known.1 other known.2)
      isPerm
    rw [← childless_sorted, same, childless_sorted]

/-- Children that tie in the order are one child if siblings are distinct. -/
theorem Distinct.eq_of_tie {outline first second : Outline}
    (distinct : outline.Distinct) (isFirst : first ∈ outline.children)
    (isSecond : second ∈ outline.children)
    (sameIndex : first.index = second.index)
    (samePath : first.path = second.path) :
    first = second := by
  obtain ⟨apart, _⟩ := distinct
  exact List.inj_on_of_nodup_map apart isFirst isSecond
    (Prod.ext sameIndex samePath)

/-- Where no siblings tie, reorderings are sorted alike. -/
theorem Reordered.sorted_eq {left right : Outline}
    (reordered : Reordered left right) (distinct : left.Distinct) :
    left.sorted = right.sorted := by
  induction left using induction_on_children generalizing right with
  | step left below =>
    obtain ⟨sameOwn, inside, perm⟩ := reordered
    rename_i between
    have alike : left.children.map sorted = between.map sorted := by
      obtain ⟨_, distinctBelow⟩ := distinct
      have known := (List.forall₂_and_left left.children between).mpr
        ⟨fun child member other reordered =>
          @below child member other reordered (distinctBelow child member),
          inside⟩
      rw [← List.forall₂_eq_eq_eq, List.forall₂_map_left_iff,
        List.forall₂_map_right_iff]
      exact known.imp fun child other both => both.1 other both.2
    apply eq_of_childless
    · rw [childless_sorted, childless_sorted, sameOwn]
    · rw [children_sorted, children_sorted]
      apply mergeSort_eq_of_perm inOrder_trans inOrder_total
        (alike ▸ perm.map sorted)
      intro first isFirst second isSecond before after
      obtain ⟨child, isChild, rfl⟩ := List.mem_map.mp isFirst
      obtain ⟨other, isOther, rfl⟩ := List.mem_map.mp isSecond
      obtain ⟨sameIndex, samePath⟩ := eq_of_inOrder before after
      rw [sorted_index, sorted_index] at sameIndex
      rw [sorted_path, sorted_path] at samePath
      rw [distinct.eq_of_tie isChild isOther sameIndex samePath]

/-- Sorting brings outlines into a canonical form.  It is idempotent and only
reorders siblings; and where no two siblings share both the index flag and the
path, two outlines are sorted alike exactly when one is a reordering of the
other. -/
theorem sorted_eq_iff_reordered (left right : Outline) :
    left.sorted.sorted = left.sorted ∧ Reordered left left.sorted ∧
      (left.Distinct -> (left.sorted = right.sorted ↔ Reordered left right)) :=
  ⟨sorted_sorted left, reordered_of_sorted_eq (sorted_sorted left).symm,
    fun distinct =>
      ⟨reordered_of_sorted_eq, fun reordered => reordered.sorted_eq distinct⟩⟩

/-- The outline of a site with a shop and its documents. -/
def storefront : Outline :=
  { path := some "/"
    children := [
      { index := true, content := some .page, source := some "app/page.rs" },
      { path := some "shop",
        children := [{ path := some "cart" }, { path := some "about" }] },
      { path := some "docs" }] }

/-- The same site with siblings in another order. -/
def shuffledStorefront : Outline :=
  { path := some "/"
    children := [
      { path := some "docs" },
      { path := some "shop",
        children := [{ path := some "about" }, { path := some "cart" }] },
      { index := true, content := some .page, source := some "app/page.rs" }] }

theorem sorted_eq_iff_reordered_storefront :
    storefront.Distinct ∧ Reordered storefront shuffledStorefront ∧
      storefront.sorted = shuffledStorefront.sorted := by
  have leaf {outline : Outline} (empty : outline.children = []) :
      outline.Distinct :=
    .intro (empty ▸ List.nodup_nil) (empty ▸ List.forall_mem_nil _)
  have distinct : storefront.Distinct := by
    refine .intro (by decide) ?_
    simp only [storefront, List.forall_mem_cons]
    refine ⟨leaf rfl, .intro (by decide) ?_, leaf rfl, List.forall_mem_nil _⟩
    simp only [List.forall_mem_cons]
    exact ⟨leaf rfl, leaf rfl, List.forall_mem_nil _⟩
  have same (outline : Outline) : Reordered outline outline :=
    reordered_of_sorted_eq rfl
  have shop : Reordered
      { path := some "shop",
        children := [{ path := some "cart" }, { path := some "about" }] }
      { path := some "shop",
        children := [{ path := some "about" }, { path := some "cart" }] } :=
    .intro rfl (List.forall₂_same.mpr fun child _ => same child) (by decide)
  have reordered : Reordered storefront shuffledStorefront :=
    .intro rfl (.cons (same _) (.cons shop (.cons (same _) .nil))) (by decide)
  have canonical :=
    (sorted_eq_iff_reordered storefront shuffledStorefront).2.2 distinct
  exact ⟨distinct, reordered, canonical.mpr reordered⟩

end Outline
end FileRoutes
