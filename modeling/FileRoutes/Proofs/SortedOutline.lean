import FileRoutes.Proofs.Lookalike

/-!
# Sorted outlines

The sorted outline of a tidy tree does not depend on the order of its branches:
siblings have different paths, and index nodes come first, so there is one way
to sort them.
-/

namespace FileRoutes
namespace RouteNode

/-- The sorted outline of a tree. -/
def sketch (tree : RouteNode) : Outline :=
  tree.outline.sorted

theorem sortedForest_outlineForest (forest : List RouteNode) :
    Outline.sortedForest (outlineForest forest) = forest.map sketch := by
  induction forest with
  | nil => rfl
  | cons first rest step =>
    rw [outlineForest, Outline.sortedForest, step, List.map_cons, sketch]

/-- The sketch of a node is its face above the sorted sketches of its
children. -/
theorem sketch_eq (node : RouteNode) :
    node.sketch =
      { node.face.own with
        index := node.index
        children := (node.children.map sketch).mergeSort Outline.inOrder } := by
  obtain ⟨path, index, dynamic, content, error, children⟩ := node
  rw [sketch, outline, Outline.sorted, sortedForest_outlineForest]
  rfl

theorem sketch_index (node : RouteNode) : node.sketch.index = node.index := by
  rw [sketch_eq]

theorem sketch_path (node : RouteNode) : node.sketch.path = node.path := by
  rw [sketch_eq]
  rfl

/-- No two children of a tidy node tie. -/
theorem Tidy.eq_of_tie {node first second : RouteNode} (tidy : node.Tidy)
    (firstMember : first ∈ node.children)
    (secondMember : second ∈ node.children)
    (sameIndex : first.index = second.index)
    (samePath : first.path = second.path) :
    first = second := by
  rcases tidy.mem_children firstMember with
    ⟨content, held, isFirst⟩ | firstBranch
  · rcases tidy.mem_children secondMember with
      ⟨other, otherHeld, isSecond⟩ | secondBranch
    · rw [held] at otherHeld
      rw [isFirst, isSecond, Option.some.inj otherHeld]
    · rw [isFirst, indexOf_index, tidy.plain second secondBranch] at sameIndex
      cases sameIndex
  · rcases tidy.mem_children secondMember with
      ⟨other, _, isSecond⟩ | secondBranch
    · rw [isSecond, indexOf_index, tidy.plain first firstBranch] at sameIndex
      cases sameIndex
    · have found := tidy.branchAt_of_mem firstBranch
      rw [samePath, tidy.branchAt_of_mem secondBranch] at found
      exact (Option.some.inj found).symm

/-- A tidy node has a branch with a path exactly if one is found there. -/
theorem Tidy.mem_paths_iff {node : RouteNode} (tidy : node.Tidy)
    (path : Option String) :
    path ∈ node.branches.map RouteNode.path ↔ node.branchAt? path ≠ none := by
  rw [branchAt_eq_find_branches, Ne, find_eq_none_iff tidy.plain, not_not]

/-- Branches that are sketched alike path by path are sketched alike in some
order. -/
theorem Alike.perm_branches {left right : RouteNode} (alike : Alike left right)
    (leftTidy : left.Tidy) (rightTidy : right.Tidy)
    (below : ∀ path, (left.branchAt? path).map sketch =
      (right.branchAt? path).map sketch) :
    (left.branches.map sketch).Perm (right.branches.map sketch) := by
  have shown (node : RouteNode) (tidy : node.Tidy) :
      (node.branches.map sketch).map some =
        (node.branches.map RouteNode.path).map fun path =>
          (node.branchAt? path).map sketch := by
    have branches := congrArg (List.map (Option.map sketch)) tidy.map_branchAt
    simp only [List.map_map, Function.comp_def] at branches ⊢
    exact branches.symm
  have samePaths : (left.branches.map RouteNode.path).Perm
      (right.branches.map RouteNode.path) := by
    rw [List.perm_ext_iff_of_nodup leftTidy.arranged.distinct
      rightTidy.arranged.distinct]
    intro path
    rw [leftTidy.mem_paths_iff, rightTidy.mem_paths_iff, Ne, Ne,
      alike.branchAt_eq_none_iff]
  have optional : ((left.branches.map sketch).map some).Perm
      ((right.branches.map sketch).map some) := by
    rw [shown left leftTidy, shown right rightTidy]
    simp only [below]
    exact samePaths.map _
  simpa [List.filterMap_map] using optional.filterMap id

/-- Nodes that look alike have the same children up to order if they look alike
below. -/
theorem Alike.perm_children {left right : RouteNode} (alike : Alike left right)
    (leftTidy : left.Tidy) (rightTidy : right.Tidy)
    (below : ∀ path, (left.branchAt? path).map sketch =
      (right.branchAt? path).map sketch) :
    (left.children.map sketch).Perm (right.children.map sketch) := by
  have slotSketch (slot : Option RouteContent) :
      (slot.map indexOf).toList.map sketch =
        (slot.map fun content => (indexOf content).outline).toList.map
          Outline.sorted := by
    cases slot <;> rfl
  have sameSlot : (left.slot?.map fun content => (indexOf content).outline) =
      right.slot?.map fun content => (indexOf content).outline :=
    congrArg Face.slot alike.face_eq
  rw [leftTidy.arranged.children_eq, rightTidy.arranged.children_eq,
    arrange, arrange, List.map_append, List.map_append, slotSketch,
    slotSketch, sameSlot]
  exact (alike.perm_branches leftTidy rightTidy below).append_left _

/-- Tidy trees that look alike have the same sorted outline. -/
theorem Alike.same_sketch {left right : RouteNode} (alike : Alike left right)
    (leftTidy : left.Tidy) (rightTidy : right.Tidy) :
    left.sketch = right.sketch := by
  -- The induction descends in one tree; the paths of its branches lead to those
  -- of the other.
  induction leftTidy generalizing right with
  | @intro left notIndex arranged deeper step =>
    have leftTidy : left.Tidy := .intro notIndex arranged deeper
    have below (path : Option String) :
        (left.branchAt? path).map sketch =
          (right.branchAt? path).map sketch := by
      rcases alike.branchAt path with
        ⟨noLeft, noRight⟩ | ⟨leftBranch, rightBranch, isLeft, isRight, branches⟩
      · rw [noLeft, noRight]
      · have member : leftBranch ∈ left.branches := by
          rw [branchAt_eq_find_branches] at isLeft
          exact List.mem_of_find?_eq_some isLeft
        rw [isLeft, isRight, Option.map_some, Option.map_some,
          step leftBranch member branches (rightTidy.of_branchAt isRight)]
    have sameChildren : (left.children.map sketch).mergeSort Outline.inOrder =
        (right.children.map sketch).mergeSort Outline.inOrder := by
      apply mergeSort_eq_of_perm Outline.inOrder_trans Outline.inOrder_total
        (alike.perm_children leftTidy rightTidy below)
      intro first firstMember second secondMember before after
      obtain ⟨child, childMember, isFirst⟩ := List.mem_map.mp firstMember
      obtain ⟨other, otherMember, isSecond⟩ := List.mem_map.mp secondMember
      obtain ⟨sameIndex, samePath⟩ := Outline.eq_of_inOrder before after
      rw [← isFirst, ← isSecond, sketch_index, sketch_index] at sameIndex
      rw [← isFirst, ← isSecond, sketch_path, sketch_path] at samePath
      rw [← isFirst, ← isSecond,
        leftTidy.eq_of_tie childMember otherMember sameIndex samePath]
    rw [sketch_eq left, sketch_eq right, sameChildren, alike.face_eq, notIndex,
      rightTidy.index_eq]

end RouteNode
end FileRoutes
