import FileRoutes.Proofs.Completion

/-!
# Finished trees

A tree is finished when the not-found pass has nothing to add to it.  One pass
finishes every tree, so a second pass changes nothing, whatever views it is
given.
-/

namespace FileRoutes
namespace RouteNode

mutual

/-- What holds of a node when it holds of its children holds of every node. -/
theorem induction_on_children {holds : RouteNode -> Prop}
    (step : ∀ node, (∀ child ∈ node.children, holds child) -> holds node)
    (node : RouteNode) : holds node := by
  obtain ⟨path, index, dynamic, content, error, children⟩ := node
  exact step _ (induction_on_forest step children)

/-- Induction over the nodes of a forest, from their children. -/
theorem induction_on_forest {holds : RouteNode -> Prop}
    (step : ∀ node, (∀ child ∈ node.children, holds child) -> holds node)
    (forest : List RouteNode) : ∀ node ∈ forest, holds node := by
  match forest with
  | [] => exact fun _ member => absurd member List.not_mem_nil
  | first :: rest =>
    rw [List.forall_mem_cons]
    exact ⟨induction_on_children step first, induction_on_forest step rest⟩

end

/-- A tree to which the pass has nothing to add: each node with children that
the pass visits has a node for unmatched paths and, below the root, every index
child it needs. -/
inductive Finished : Bool -> RouteNode -> Prop
  | leaf {isRoot : Bool} {node : RouteNode} (childless : node.children = []) :
      Finished isRoot node
  | inner {isRoot : Bool} {node : RouteNode}
      (covered : node.children.any isCatchAll = true)
      (indexed : (!isRoot && node.needsIndex) = false)
      (below : ∀ child ∈ node.children, child.index = false ->
        child.isCatchAll = false -> Finished false child) :
      Finished isRoot node

theorem withCatchAll_of_covered {node : RouteNode}
    (covered : node.children.any isCatchAll = true) (view : View) :
    node.withCatchAll view = node := by
  rw [withCatchAll, if_pos covered]

theorem ne_nil_of_covered {node : RouteNode}
    (covered : node.children.any isCatchAll = true) : node.children ≠ [] := by
  intro childless
  rw [childless] at covered
  cases covered

/-- The pass leaves finished trees as they are. -/
theorem Finished.inject_eq {isRoot : Bool} {node : RouteNode}
    (finished : Finished isRoot node) (views : NotFoundViews)
    (route : List String) :
    inject views route isRoot node = node := by
  induction finished generalizing route with
  | leaf childless => exact inject_of_nil _ _ _ _ childless
  | @inner isRoot node covered indexed below step =>
    have sameChild :
        ∀ child ∈ node.children, injectChild views route child = id child := by
      intro child member
      unfold injectChild
      split
      · rfl
      · rename_i visited
        rw [Bool.or_eq_true, not_or, Bool.not_eq_true, Bool.not_eq_true]
          at visited
        exact step child member visited.1 visited.2 _
    have sameNode : node.injectBelow views route = node := by
      rw [injectBelow, List.map_congr_left sameChild, List.map_id]
      cases node
      rfl
    rw [inject_of_ne_nil _ _ _ _ (ne_nil_of_covered covered),
      sameNode, complete]
    simp only [indexed, Bool.false_eq_true, if_false,
      withCatchAll_of_covered covered]

/-! ## One pass finishes a tree -/

theorem covered_withCatchAll (node : RouteNode) (view : View) :
    (node.withCatchAll view).children.any isCatchAll = true := by
  unfold withCatchAll
  split
  · rename_i covered
    exact covered
  · have last : (catchAll view).isCatchAll = true := rfl
    simp [last]

theorem hasIndexChild_withCatchAll (node : RouteNode) (view : View) :
    (node.withCatchAll view).hasIndexChild = node.hasIndexChild := by
  unfold withCatchAll
  split
  · rfl
  · have notIndex : (catchAll view).index = false := rfl
    simp [hasIndexChild, notIndex]

theorem needsIndex_withCatchAll (node : RouteNode) (view : View) :
    (node.withCatchAll view).needsIndex = node.needsIndex := by
  have samePath := (sameHead_withCatchAll view node).path_eq
  rw [needsIndex, needsIndex, hasIndexChild_withCatchAll, hasPlainPath,
    hasPlainPath, samePath]

theorem needsIndex_withNotFoundIndex (node : RouteNode) (view : View) :
    (node.withNotFoundIndex view).needsIndex = false := by
  have indexed : (node.withNotFoundIndex view).hasIndexChild = true := rfl
  rw [needsIndex, indexed, Bool.not_true, Bool.and_false]

/-- A completed node below the root needs no index. -/
theorem needsIndex_complete (views : NotFoundViews) (route : List String)
    (isRoot : Bool) (node : RouteNode) :
    (!isRoot && (complete views route isRoot node).needsIndex) = false := by
  rw [complete, needsIndex_withCatchAll]
  split
  · rw [needsIndex_withNotFoundIndex, Bool.and_false]
  · rename_i indexed
    exact Bool.eq_false_iff.mpr indexed

/-- The only new child is the catch-all child. -/
theorem mem_children_withCatchAll {node child : RouteNode} {view : View}
    (member : child ∈ (node.withCatchAll view).children) :
    child ∈ node.children ∨ child = catchAll view := by
  unfold withCatchAll at member
  split at member
  · exact Or.inl member
  · exact (List.mem_append.mp member).imp_right List.mem_singleton.mp

/-- The children of a completed node are those that were there, a new index
child and a new node for unmatched paths. -/
theorem mem_children_complete {views : NotFoundViews} {route : List String}
    {isRoot : Bool} {node child : RouteNode}
    (member : child ∈ (complete views route isRoot node).children) :
    child ∈ node.children ∨
      child = indexOf (.notFound (views.nearest (Text.joinSlash route))) ∨
      child = catchAll (views.nearest (Text.joinSlash route)) := by
  rcases mem_children_withCatchAll member with inside | isLast
  · split at inside
    · rcases List.mem_cons.mp inside with isFirst | old
      · exact Or.inr (Or.inl isFirst)
      · exact Or.inl old
    · exact Or.inl inside
  · exact Or.inr (Or.inr isLast)

/-- Whatever the tree, the pass finishes it. -/
theorem finished_inject (views : NotFoundViews) (route : List String)
    (isRoot : Bool) (node : RouteNode) :
    Finished isRoot (inject views route isRoot node) := by
  induction node using induction_on_children generalizing route isRoot with
  | step node finishedBelow =>
    by_cases childless : node.children = []
    · rw [inject_of_nil _ _ _ _ childless]
      exact .leaf childless
    · rw [inject_of_ne_nil _ _ _ _ childless]
      refine .inner (covered_withCatchAll _ _) (needsIndex_complete _ _ _ _) ?_
      intro child member notIndex notCatchAll
      rcases mem_children_complete member with old | isIndex | isCatchAll
      · obtain ⟨original, originalMember, isChild⟩ := List.mem_map.mp old
        -- A child that the pass skips would be one of the two kinds ruled out
        -- here.
        have sameHead := sameHead_injectChild views route original
        have visited : (original.index || original.isCatchAll) = false := by
          rw [isCatchAll, matchesPath, ← isChild, sameHead.index_eq,
            sameHead.path_eq]
            at notCatchAll
          rw [← isChild, sameHead.index_eq] at notIndex
          rw [notIndex, Bool.false_or]
          exact notCatchAll
        rw [← isChild, injectChild, if_neg (by simp [visited])]
        exact finishedBelow original originalMember _ false
      · rw [isIndex] at notIndex
        cases notIndex
      · rw [isCatchAll] at notCatchAll
        cases notCatchAll

/-! ## The whole pass -/

/-- The pass leaves a finished tree with a catch-all child at its root as it
is. -/
theorem addNotFound_of_covered {node : RouteNode}
    (finished : Finished true node)
    (covered : node.children.any isCatchAll = true) (views : NotFoundViews) :
    node.addNotFound views = node := by
  rw [addNotFound, openRoot_of_children (ne_nil_of_covered covered),
    finished.inject_eq, withCatchAll_of_covered covered]

/-- The pass finishes every tree. -/
theorem finished_addNotFound (views : NotFoundViews) (node : RouteNode) :
    Finished true (node.addNotFound views) := by
  have injected := finished_inject views [] true node.openRoot
  unfold addNotFound
  refine .inner (covered_withCatchAll _ _) rfl ?_
  intro child member notIndex notCatchAll
  rcases mem_children_withCatchAll member with old | isLast
  · cases injected with
    | leaf childless =>
      rw [childless] at old
      cases old
    | inner covered indexed below => exact below child old notIndex notCatchAll
  · rw [isLast] at notCatchAll
    cases notCatchAll

/-- A second not-found pass changes nothing: on every tree and for all views, it
adds, moves and relabels no node. -/
theorem addNotFound_addNotFound (node : RouteNode)
    (views others : NotFoundViews) :
    (node.addNotFound views).addNotFound others = node.addNotFound views :=
  addNotFound_of_covered (finished_addNotFound views node)
    (covered_withCatchAll _ _) others

end RouteNode
end FileRoutes
