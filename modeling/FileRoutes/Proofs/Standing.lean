import FileRoutes.Proofs.Finished
import FileRoutes.Proofs.Groundwork

/-!
# What stands at a route

A completed tree has a node at each route of the tree it was made from, and a
node for unmatched paths below each node that branches out without one.  A
branch that has the path of such a node already is passed over, with all that is
below it.
-/

namespace FileRoutes
namespace RouteNode

section Finish

variable (views : NotFoundViews) (route : List String) (node : RouteNode)

/-- The node at a route as the whole pass leaves it.  It is completed when it
has children, and the root in any case. -/
def finish : RouteNode :=
  if route = [] ∨ node.children ≠ [] then
    complete views route route.isEmpty (node.injectBelow views route)
  else node

theorem injectBelow_of_nil (childless : node.children = []) :
    node.injectBelow views route = node := by
  obtain ⟨path, index, dynamic, content, error, children⟩ := node
  rw [injectBelow, childless, show children = [] from childless, List.map_nil]

theorem inject_eq_finish (inner : route ≠ []) :
    inject views route false node = finish views route node := by
  have notRoot : route.isEmpty = false := by simpa using inner
  by_cases childless : node.children = []
  · rw [inject_of_nil _ _ _ _ childless, finish,
      if_neg (by simp [inner, childless])]
  · rw [inject_of_ne_nil _ _ _ _ childless, finish,
      if_pos (Or.inr childless), notRoot]

/-- The pass opens the root and finishes it. -/
theorem addNotFound_eq_finish (root : RouteNode) :
    root.addNotFound views = finish views [] root.openRoot := by
  rw [addNotFound, finish, if_pos (Or.inl rfl)]
  by_cases childless : root.openRoot.children = []
  · rw [inject_of_nil _ _ _ _ childless, injectBelow_of_nil _ _ _ childless]
    rfl
  · rw [inject_of_ne_nil _ _ _ _ childless]
    exact withCatchAll_of_covered (covered_withCatchAll _ _) _

theorem sameHead_finish : SameHead (finish views route node) node := by
  unfold finish
  split
  · exact (sameHead_complete _ _ _ _).trans (sameHead_withChildren node _)
  · exact .refl node

/-- A completed node has its old branches, each completed in its turn, and one
for unmatched paths. -/
theorem branchAt_finish (path : Option String) :
    (finish views route node).branchAt? path =
      ((node.branchAt? path).map (injectChild views route)).or
        (if path = some catchAllPath ∧ (route = [] ∨ node.children ≠ []) then
          some (catchAll (views.nearest (Text.joinSlash route)))
        else none) := by
  by_cases visited : route = [] ∨ node.children ≠ []
  · rw [finish, if_pos visited, branchAt_complete, branchAt_injectBelow]
    simp [visited]
  · have childless : node.children = [] := by simpa using (not_or.mp visited).2
    have noBranch : node.branchAt? path = none := by
      rw [branchAt?, childless]; rfl
    rw [finish, if_neg visited, noBranch, if_neg fun both => visited both.2]
    rfl

/-- A branch of a finished node was a branch before, or it is the node for
unmatched paths. -/
theorem branchAt_finish_eq_some {path : Option String} {child : RouteNode}
    (found : (finish views route node).branchAt? path = some child) :
    (∃ branch, node.branchAt? path = some branch ∧
        child = injectChild views route branch) ∨
      node.branchAt? path = none ∧ path = some catchAllPath ∧
        child = catchAll (views.nearest (Text.joinSlash route)) := by
  rw [branchAt_finish] at found
  cases old : node.branchAt? path with
  | some branch =>
    rw [old] at found
    exact Or.inl ⟨branch, rfl, (Option.some.inj found).symm⟩
  | none =>
    rw [old, Option.map_none, Option.none_or] at found
    split at found
    · rename_i isCatchAll
      exact Or.inr ⟨rfl, isCatchAll.1, (Option.some.inj found).symm⟩
    · cases found

/-- A child of a finished node was a child before, or it shows the nearest
not-found view. -/
theorem mem_children_finish {child : RouteNode}
    (member : child ∈ (finish views route node).children) :
    (∃ original ∈ node.children, child = injectChild views route original) ∨
      child.content =
        some (.notFound (views.nearest (Text.joinSlash route))) := by
  unfold finish at member
  split at member
  · rcases mem_children_complete member with old | isIndex | isCatchAll
    · obtain ⟨original, originalMember, isChild⟩ := List.mem_map.mp old
      exact Or.inl ⟨original, originalMember, isChild.symm⟩
    · exact Or.inr (isIndex ▸ rfl)
    · exact Or.inr (isCatchAll ▸ rfl)
  · rename_i unvisited
    obtain ⟨_, childless⟩ := not_or.mp unvisited
    rw [not_not.mp childless] at member
    cases member

/-- A new catch-all child is the last child. -/
theorem getLast_withCatchAll (view : View)
    (absent : node.branchAt? (some catchAllPath) = none) :
    (node.withCatchAll view).children.getLast? = some (catchAll view) := by
  have uncovered : ¬node.children.any isCatchAll = true := by
    rw [any_isCatchAll_iff, absent]
    exact Bool.false_ne_true
  rw [withCatchAll, if_neg uncovered]
  exact List.getLast?_concat

/-- The node for unmatched paths is put behind all children. -/
theorem getLast_finish (absent : node.branchAt? (some catchAllPath) = none)
    (nonempty : (finish views route node).children ≠ []) :
    (finish views route node).children.getLast? =
      some (catchAll (views.nearest (Text.joinSlash route))) := by
  unfold finish at nonempty ⊢
  split at nonempty
  · rename_i visited
    rw [if_pos visited, complete]
    apply getLast_withCatchAll
    split
    · rw [branchAt_withNotFoundIndex, branchAt_injectBelow, absent,
        Option.map_none]
    · rw [branchAt_injectBelow, absent, Option.map_none]
  · rename_i unvisited
    exact absurd (Or.inr nonempty) unvisited

end Finish

/-! ## Routes of a completed tree -/

/-- No node of a tree has a branch that is taken for one of the pass. -/
def Unstarred (tree : RouteNode) : Prop :=
  ∀ route node, tree.reach? route = some node ->
    node.branchAt? (some catchAllPath) = none

/-- The nodes that a completed tree has at its routes. -/
inductive Standing (views : NotFoundViews) (tree : RouteNode) :
    List String -> RouteNode -> Prop
  /-- A node outside the folders that the pass takes for its own. -/
  | completed {route : List String} {node : RouteNode}
      (outside : catchAllPath ∉ route)
      (found : tree.reach? (route.map some) = some node) :
      Standing views tree route (finish views route node)
  /-- A node in such a folder. -/
  | kept {route : List String} {node : RouteNode}
      (inside : catchAllPath ∈ route)
      (found : tree.reach? (route.map some) = some node) :
      Standing views tree route node
  /-- A node for unmatched paths. -/
  | added {route : List String} {node : RouteNode}
      (outside : catchAllPath ∉ route)
      (found : tree.reach? (route.map some) = some node)
      (absent : node.branchAt? (some catchAllPath) = none) :
      Standing views tree (route ++ [catchAllPath])
        (catchAll (views.nearest (Text.joinSlash route)))

variable {views : NotFoundViews} {tree : RouteNode}

theorem reach_map_append {route : List String} {name : String}
    {node branch : RouteNode} (found : tree.reach? (route.map some) = some node)
    (isBranch : node.branchAt? (some name) = some branch) :
    tree.reach? ((route ++ [name]).map some) = some branch := by
  rw [List.map_append, List.map_singleton, reach_append_singleton, found]
  exact isBranch

/-- Every branch of an authored tree has a name. -/
theorem Authored.exists_name (authored : tree.Authored) {route : List String}
    {path : Option String} {node branch : RouteNode}
    (found : tree.reach? (route.map some) = some node)
    (isBranch : node.branchAt? path = some branch) :
    ∃ name, path = some name := by
  have reached : tree.reach? (route.map some ++ [path]) = some branch := by
    rw [reach_append_singleton, found]
    exact isBranch
  obtain ⟨names, isNames⟩ := authored.named reached
  have member : path ∈ names.map some :=
    isNames ▸ List.mem_append_right _ (by simp)
  obtain ⟨name, _, isName⟩ := List.mem_map.mp member
  exact ⟨name, isName.symm⟩

/-- One step down a completed tree. -/
theorem Standing.branchAt (authored : tree.Authored) {route : List String}
    {node branch : RouteNode} {path : Option String}
    (standing : Standing views tree route node)
    (isBranch : node.branchAt? path = some branch) :
    ∃ name, path = some name ∧
      Standing views tree (route ++ [name]) branch := by
  cases standing with
  | @completed route original outside found =>
    rcases branchAt_finish_eq_some _ _ _ isBranch with
      ⟨old, wasBranch, isOld⟩ | ⟨absent, isCatchAllPath, isAdded⟩
    · obtain ⟨name, isName⟩ := authored.exists_name found wasBranch
      subst isName
      rw [injectChild_of_branchAt _ _ wasBranch] at isOld
      refine ⟨name, rfl, ?_⟩
      by_cases isCatchAllName : name = catchAllPath
      · rw [isOld, if_pos (congrArg some isCatchAllName)]
        exact .kept (by simp [isCatchAllName]) (reach_map_append found wasBranch)
      · rw [isOld, if_neg (mt Option.some.inj isCatchAllName), Option.getD_some,
          inject_eq_finish _ _ _ (by simp)]
        refine .completed ?_ (reach_map_append found wasBranch)
        simpa [outside] using Ne.symm isCatchAllName
    · subst isCatchAllPath
      rw [isAdded]
      exact ⟨catchAllPath, rfl, .added outside found absent⟩
  | kept inside found =>
    obtain ⟨name, isName⟩ := authored.exists_name found isBranch
    subst isName
    exact ⟨name, rfl,
      .kept (List.mem_append_left _ inside) (reach_map_append found isBranch)⟩
  | added outside found absent => cases isBranch

/-- Whatever a completed tree has at a route is completed, kept or added. -/
theorem standing_of_reach (authored : tree.Authored)
    {route : List (Option String)}
    {node : RouteNode}
    (reached : (finish views [] tree).reach? route = some node) :
    ∃ names : List String, route = names.map some ∧
      Standing views tree names node := by
  induction route using List.reverseRecOn generalizing node with
  | nil =>
    cases reached
    exact ⟨[], rfl, .completed List.not_mem_nil rfl⟩
  | append_singleton front path step =>
    rw [reach_append_singleton] at reached
    obtain ⟨parent, isParent, isBranch⟩ := Option.bind_eq_some_iff.mp reached
    obtain ⟨names, isNames, standing⟩ := step isParent
    obtain ⟨name, isName, below⟩ := standing.branchAt authored isBranch
    refine ⟨names ++ [name], ?_, below⟩
    rw [isNames, isName, List.map_append, List.map_singleton]

end RouteNode
end FileRoutes
