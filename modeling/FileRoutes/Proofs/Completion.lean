import FileRoutes.NotFound
import FileRoutes.Proofs.Tidy

/-!
# Completing trees

The not-found pass only puts children around those that are there.  Every node
keeps its own fields, and every child is completed where it stands, so a tidy
tree stays tidy.
-/

namespace FileRoutes
namespace RouteNode

/-- Two nodes that differ in their children only. -/
structure SameHead (left right : RouteNode) : Prop where
  path_eq : left.path = right.path
  index_eq : left.index = right.index
  dynamic_eq : left.dynamic = right.dynamic
  content_eq : left.content = right.content
  error_eq : left.error = right.error

theorem SameHead.refl (node : RouteNode) : SameHead node node :=
  ⟨rfl, rfl, rfl, rfl, rfl⟩

theorem SameHead.trans {first second third : RouteNode}
    (left : SameHead first second) (right : SameHead second third) :
    SameHead first third where
  path_eq := left.path_eq.trans right.path_eq
  index_eq := left.index_eq.trans right.index_eq
  dynamic_eq := left.dynamic_eq.trans right.dynamic_eq
  content_eq := left.content_eq.trans right.content_eq
  error_eq := left.error_eq.trans right.error_eq

/-! ## What the pass keeps -/

section Heads

variable (views : NotFoundViews) (view : View) (route : List String)
  (isRoot : Bool) (node : RouteNode)

theorem sameHead_withChildren (children : List RouteNode) :
    SameHead { node with children := children } node :=
  ⟨rfl, rfl, rfl, rfl, rfl⟩

theorem sameHead_withCatchAll : SameHead (node.withCatchAll view) node := by
  unfold withCatchAll
  split
  · exact .refl node
  · exact sameHead_withChildren node _

/-- Completing a node leaves its head as it is. -/
theorem sameHead_complete :
    SameHead (complete views route isRoot node) node := by
  unfold complete
  refine (sameHead_withCatchAll _ _).trans ?_
  split
  · exact sameHead_withChildren node _
  · exact .refl node

/-- A child as the pass leaves it: index nodes and nodes for unmatched paths
are skipped. -/
def injectChild (child : RouteNode) : RouteNode :=
  if child.index || child.isCatchAll then child
  else inject views (route ++ [child.path.getD ""]) false child

/-- The pass treats the children of a node one by one. -/
theorem injectForest_eq_map (children : List RouteNode) :
    injectForest views route children =
      children.map (injectChild views route) := by
  induction children with
  | nil => rfl
  | cons child rest step => rw [injectForest, step, List.map_cons, injectChild]

/-- A node with its children as the pass leaves them. -/
def injectBelow : RouteNode :=
  { node with children := node.children.map (injectChild views route) }

theorem inject_of_nil (empty : node.children = []) :
    inject views route isRoot node = node := by
  obtain ⟨path, index, dynamic, content, error, children⟩ := node
  rw [inject]
  simp [show children = [] from empty]

/-- A node with children is completed after the pass over its children. -/
theorem inject_of_ne_nil (nonempty : node.children ≠ []) :
    inject views route isRoot node =
      complete views route isRoot (node.injectBelow views route) := by
  obtain ⟨path, index, dynamic, content, error, children⟩ := node
  rw [inject, injectForest_eq_map]
  simp [show children ≠ [] from nonempty, injectBelow]

/-- The pass changes the children of a node only. -/
theorem sameHead_inject : SameHead (inject views route isRoot node) node := by
  by_cases empty : node.children = []
  · rw [inject_of_nil _ _ _ _ empty]
    exact .refl node
  · rw [inject_of_ne_nil _ _ _ _ empty]
    exact (sameHead_complete _ _ _ _).trans (sameHead_withChildren node _)

theorem sameHead_injectChild (child : RouteNode) :
    SameHead (injectChild views route child) child := by
  unfold injectChild
  split
  · exact .refl child
  · exact sameHead_inject _ _ _ child

end Heads

/-! ## What is below a completed node -/

/-- A node has a catch-all child exactly if some branch has the catch-all
path. -/
theorem any_isCatchAll_iff {node : RouteNode} :
    node.children.any isCatchAll = true ↔
      (node.branchAt? (some catchAllPath)).isSome := by
  rw [branchAt?, List.find?_isSome, List.any_eq_true]
  rfl

section Below

variable (views : NotFoundViews) (view : View) (route : List String)
  (isRoot : Bool) (node : RouteNode) (path : Option String)

/-- The node for unmatched paths stands in where there is none. -/
theorem branchAt_withCatchAll :
    (node.withCatchAll view).branchAt? path =
      (node.branchAt? path).or
        (if path = some catchAllPath then some (catchAll view) else none) := by
  unfold withCatchAll
  split
  · rename_i present
    rw [any_isCatchAll_iff] at present
    split
    · rename_i isCatchAllPath
      rw [isCatchAllPath, Option.or_of_isSome present]
    · rw [Option.or_none]
  · have matching :
        (catchAll view).matchesPath path = (some catchAllPath == path) := rfl
    rw [branchAt?, branchAt?, List.find?_append, List.find?_singleton, matching]
    by_cases isCatchAllPath : path = some catchAllPath
    · simp [isCatchAllPath]
    · have apart : (some catchAllPath == path) = false :=
        beq_false_of_ne fun same => isCatchAllPath same.symm
      simp [isCatchAllPath, apart]

/-- A catch-all child does not change the content at the index. -/
theorem slot_withCatchAll : (node.withCatchAll view).slot? = node.slot? := by
  unfold withCatchAll
  split
  · rfl
  · have notIndex : (catchAll view).index = false := rfl
    rw [slot?, slot?, indexChild?, indexChild?, List.find?_append,
      List.find?_singleton, notIndex]
    simp

/-- An index child does not change what is found under a path. -/
theorem branchAt_withNotFoundIndex :
    (node.withNotFoundIndex view).branchAt? path = node.branchAt? path := by
  rw [withNotFoundIndex, branchAt?, branchAt?]
  exact List.find?_cons_of_neg (Bool.false_ne_true)

/-- Completing a node adds a branch at the catch-all path and no other. -/
theorem branchAt_complete :
    (complete views route isRoot node).branchAt? path =
      (node.branchAt? path).or
        (if path = some catchAllPath then
          some (catchAll (views.nearest (Text.joinSlash route)))
        else none) := by
  rw [complete]
  simp only [branchAt_withCatchAll]
  split
  · rw [branchAt_withNotFoundIndex]
  · rfl

theorem matchesPath_injectChild (child : RouteNode) :
    (injectChild views route child).matchesPath path =
      child.matchesPath path := by
  have sameHead := sameHead_injectChild views route child
  rw [matchesPath, matchesPath, sameHead.index_eq, sameHead.path_eq]

/-- A branch of the node is found after the pass below it, changed by the
pass. -/
theorem branchAt_injectBelow :
    (node.injectBelow views route).branchAt? path =
      (node.branchAt? path).map (injectChild views route) := by
  rw [injectBelow, branchAt?, branchAt?, List.find?_map]
  congr 2
  funext child
  exact matchesPath_injectChild views route path child

theorem indexChild_injectBelow :
    (node.injectBelow views route).indexChild? = node.indexChild? := by
  have sameTest :
      RouteNode.index ∘ injectChild views route = RouteNode.index := by
    funext child
    exact (sameHead_injectChild views route child).index_eq
  rw [injectBelow, indexChild?, indexChild?, List.find?_map, sameTest]
  cases found : node.children.find? RouteNode.index with
  | none => rfl
  | some child =>
    have isIndex : child.index = true := List.find?_some found
    simp [injectChild, isIndex]

/-- The pass below a node does not change whether the node needs an index. -/
theorem needsIndex_injectBelow :
    (node.injectBelow views route).needsIndex = node.needsIndex := by
  have sameChild :
      (node.injectBelow views route).hasIndexChild = node.hasIndexChild := by
    rw [hasIndexChild, hasIndexChild, injectBelow, List.any_map]
    congr 1
    funext child
    exact (sameHead_injectChild views route child).index_eq
  rw [needsIndex, needsIndex, sameChild]
  rfl

/-- Below a completed node every branch is as the pass leaves it, and there is
one for unmatched paths. -/
theorem branchAt_inject (nonempty : node.children ≠ []) :
    (inject views route isRoot node).branchAt? path =
      ((node.branchAt? path).map (injectChild views route)).or
        (if path = some catchAllPath then
          some (catchAll (views.nearest (Text.joinSlash route)))
        else none) := by
  rw [inject_of_ne_nil _ _ _ _ nonempty, branchAt_complete,
    branchAt_injectBelow]

/-- A completed node shows a not-found view as its index where it lacks one. -/
theorem slot_inject (nonempty : node.children ≠ []) :
    (inject views route isRoot node).slot? =
      if !isRoot && node.needsIndex then
        some (.notFound (views.nearest (Text.joinSlash route)))
      else node.slot? := by
  rw [inject_of_ne_nil _ _ _ _ nonempty, complete]
  simp only [slot_withCatchAll, needsIndex_injectBelow]
  split
  · rfl
  · rw [slot?, indexChild_injectBelow, slot?]

/-- A branch is completed unless it is the one for unmatched paths. -/
theorem injectChild_of_branchAt {parent branch : RouteNode}
    {path : Option String} (found : parent.branchAt? path = some branch) :
    injectChild views route branch =
      if path = some catchAllPath then branch
      else inject views (route ++ [path.getD ""]) false branch := by
  obtain ⟨notIndex, branchPath⟩ := matchesPath_iff.mp (List.find?_some found)
  rw [injectChild, isCatchAll, matchesPath, notIndex, branchPath]
  simp

end Below

/-! ## The content of a childless root -/

/-- A root without children hands its content to a new index child. -/
theorem openRoot_of_leaf {node : RouteNode} {content : RouteContent}
    (childless : node.children = []) (held : node.content = some content) :
    node.openRoot =
      { node with content := none, children := [indexOf content] } := by
  simp only [openRoot, childless, held]

theorem openRoot_of_children {node : RouteNode}
    (nonempty : node.children ≠ []) :
    node.openRoot = node := by
  unfold openRoot
  split
  · rename_i childless _
    exact absurd childless nonempty
  · rfl

theorem openRoot_of_bare {node : RouteNode} (bare : node.content = none) :
    node.openRoot = node := by
  unfold openRoot
  split
  · rename_i held
    rw [bare] at held
    cases held
  · rfl

/-! ## Tidy trees stay tidy -/

/-- A childless node that is no index child and no page is tidy. -/
theorem Tidy.leaf {node : RouteNode} (notIndex : node.index = false)
    (notPage : node.isPage = false) (childless : node.children = []) :
    node.Tidy := by
  have noBranches : node.branches = [] := by simp [branches, childless]
  have noSlot : node.slot? = none := by simp [slot?, indexChild?, childless]
  refine .intro notIndex ⟨notPage, ?_, ?_⟩ ?_
  · rw [childless, noBranches, noSlot]
    rfl
  · rw [noBranches]
    exact List.nodup_nil
  · rw [noBranches]
    intro branch member
    cases member

/-- A tidy node with a catch-all child is tidy. -/
theorem Tidy.withCatchAll {node : RouteNode} (tidy : node.Tidy) (view : View) :
    (node.withCatchAll view).Tidy := by
  unfold RouteNode.withCatchAll
  split
  · exact tidy
  · rename_i absent
    rw [any_isCatchAll_iff, branchAt_eq_find_branches,
      Option.not_isSome_iff_eq_none, find_eq_none_iff tidy.plain] at absent
    have children : node.children ++ [catchAll view] =
        arrange node.slot? (node.branches ++ [catchAll view]) := by
      rw [← arrange_append, ← tidy.arranged.children_eq]
    rw [children]
    apply Tidy.furnish node.slot? tidy.index_eq tidy.arranged.notPage
    · intro branch member
      rcases List.mem_append.mp member with old | new
      · exact tidy.of_mem_branches old
      · rw [List.mem_singleton.mp new]
        exact .leaf rfl rfl rfl
    · rw [List.map_append, List.map_singleton, ← List.concat_eq_append]
      exact tidy.arranged.distinct.concat absent

/-- A tidy node has an index child exactly if its slot is taken. -/
theorem Tidy.hasIndexChild_eq {node : RouteNode} (tidy : node.Tidy) :
    node.hasIndexChild = node.slot?.isSome := by
  rw [hasIndexChild, tidy.arranged.children_eq]
  cases node.slot? with
  | none =>
    rw [Option.isSome_none, List.any_eq_false]
    intro branch member
    simp [tidy.plain branch member]
  | some content => rfl

theorem Tidy.slot_eq_none {node : RouteNode} (tidy : node.Tidy)
    (noIndex : node.hasIndexChild = false) : node.slot? = none := by
  rw [tidy.hasIndexChild_eq] at noIndex
  exact Option.isSome_eq_false_iff.mp noIndex |> Option.isNone_iff_eq_none.mp

/-- A tidy node without an index child may be given one. -/
theorem Tidy.withNotFoundIndex {node : RouteNode} (tidy : node.Tidy)
    (noIndex : node.hasIndexChild = false) (view : View) :
    (node.withNotFoundIndex view).Tidy := by
  have children : indexOf (.notFound view) :: node.children =
      arrange (some (.notFound view)) node.branches := by
    rw [tidy.arranged.children_eq, tidy.slot_eq_none noIndex]
    rfl
  rw [RouteNode.withNotFoundIndex, children]
  exact Tidy.furnish _ tidy.index_eq tidy.arranged.notPage
    (fun _ member => tidy.of_mem_branches member) tidy.arranged.distinct

/-- Completing a tidy node leaves it tidy. -/
theorem Tidy.complete {node : RouteNode} (tidy : node.Tidy)
    (views : NotFoundViews) (route : List String) (isRoot : Bool) :
    (RouteNode.complete views route isRoot node).Tidy := by
  unfold RouteNode.complete
  apply Tidy.withCatchAll
  split
  · rename_i lacking
    apply tidy.withNotFoundIndex
    simp_all [needsIndex]
  · exact tidy

theorem map_injectChild_arrange (views : NotFoundViews) (route : List String)
    (slot : Option RouteContent) (branches : List RouteNode) :
    (arrange slot branches).map (injectChild views route) =
      arrange slot (branches.map (injectChild views route)) := by
  cases slot <;> simp [arrange, injectChild]

theorem Tidy.inject {node : RouteNode} (tidy : node.Tidy)
    (views : NotFoundViews) (route : List String) (isRoot : Bool) :
    (RouteNode.inject views route isRoot node).Tidy := by
  induction tidy generalizing route isRoot with
  | @intro node notIndex arranged below step =>
    have tidy : node.Tidy := .intro notIndex arranged below
    by_cases empty : node.children = []
    · rw [inject_of_nil _ _ _ _ empty]
      exact tidy
    · rw [inject_of_ne_nil _ _ _ _ empty]
      apply Tidy.complete
      rw [injectBelow, arranged.children_eq, map_injectChild_arrange]
      apply Tidy.furnish _ notIndex arranged.notPage
      · intro branch member
        obtain ⟨child, childMember, equal⟩ := List.mem_map.mp member
        rw [← equal, injectChild]
        split
        · exact below child childMember
        · exact step child childMember _ false
      · have paths :
            (node.branches.map (injectChild views route)).map RouteNode.path =
              node.branches.map RouteNode.path := by
          rw [List.map_map]
          apply List.map_congr_left
          exact fun child _ => (sameHead_injectChild views route child).path_eq
        rw [paths]
        exact arranged.distinct

/-- Opening a tidy root leaves it tidy. -/
theorem Tidy.openRoot {node : RouteNode} (tidy : node.Tidy) :
    node.openRoot.Tidy := by
  unfold RouteNode.openRoot
  split
  · rename_i content childless held
    have noBranches : ∀ branch ∈ ([] : List RouteNode), branch.Tidy := by simp
    have opened :
        (({ node with content := none } : RouteNode).furnish
          (some content) []).Tidy :=
      Tidy.furnish (some content) tidy.index_eq rfl noBranches List.nodup_nil
    exact opened
  · exact tidy

/-- The not-found pass keeps a tree tidy. -/
theorem Tidy.addNotFound {node : RouteNode} (tidy : node.Tidy)
    (views : NotFoundViews) :
    (node.addNotFound views).Tidy := by
  unfold RouteNode.addNotFound
  exact (tidy.openRoot.inject views [] true).withCatchAll _

end RouteNode
end FileRoutes
