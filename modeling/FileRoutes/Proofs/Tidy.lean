import FileRoutes.Proofs.Arrangement

/-!
# Tidy trees

A tree is tidy when pages stand on index nodes only, the index child of a node
comes first and is alone of its kind, no two branches of a node share a path,
and index nodes are bare apart from what they render.  The property is stated
for single nodes first.
-/

namespace FileRoutes
namespace RouteNode

/-- What holds of every node of a tidy tree. -/
structure TidyAt (node : RouteNode) : Prop where
  /-- Pages are rendered by index nodes. -/
  notPage : node.index = false -> node.isPage = false
  /-- Only the first child may be an index node. -/
  indexFirst : ∀ child ∈ node.children.tail, child.index = false
  /-- Branches differ in their paths. -/
  distinct : (node.branches.map RouteNode.path).Nodup
  /-- An index node has content and nothing else. -/
  indexBare : node.index = true ->
    node.path = none ∧ node.content.isSome ∧ node.children = [] ∧
      node.dynamic = none ∧ node.error = none

/-- The children of a node other than an index node are in order. -/
structure Arranged (node : RouteNode) : Prop where
  notPage : node.isPage = false
  children_eq : node.children = arrange node.slot? node.branches
  distinct : (node.branches.map RouteNode.path).Nodup

/-- A tree below a node that is not an index node, arranged at every level. -/
inductive Tidy : RouteNode -> Prop
  | intro {node : RouteNode} (notIndex : node.index = false)
      (arranged : node.Arranged)
      (below : ∀ branch ∈ node.branches, Tidy branch) :
      Tidy node

namespace Tidy

variable {node : RouteNode}

theorem index_eq (tidy : node.Tidy) : node.index = false := by
  cases tidy with
  | intro notIndex arranged below => exact notIndex

theorem arranged (tidy : node.Tidy) : node.Arranged := by
  cases tidy with
  | intro notIndex arranged below => exact arranged

/-- The branches of a tidy node are tidy. -/
theorem of_mem_branches (tidy : node.Tidy) {branch : RouteNode}
    (member : branch ∈ node.branches) : branch.Tidy := by
  cases tidy with
  | intro notIndex arranged below => exact below branch member

theorem plain (tidy : node.Tidy) :
    ∀ branch ∈ node.branches, branch.index = false :=
  fun _ member => (tidy.of_mem_branches member).index_eq

/-- A tidy node is made of its slot and its branches. -/
theorem furnish_eq (tidy : node.Tidy) :
    node.furnish node.slot? node.branches = node := by
  rw [RouteNode.furnish, ← tidy.arranged.children_eq]
  cases node
  rfl

/-- New branches and a new slot keep a node tidy. -/
theorem furnish {branches : List RouteNode} (slot : Option RouteContent)
    (notIndex : node.index = false) (notPage : node.isPage = false)
    (tidy : ∀ branch ∈ branches, branch.Tidy)
    (distinct : (branches.map RouteNode.path).Nodup) :
    (node.furnish slot branches).Tidy := by
  have plain : ∀ branch ∈ branches, branch.index = false :=
    fun branch member => (tidy branch member).index_eq
  refine .intro notIndex ⟨notPage, ?_, ?_⟩ ?_
  · rw [slot_furnish node slot plain, branches_furnish node slot plain]
    rfl
  · rw [branches_furnish node slot plain]
    exact distinct
  · rw [branches_furnish node slot plain]
    exact tidy

theorem of_branchAt (tidy : node.Tidy) {path : Option String}
    {branch : RouteNode} (found : node.branchAt? path = some branch) :
    branch.Tidy := by
  rw [branchAt_eq_find_branches] at found
  exact tidy.of_mem_branches (List.mem_of_find?_eq_some found)

/-- A bare node is tidy. -/
theorem bare (path : Option String) (dynamic : Option SegmentKind)
    (error : Option View) :
    Tidy { path := path, dynamic := dynamic, error := error } := by
  refine .intro rfl ⟨rfl, rfl, List.nodup_nil⟩ ?_
  intro branch member
  cases member

theorem root : RouteNode.root.Tidy :=
  bare (some rootPath) none none

end Tidy

theorem path_of_branchAt {node branch : RouteNode} {path : Option String}
    (found : node.branchAt? path = some branch) : branch.path = path :=
  (matchesPath_iff.mp (List.find?_some found)).2

/-- In a tidy node every branch is the one that its path leads to. -/
theorem Tidy.branchAt_of_mem {node branch : RouteNode} (tidy : node.Tidy)
    (member : branch ∈ node.branches) :
    node.branchAt? branch.path = some branch := by
  rw [branchAt_eq_find_branches]
  exact find_of_mem tidy.plain tidy.arranged.distinct member

/-- The index child of a tidy node holds the content of its slot and nothing
else. -/
theorem Tidy.indexChild_eq {node : RouteNode} (tidy : node.Tidy) :
    node.indexChild? = node.slot?.map indexOf := by
  have split := indexChild_furnish node node.slot? tidy.plain
  rwa [tidy.furnish_eq] at split

/-- The branches of a tidy node are what their paths lead to. -/
theorem Tidy.map_branchAt {node : RouteNode} (tidy : node.Tidy) :
    (node.branches.map RouteNode.path).map node.branchAt? =
      node.branches.map some := by
  rw [List.map_map]
  exact List.map_congr_left fun branch member => tidy.branchAt_of_mem member

/-- The children of a tidy node are the index node for its slot and the
branches. -/
theorem Tidy.mem_children {node child : RouteNode} (tidy : node.Tidy)
    (member : child ∈ node.children) :
    (∃ content, node.slot? = some content ∧ child = indexOf content) ∨
      child ∈ node.branches := by
  rw [tidy.arranged.children_eq, arrange, List.mem_append] at member
  rcases member with isSlot | isBranch
  · obtain ⟨content, held, equal⟩ : ∃ content, node.slot? = some content ∧
        indexOf content = child := by simpa using isSlot
    exact Or.inl ⟨content, held, equal.symm⟩
  · exact Or.inr isBranch

/-- A tidy node has no children exactly if its slot and all its branches are
missing. -/
theorem Tidy.children_eq_nil_iff {node : RouteNode} (tidy : node.Tidy) :
    node.children = [] ↔
      node.slot? = none ∧ ∀ path, node.branchAt? path = none := by
  constructor
  · intro childless
    simp [slot?, indexChild?, branchAt?, childless]
  · rintro ⟨noSlot, noBranch⟩
    have noBranches : node.branches = [] := by
      rw [List.eq_nil_iff_forall_not_mem]
      intro branch member
      have found := tidy.branchAt_of_mem member
      rw [noBranch] at found
      cases found
    rw [tidy.arranged.children_eq, noSlot, noBranches]
    rfl

/-! ## The nodes of a tidy tree -/

theorem tidyAt_indexOf (content : RouteContent) : (indexOf content).TidyAt := by
  refine ⟨?_, ?_, List.nodup_nil, ?_⟩
  · intro index
    cases index
  · intro child member
    cases member
  · intro index
    exact ⟨rfl, rfl, rfl, rfl, rfl⟩

/-- A tidy node has each of the properties that are promised for single
nodes. -/
theorem Tidy.tidyAt {node : RouteNode} (tidy : node.Tidy) : node.TidyAt := by
  refine ⟨fun _ => tidy.arranged.notPage, ?_, tidy.arranged.distinct, ?_⟩
  · rw [tidy.arranged.children_eq]
    cases node.slot? with
    | none =>
      exact fun child member => tidy.plain child (List.mem_of_mem_tail member)
    | some content => exact tidy.plain
  · intro index
    rw [tidy.index_eq] at index
    cases index

theorem mem_nodes_iff {tree node : RouteNode} :
    node ∈ tree.nodes ↔ node = tree ∨ node ∈ forestNodes tree.children := by
  obtain ⟨path, index, dynamic, content, error, children⟩ := tree
  rw [nodes, List.mem_cons]

theorem mem_forestNodes_iff {forest : List RouteNode} {node : RouteNode} :
    node ∈ forestNodes forest ↔ ∃ tree ∈ forest, node ∈ tree.nodes := by
  induction forest with
  | nil => simp [forestNodes]
  | cons first rest step => simp [forestNodes, step]

/-- Below the root, every node of a tidy tree is a child of a node that branches
lead to. -/
theorem Tidy.exists_parent_of_mem_nodes {tree node : RouteNode}
    (tidy : tree.Tidy) (member : node ∈ tree.nodes) :
    node = tree ∨ ∃ route parent, tree.reach? route = some parent ∧
      node ∈ parent.children := by
  induction tidy with
  | @intro tree notIndex arranged below step =>
    have tidy : tree.Tidy := .intro notIndex arranged below
    refine (mem_nodes_iff.mp member).imp_right fun deeper => ?_
    obtain ⟨child, childMember, inChild⟩ := mem_forestNodes_iff.mp deeper
    rcases tidy.mem_children childMember with ⟨content, _, equal⟩ | isBranch
    · subst equal
      have alone : node = indexOf content := by
        simpa [mem_nodes_iff, indexOf, forestNodes] using inChild
      exact ⟨[], tree, rfl, alone ▸ childMember⟩
    · rcases step child isBranch inChild with
        equal | ⟨route, parent, found, isChild⟩
      · exact ⟨[], tree, rfl, equal ▸ childMember⟩
      · refine ⟨child.path :: route, parent, ?_, isChild⟩
        rw [reach_cons, tidy.branchAt_of_mem isBranch]
        exact found

/-- Every node of a tidy tree is tidy, index nodes included. -/
theorem Tidy.tidyAt_of_mem_nodes {tree : RouteNode} (tidy : tree.Tidy) :
    ∀ node ∈ tree.nodes, node.TidyAt := by
  induction tidy with
  | @intro tree notIndex arranged below step =>
    have tidy : tree.Tidy := .intro notIndex arranged below
    intro node member
    rcases mem_nodes_iff.mp member with equal | deeper
    · exact equal ▸ tidy.tidyAt
    · obtain ⟨child, childMember, inChild⟩ := mem_forestNodes_iff.mp deeper
      rcases tidy.mem_children childMember with ⟨content, _, equal⟩ | isBranch
      · subst equal
        have alone : node = indexOf content := by
          simpa [mem_nodes_iff, indexOf, forestNodes] using inChild
        exact alone ▸ tidyAt_indexOf content
      · exact step child isBranch node inChild

end RouteNode
end FileRoutes
