import FileRoutes.Proofs.Batches
import FileRoutes.Proofs.Finished

/-!
# Merged trees, place by place

A tree is tidy when each of its nodes is.  Merging two tidy trees gives a tree
that has a node wherever one of them has one, and each place of it is decided by
the places of the two trees alone: the first tree is preferred in everything but
that a page or layout of the second one displaces a not-found view.
-/

namespace FileRoutes

namespace RouteContent

/-- Whether content is a layout. -/
def isLayout (content : RouteContent) : Bool :=
  content.role? == some .layout

/-- Whether content is a not-found view. -/
def isNotFound (content : RouteContent) : Bool :=
  !content.isRenderable

/-- The content that a place gets which is offered contents from two trees: the
first one of a kind, else a not-found view. -/
def chosen (kind : RouteContent -> Bool) (left right : Option RouteContent) :
    Option RouteContent :=
  (left.filter kind).or <| (right.filter kind).or <|
    (left.filter isNotFound).or (right.filter isNotFound)

/-- Pages and layouts stay before not-found views, and otherwise the first
content does. -/
theorem settled_eq_chosen (left right : Option RouteContent) :
    settled left right = chosen isRenderable left right := by
  cases left with
  | none =>
    cases right with
    | none => rfl
    | some content =>
      cases renderable : content.isRenderable <;>
        simp [chosen, isNotFound, renderable, Option.filter]
  | some holder =>
    cases held : holder.isRenderable <;> cases right with
    | none => simp [chosen, isNotFound, held, Option.filter]
    | some content =>
      cases renderable : content.isRenderable <;>
        simp [chosen, settled, settle, isNotFound, held, renderable,
          Option.filter]

/-- Without pages, the contents that are preferred are the layouts. -/
theorem filter_isLayout {content : Option RouteContent}
    (notPage : ∀ spec, content ≠ some (.page spec)) :
    content.filter isLayout = content.filter isRenderable := by
  rcases content with _ | ⟨spec⟩ | ⟨spec⟩ | ⟨view⟩
  · rfl
  · exact absurd rfl (notPage spec)
  · rfl
  · rfl

end RouteContent

namespace RouteNode

open RouteContent Logged

/-! ## Trees of tidy nodes -/

theorem TidyAt.eq_indexOf {node : RouteNode} (tidyAt : node.TidyAt)
    (index : node.index = true) : ∃ content, node = indexOf content := by
  obtain ⟨noPath, hasContent, childless, noDynamic, noError⟩ :=
    tidyAt.indexBare index
  obtain ⟨content, held⟩ := Option.isSome_iff_exists.mp hasContent
  refine ⟨content, ?_⟩
  obtain ⟨path, index, dynamic, content, error, children⟩ := node
  simp_all [indexOf]

/-- The children of a tidy node are the index node for its slot and its
branches. -/
theorem TidyAt.children_eq {node : RouteNode} (tidyAt : node.TidyAt)
    (below : ∀ child ∈ node.children, child.TidyAt) :
    node.children = arrange node.slot? node.branches := by
  have indexFirst := tidyAt.indexFirst
  rw [slot?, indexChild?, branches]
  generalize node.children = children at *
  cases children with
  | nil => rfl
  | cons first rest =>
    have plainRest : rest.filter (fun child => !child.index) = rest := by
      rw [List.filter_eq_self]
      exact fun child member => by simp [indexFirst child member]
    cases index : first.index with
    | true =>
      obtain ⟨content, isIndex⟩ :=
        (below first List.mem_cons_self).eq_indexOf index
      subst isIndex
      rw [List.find?_cons_of_pos index, List.filter_cons_of_neg (by simp),
        plainRest]
      rfl
    | false =>
      have noIndex : rest.find? RouteNode.index = none := by
        rw [List.find?_eq_none]
        exact fun child member => by simp [indexFirst child member]
      simp [arrange, index, noIndex, plainRest]

/-- A tree is tidy when its nodes are. -/
theorem tidy_of_tidyAt {tree : RouteNode} (notIndex : tree.index = false)
    (tidyAt : ∀ node ∈ tree.nodes, node.TidyAt) : tree.Tidy := by
  induction tree using induction_on_children with
  | step tree step =>
    have here := tidyAt tree (mem_nodes_iff.mpr (Or.inl rfl))
    have below (child : RouteNode) (member : child ∈ tree.children) :
        ∀ node ∈ child.nodes, node.TidyAt := fun node inChild =>
      tidyAt node (mem_nodes_iff.mpr
        (Or.inr (mem_forestNodes_iff.mpr ⟨child, member, inChild⟩)))
    refine .intro notIndex ⟨here.notPage notIndex, ?_, here.distinct⟩ ?_
    · exact here.children_eq fun child member =>
        below child member child (mem_nodes_iff.mpr (Or.inl rfl))
    · intro branch member
      obtain ⟨isChild, plain⟩ := List.mem_filter.mp member
      exact step branch isChild (by simpa using plain) (below branch isChild)

/-- A tree with tidy nodes whose root has a path is tidy. -/
theorem tidy_of_path {tree : RouteNode} {path : String}
    (hasPath : tree.path = some path)
    (tidyAt : ∀ node ∈ tree.nodes, node.TidyAt) : tree.Tidy := by
  refine tidy_of_tidyAt ?_ tidyAt
  cases index : tree.index with
  | false => rfl
  | true =>
    have here := tidyAt tree (mem_nodes_iff.mpr (Or.inl rfl))
    rw [(here.indexBare index).1] at hasPath
    cases hasPath

/-! ## One place of a union -/

/-- The paths of the branches of a node that may be missing. -/
def pathsBelow (node : Option RouteNode) : List (Option String) :=
  (node.map fun node => node.branches.map RouteNode.path).getD []

/-- What a merged tree has at a route, given what the two trees have there. -/
structure JoinedAt (left right : Option RouteNode) (node : RouteNode) :
    Prop where
  /-- The error view is the first one. -/
  error_eq : node.error =
    (left.bind RouteNode.error).or (right.bind RouteNode.error)
  /-- The dynamic kind is the first one. -/
  dynamic_eq :
    node.dynamic = (left.bind RouteNode.dynamic).or
      (right.bind RouteNode.dynamic)
  /-- The node renders a layout before a not-found view. -/
  content_eq : node.content =
    chosen RouteContent.isLayout (left.bind RouteNode.content)
      (right.bind RouteNode.content)
  /-- The index child renders a page or layout before a not-found view. -/
  indexChild_eq : node.indexChild? =
    (chosen isRenderable (left.bind slot?) (right.bind slot?)).map indexOf
  /-- The index child comes before the other children. -/
  children_eq : node.children = node.indexChild?.toList ++ node.branches
  /-- New children come behind those of the first tree, in their order. -/
  paths_eq : node.branches.map RouteNode.path =
    pathsBelow left ++ (pathsBelow right).filter fun path =>
      path ∉ pathsBelow left

theorem joinedAt_union {left right : RouteNode} (leftTidy : left.Tidy)
    (rightTidy : right.Tidy) :
    JoinedAt (some left) (some right) (union left right) := by
  have tidy := leftTidy.union right
  have shown := setting_union_of_tidy leftTidy rightTidy
  simp only [setting, place, Prod.mk.injEq, Place.mk.injEq] at shown
  obtain ⟨⟨_, sameDynamic, sameContent, sameError, sameSlot⟩, samePaths⟩ :=
    shown
  have leftPage := isPage_eq_false_iff.mp leftTidy.arranged.notPage
  have rightPage := isPage_eq_false_iff.mp rightTidy.arranged.notPage
  refine ⟨sameError, sameDynamic, ?_, ?_, ?_, samePaths⟩
  · rw [sameContent, settled_eq_chosen, chosen, chosen, Option.bind_some,
      Option.bind_some, filter_isLayout leftPage, filter_isLayout rightPage]
  · rw [tidy.indexChild_eq, sameSlot, settled_eq_chosen]
    rfl
  · rw [tidy.indexChild_eq]
    exact tidy.arranged.children_eq

/-- A missing node counts as a bare one. -/
theorem JoinedAt.of_getD (path : Option String) {left right : Option RouteNode}
    {node : RouteNode}
    (joined : JoinedAt (some (left.getD { path := path }))
      (some (right.getD { path := path })) node) :
    JoinedAt left right node := by
  cases left <;> cases right <;>
    exact ⟨joined.error_eq, joined.dynamic_eq, joined.content_eq,
      joined.indexChild_eq, joined.children_eq, joined.paths_eq⟩

/-- What a union has at a route is joined from what the two trees have there. -/
theorem joinedAt_unionAt {route : List (Option String)}
    {left right : Option RouteNode} {node : RouteNode}
    (leftTidy : ∀ node ∈ left, node.Tidy)
    (rightTidy : ∀ node ∈ right, node.Tidy)
    (isNode : unionAt route left right = some node) :
    JoinedAt left right node := by
  have heldTidy : (left.getD (bareAt route)).Tidy := by
    cases left with
    | none => exact .bare _ none none
    | some held => exact leftTidy held rfl
  apply JoinedAt.of_getD (route.getLast?.getD none)
  cases right with
  | none =>
    obtain rfl : left = some node := isNode
    have joined :=
      joinedAt_union heldTidy (.bare (route.getLast?.getD none) none none)
    rwa [union_bare heldTidy] at joined
  | some source =>
    obtain rfl := Option.some.inj isNode
    exact joinedAt_union heldTidy (rightTidy source rfl)

/-! ## Every place of a merged tree -/

theorem isSome_unionAt (route : List (Option String))
    (left right : Option RouteNode) :
    (unionAt route left right).isSome ↔ left.isSome ∨ right.isSome := by
  cases left <;> cases right <;> simp [unionAt]

/-- Under the permissive policies two trees of tidy nodes with the same root can
be merged, and the merged tree joins them route by route: it has a node where
one of them has one, each of its nodes is joined from theirs, its branches are
the nodes one step further, and where the second tree has nothing it is the
first one. -/
theorem merge_joins_pointwise {target source : RouteNode}
    (targetRoot : target.path = some rootPath)
    (sourceRoot : source.path = some rootPath)
    (targetTidy : ∀ node ∈ target.nodes, node.TidyAt)
    (sourceTidy : ∀ node ∈ source.nodes, node.TidyAt) :
    ∃ merged, (merge .permissive target source).Gives merged ∧
      ∀ route,
        ((merged.reach? route).isSome ↔
          (target.reach? route).isSome ∨ (source.reach? route).isSome) ∧
        (∀ node, merged.reach? route = some node ->
          JoinedAt (target.reach? route) (source.reach? route) node ∧
          node.branches.map some = (node.branches.map RouteNode.path).map
            fun path => merged.reach? (route ++ [path])) ∧
        (source.reach? route = none ->
          merged.reach? route = target.reach? route) := by
  have leftTidy := tidy_of_path targetRoot targetTidy
  have rightTidy := tidy_of_path sourceRoot sourceTidy
  have samePath : target.path = source.path := targetRoot.trans sourceRoot.symm
  have tidy := leftTidy.union source
  refine ⟨union target source,
    gives_union leftTidy source samePath rightTidy.index_eq, ?_⟩
  intro route
  have reached := reach_union_eq_unionAt target rightTidy.orderly route
  refine ⟨?_, ?_, ?_⟩
  · rw [reached, isSome_unionAt]
  · intro node found
    refine ⟨?_, ?_⟩
    · rw [reached] at found
      exact joinedAt_unionAt (fun _ => leftTidy.of_reach)
        (fun _ => rightTidy.of_reach) found
    · rw [← (tidy.of_reach found).map_branchAt]
      apply List.map_congr_left
      intro path _
      rw [reach_append_singleton, found, Option.bind_some]
  · intro missing
    rw [reached, missing]
    rfl

/-- A folder with a not-found index and a guarded folder below it. -/
def drafts : RouteNode :=
  { ofPath "drafts" with
    children :=
      [indexOf (.notFound default),
        { ofPath "old" with error := some default }] }

/-- The same folder with a page and a layout. -/
def published : RouteNode :=
  { ofPath "drafts" with
    content := some (.layout default)
    children := [indexOf (.page default), ofPath "new"] }

/-- A tree with one folder below the root. -/
def siteOf (folder : RouteNode) : RouteNode :=
  union root { root with children := [folder] }

theorem siteOf_tidyAt (folder : RouteNode) :
    ∀ node ∈ (siteOf folder).nodes, node.TidyAt :=
  (Tidy.root.union _).tidyAt_of_mem_nodes

theorem merge_joins_pointwise_drafts :
    (siteOf drafts).path = some rootPath ∧
    (siteOf published).path = some rootPath ∧
      (∀ node ∈ (siteOf drafts).nodes, node.TidyAt) ∧
      (∀ node ∈ (siteOf published).nodes, node.TidyAt) ∧
      ∃ merged node,
        (merge .permissive (siteOf drafts) (siteOf published)).Gives merged ∧
        merged.reach? [some "drafts"] = some node ∧
        node.content = some (.layout default) ∧
        node.indexChild? = some (indexOf (.page default)) ∧
        node.branches.map RouteNode.path = [some "old", some "new"] ∧
        merged.reach? [some "drafts", some "old"] =
          some { ofPath "old" with error := some default } := by
  have draftsRoot : (siteOf drafts).path = some rootPath := rfl
  have publishedRoot : (siteOf published).path = some rootPath := rfl
  refine ⟨draftsRoot, publishedRoot, siteOf_tidyAt drafts,
    siteOf_tidyAt published, ?_⟩
  obtain ⟨merged, gives, places⟩ :=
    merge_joins_pointwise draftsRoot publishedRoot
      (siteOf_tidyAt drafts) (siteOf_tidyAt published)
  have exists_node := (places [some "drafts"]).1.mpr (Or.inl rfl)
  obtain ⟨node, found⟩ := Option.isSome_iff_exists.mp exists_node
  obtain ⟨joined, _⟩ := (places [some "drafts"]).2.1 node found
  exact ⟨merged, node, gives, found, joined.content_eq, joined.indexChild_eq,
    joined.paths_eq, (places [some "drafts", some "old"]).2.2 rfl⟩

end RouteNode
end FileRoutes
