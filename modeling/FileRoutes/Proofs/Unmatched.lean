import FileRoutes.Proofs.Foremost
import FileRoutes.Proofs.Standing

/-!
# Unmatched paths

A compiled tree has nodes for the paths that no file matches.  Each of them
shows the not-found view nearest to the route of its parent.  Such a node comes
last among the children of a node, unless a listed file has a folder there that
is called like it, or the node is in a folder like that itself.
-/

namespace FileRoutes
namespace RouteNode

variable {views : NotFoundViews} {tree node : RouteNode} {route : List String}

/-- The children of a node that files made are no not-found nodes. -/
theorem Authored.written_of_mem_children (authored : tree.Authored)
    {path : List (Option String)} (found : tree.reach? path = some node)
    {child : RouteNode} (member : child ∈ node.children) (view : View) :
    child.content ≠ some (.notFound view) := by
  have tidy := authored.tidy.of_reach found
  rcases tidy.mem_children member with ⟨content, held, isIndex⟩ | isBranch
  · rw [isIndex, indexOf_content, ← held]
    exact (authored.written found view).2
  · have below : tree.reach? (path ++ [child.path]) = some child := by
      rw [reach_append_singleton, found]
      exact tidy.branchAt_of_mem isBranch
    exact (authored.written below view).1

namespace Standing

/-- A node with children was in the tree before. -/
theorem isSome_reach (standing : Standing views tree route node)
    (nonempty : node.children ≠ []) :
    (tree.reach? (route.map some)).isSome = true := by
  cases standing with
  | completed outside found => rw [found, Option.isSome_some]
  | kept inside found => rw [found, Option.isSome_some]
  | added outside found absent => exact absurd rfl nonempty

/-- Not-found nodes show the view nearest to the route of their parent. -/
theorem view_eq (authored : tree.Authored)
    (standing : Standing views tree route node) {child : RouteNode}
    (member : child ∈ node.children) {view : View}
    (shown : child.content = some (.notFound view)) :
    view = views.nearest (Text.joinSlash route) := by
  cases standing with
  | completed outside found =>
    rcases mem_children_finish _ _ _ member with
      ⟨original, originalMember, isChild⟩ | isAdded
    · rw [isChild, (sameHead_injectChild views route original).content_eq]
        at shown
      exact absurd shown
        (authored.written_of_mem_children found originalMember view)
    · rw [isAdded] at shown
      cases shown
      rfl
  | kept inside found =>
    exact absurd shown (authored.written_of_mem_children found member view)
  | added outside found absent => cases member

/-- The node for unmatched paths comes last, unless the pass found its place
taken or never came there. -/
theorem getLast_iff (authored : tree.Authored)
    (standing : Standing views tree route node) (tidy : node.Tidy)
    (nonempty : node.children ≠ []) :
    (∃ view, node.children.getLast? = some (catchAll view)) ↔
      catchAllPath ∉ route ∧
        tree.reach? ((route ++ [catchAllPath]).map some) = none := by
  cases standing with
  | @completed route original outside found =>
    rw [List.map_append, List.map_singleton, reach_append_singleton, found,
      Option.bind_some]
    refine ⟨?_, fun absent => ⟨_, getLast_finish _ _ _ absent.2 nonempty⟩⟩
    rintro ⟨view, isLast⟩
    refine ⟨outside, ?_⟩
    -- A folder with the same path would be the last child, and it shows no
    -- view.
    have member := List.mem_of_getLast? isLast
    have isBranch :
        (finish views route original).branchAt? (some catchAllPath) =
          some (catchAll view) :=
      tidy.branchAt_of_mem (List.mem_filter.mpr ⟨member, rfl⟩)
    rcases branchAt_finish_eq_some _ _ _ isBranch with
      ⟨folder, isFolder, isKept⟩ | new
    · rw [injectChild_of_branchAt _ _ isFolder, if_pos rfl] at isKept
      have folderMember := List.mem_of_find?_eq_some isFolder
      rw [← isKept] at folderMember
      exact absurd rfl (authored.written_of_mem_children found folderMember view)
    · exact new.1
  | kept inside found =>
    apply iff_of_false
    · rintro ⟨view, isLast⟩
      exact authored.written_of_mem_children found
        (List.mem_of_getLast? isLast) view rfl
    · exact fun outside => outside.1 inside
  | added outside found absent => exact absurd rfl nonempty

end Standing

/-! ## The whole pass -/

variable {root : RouteNode}

/-- All that branches lead to in a completed tree has a route of names. -/
theorem exists_descendant_of_reach (authored : root.Authored)
    {path : List (Option String)}
    (found : (root.addNotFound views).reach? path = some node) :
    ∃ route, (root.addNotFound views).descendant? route = some node := by
  have reached := found
  rw [addNotFound_eq_finish] at reached
  obtain ⟨names, isNames, _⟩ := standing_of_reach authored.openRoot reached
  exact ⟨names, by rw [descendant_eq_reach, ← isNames, found]⟩

theorem standing_of_descendant (authored : root.Authored)
    (found : (root.addNotFound views).descendant? route = some node) :
    Standing views root.openRoot route node := by
  rw [descendant_eq_reach, addNotFound_eq_finish] at found
  obtain ⟨names, sameRoute, standing⟩ :=
    standing_of_reach authored.openRoot found
  have isNames : route = names :=
    List.map_injective_iff.mpr (Option.some_injective String) sameRoute
  exact isNames ▸ standing

/-- Below the root, every node of a completed tree is the child of a node at a
route. -/
theorem exists_parent_of_mem_nodes (authored : root.Authored)
    (member : node ∈ (root.addNotFound views).nodes) :
    node = root.addNotFound views ∨ ∃ route parent,
      (root.addNotFound views).descendant? route = some parent ∧
        node ∈ parent.children := by
  have tidy := authored.tidy.addNotFound views
  refine (tidy.exists_parent_of_mem_nodes member).imp_right ?_
  rintro ⟨path, parent, found, isChild⟩
  obtain ⟨route, reached⟩ := exists_descendant_of_reach authored found
  exact ⟨route, parent, reached, isChild⟩

/-- Every node of a completed tree is an index node or has a route. -/
theorem exists_descendant_of_mem_nodes (authored : root.Authored)
    (member : node ∈ (root.addNotFound views).nodes) :
    (∃ content, node = indexOf content) ∨
      ∃ route, (root.addNotFound views).descendant? route = some node := by
  have tidy := authored.tidy.addNotFound views
  rcases tidy.exists_parent_of_mem_nodes member with
    isRoot | ⟨path, parent, found, isChild⟩
  · exact Or.inr ⟨[], congrArg some isRoot.symm⟩
  · have parentTidy := tidy.of_reach found
    rcases parentTidy.mem_children isChild with ⟨content, _, isIndex⟩ | isBranch
    · exact Or.inl ⟨content, isIndex⟩
    · have reached : (root.addNotFound views).reach? (path ++ [node.path]) =
          some node := by
        rw [reach_append_singleton, found]
        exact parentTidy.branchAt_of_mem isBranch
      exact Or.inr (exists_descendant_of_reach authored reached)

/-- Every node of a completed tree that has children has a route. -/
theorem exists_descendant_of_children (authored : root.Authored)
    (member : node ∈ (root.addNotFound views).nodes)
    (nonempty : node.children ≠ []) :
    ∃ route, (root.addNotFound views).descendant? route = some node := by
  refine (exists_descendant_of_mem_nodes authored member).resolve_left ?_
  rintro ⟨content, rfl⟩
  exact nonempty rfl

/-- A completed root is no not-found node. -/
theorem written_addNotFound (authored : root.Authored) (view : View) :
    (root.addNotFound views).content ≠ some (.notFound view) := by
  rw [addNotFound_eq_finish,
    (sameHead_finish views [] root.openRoot).content_eq]
  exact (authored.openRoot.written (reach_nil root.openRoot) view).1

end RouteNode

/-! ## Compiled trees -/

namespace RouteFiles

open Logged RouteNode Contribution

variable {config : CompilerConfig} {files : RouteFiles} {tree : RouteNode}

theorem isName_of_covers {route : List String}
    (covers : Covers (files.contributions config) route) :
    ∀ name ∈ route, Text.IsName name := by
  intro name member
  rcases (covers_contributions_iff config files).mp covers with
    empty | ⟨page, _, begins⟩
  · rw [empty] at member
    cases member
  · exact ParsedFile.isName_of_mem_routeTokens (begins.subset member)

/-- Every not-found node of a compiled tree is the child of a node at some
route, and shows the view nearest to that route: the foremost file of the
longest beginning of the route that is the route of a not-found file. -/
theorem notFound_eq_nearest (gives : (compile config files).Gives tree) :
    (∀ node ∈ tree.nodes, ∀ view, node.content = some (.notFound view) ->
      ∃ route parent, tree.descendant? route = some parent ∧
        node ∈ parent.children) ∧
    ∀ route parent, tree.descendant? route = some parent ->
      ∀ node ∈ parent.children, ∀ view, node.content = some (.notFound view) ->
        view = nearestNotFound config.routing.rootPrefix
          files.notFoundFiles route := by
  obtain ⟨guarded, isGuarded, isTree⟩ := exists_guarded_of_gives_compile gives
  have authored := isGuarded.authored
  subst isTree
  constructor
  · intro node member view shown
    refine (exists_parent_of_mem_nodes authored member).resolve_left ?_
    intro isRoot
    exact written_addNotFound authored view (isRoot ▸ shown)
  · intro route parent found node member view shown
    have standing := standing_of_descendant authored found
    have inTrie := standing.isSome_reach (List.ne_nil_of_mem member)
    rw [isSome_reach_openRoot, isGuarded.reach_isSome_iff] at inTrie
    rw [standing.view_eq authored.openRoot member shown]
    exact NotFoundViews.nearest_byRoute _ _ (isName_of_covers inTrie)

/-- A site with not-found files for two routes, and two of them for one. -/
def handbook : RouteFiles where
  pages := ["app/docs/intro/page.rs", "app/about/page.rs"]
  notFound :=
    ["app/(legal)/docs/not-found.rs", "app/docs/404.rs", "app/not-found.rs"]

theorem notFound_eq_nearest_handbook :
    ∃ tree parent node view, (compile {} handbook).Gives tree ∧
      tree.descendant? ["docs", "intro"] = some parent ∧
      node ∈ parent.children ∧
      node.content = some (.notFound view) ∧
      view = .file ⟨"app/docs/404.rs", .notFound, 1⟩ := by
  have reached : (compile {} handbook).outcome.toOption.any (fun tree =>
      (tree.descendant? ["docs", "intro"]).any fun parent =>
        parent.children.any fun node =>
          node.content.any fun content => !content.isRenderable) = true := by
    decide +kernel
  have nearest :
      nearestNotFound "app" handbook.notFoundFiles ["docs", "intro"] =
        .file ⟨"app/docs/404.rs", .notFound, 1⟩ := by decide +kernel
  obtain ⟨tree, gives, isReached⟩ := exists_gives_of_any reached
  obtain ⟨parent, found, hasNode⟩ := (Option.any_eq_true _ _).mp isReached
  obtain ⟨node, member, hasContent⟩ := List.any_eq_true.mp hasNode
  obtain ⟨content, shown, notRenderable⟩ :=
    (Option.any_eq_true _ _).mp hasContent
  cases content with
  | page spec => cases notRenderable
  | layout spec => cases notRenderable
  | notFound view =>
    have isNearest :=
      (notFound_eq_nearest gives).2 _ parent found node member view shown
    exact ⟨tree, parent, node, view, gives, found, member, shown,
      isNearest.trans nearest⟩

/-- Every node with children has a route, and a node for unmatched paths comes
last among its children exactly when no listed file has a folder with that name
there and the node is in no such folder itself. -/
theorem getLast_eq_catchAll_iff (gives : (compile config files).Gives tree) :
    tree.children ≠ [] ∧
    (∀ node ∈ tree.nodes, node.children ≠ [] ->
      ∃ route, tree.descendant? route = some node) ∧
    ∀ route node, tree.descendant? route = some node -> node.children ≠ [] ->
      ((∃ view, node.children.getLast? = some (catchAll view)) ↔
        catchAllPath ∉ route ∧
        ∀ page ∈ files.pages, ¬route ++ [catchAllPath] <+:
          (ParsedFile.parse config.routing.rootPrefix page).routeTokens) := by
  obtain ⟨guarded, isGuarded, isTree⟩ := exists_guarded_of_gives_compile gives
  have authored := isGuarded.authored
  subst isTree
  refine ⟨?_, fun node => exists_descendant_of_children authored, ?_⟩
  · exact ne_nil_of_covered (covered_withCatchAll _ _)
  · intro route node found nonempty
    have tidy := authored.tidy.addNotFound (files.notFoundViews config)
    rw [(standing_of_descendant authored found).getLast_iff authored.openRoot
      (tidy.of_reach (descendant_eq_reach _ _ ▸ found)) nonempty]
    have uncovered :
        guarded.openRoot.reach? ((route ++ [catchAllPath]).map some) = none ↔
          ¬Covers (files.contributions config) (route ++ [catchAllPath]) := by
      rw [← Option.not_isSome_iff_eq_none, isSome_reach_openRoot,
        isGuarded.reach_isSome_iff]
    rw [uncovered, covers_contributions_iff]
    simp

/-- A site with a folder that is called like the nodes for unmatched paths.  The
pass skips the folder with all that is in it, and adds no such node beside
it. -/
def starred : RouteFiles where
  pages := ["app/*/page", "app/*/team/page", "app/about/page"]

theorem getLast_eq_catchAll_iff_starred :
    ∃ tree team, (compile {} starred).Gives tree ∧
      tree.descendant? [catchAllPath, "team"] = some team ∧ team.children ≠ [] ∧
      (¬∃ view, team.children.getLast? = some (catchAll view)) ∧
      ¬∃ view, tree.children.getLast? = some (catchAll view) := by
  have reached : (compile {} starred).outcome.toOption.any (fun tree =>
      (tree.descendant? [catchAllPath, "team"]).any fun team =>
        !team.children.isEmpty) = true := by decide +kernel
  have listed :
      [catchAllPath] <+: (ParsedFile.parse "app" "app/*/page").routeTokens := by
    decide +kernel
  obtain ⟨tree, gives, isReached⟩ := exists_gives_of_any reached
  obtain ⟨team, found, hasChildren⟩ := (Option.any_eq_true _ _).mp isReached
  obtain ⟨rootNonempty, _, last⟩ := getLast_eq_catchAll_iff gives
  have nonempty : team.children ≠ [] := by simpa using hasChildren
  refine ⟨tree, team, gives, found, nonempty, ?_, ?_⟩
  · rw [last [catchAllPath, "team"] team found nonempty]
    exact fun outside => outside.1 List.mem_cons_self
  · rw [last [] tree rfl rootNonempty]
    exact fun uncovered => uncovered.2 "app/*/page" List.mem_cons_self listed

end RouteFiles
end FileRoutes
