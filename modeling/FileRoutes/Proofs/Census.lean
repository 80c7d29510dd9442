import FileRoutes.Proofs.Conservation
import FileRoutes.Proofs.Misfits
import FileRoutes.Proofs.RouteCounts

/-!
# What a summary counts

The summary of a compiled tree counts the listed files: each route with a page,
each route with a layout, each route that ends in a parameter and each route
with an error view counts once.  No pass over the tree loses one of them, counts
one twice or adds one.  The nodes for unmatched paths are counted by the routes
that have something below them.
-/

namespace FileRoutes
namespace RouteNode

theorem lasting_role : Lasting role? where
  shallow := fun _ _ => rfl
  bare := fun _ => rfl
  catchAll := fun _ => rfl
  notFound := fun _ => rfl
  moved := by
    intro node content held
    rw [role?, role?, role?, held]
    rfl

theorem lasting_dynamic : Lasting RouteNode.dynamic where
  shallow := fun _ _ => rfl
  bare := fun _ => rfl
  catchAll := fun _ => rfl
  notFound := fun _ => rfl
  moved := fun _ _ _ => List.append_nil _

theorem countP_role (tree : RouteNode) (role : RouteRole) :
    (tree.nodes.countP fun node => node.role? == some role) =
      (tree.gather role?).count role := by
  rw [gather, List.count, List.countP_filterMap]
  congr 1
  funext node
  cases node.role? <;> rfl

theorem countP_dynamic (tree : RouteNode) :
    (tree.nodes.countP fun node => node.dynamic.isSome) =
      (tree.gather RouteNode.dynamic).length := by
  rw [gather, List.length_filterMap_eq_countP]

/-! ## Nodes for unmatched paths -/

theorem openRoot_path (root : RouteNode) : root.openRoot.path = root.path := by
  unfold openRoot
  split <;> rfl

section Finish

variable {views : NotFoundViews} {tree node : RouteNode} {route : List String}

/-- Outside the folders that the pass takes for its own, every node stays at its
route. -/
theorem reach_finish (outside : catchAllPath ∉ route)
    (found : tree.reach? (route.map some) = some node) :
    (finish views [] tree).reach? (route.map some) =
      some (finish views route node) := by
  induction route using List.reverseRecOn generalizing node with
  | nil =>
    cases found
    rfl
  | append_singleton front name step =>
    rw [List.mem_append, List.mem_singleton, not_or] at outside
    rw [List.map_append, List.map_singleton, reach_append_singleton] at found ⊢
    obtain ⟨parent, isParent, isBranch⟩ := Option.bind_eq_some_iff.mp found
    have notCatchAll : some name ≠ some catchAllPath := fun same =>
      outside.2 (Option.some.inj same).symm
    rw [step outside.1 isParent, Option.bind_some, branchAt_finish, isBranch,
      Option.map_some, Option.some_or,
      injectChild_of_branchAt views front isBranch, if_neg notCatchAll,
      Option.getD_some, inject_eq_finish _ _ _ (by simp)]

theorem Unstarred.not_mem (unstarred : tree.Unstarred)
    (found : tree.reach? (route.map some) = some node) :
    catchAllPath ∉ route := by
  induction route using List.reverseRecOn generalizing node with
  | nil => exact List.not_mem_nil
  | append_singleton front name step =>
    rw [List.map_append, List.map_singleton, reach_append_singleton] at found
    obtain ⟨parent, isParent, isBranch⟩ := Option.bind_eq_some_iff.mp found
    rw [List.mem_append, List.mem_singleton, not_or]
    refine ⟨step isParent, ?_⟩
    rintro rfl
    rw [unstarred _ _ isParent] at isBranch
    cases isBranch

/-- Completing puts nodes for unmatched paths below the root and below each
other node with children, where there were none before. -/
theorem any_isCatchAll_finish_iff (authored : tree.Authored)
    (unstarred : tree.Unstarred) (isRoot : tree.path ≠ some catchAllPath)
    (path : List (Option String)) :
    ((finish views [] tree).reach? path).any isCatchAll = true ↔
      ∃ route node, path = (route ++ [catchAllPath]).map some ∧
        tree.reach? (route.map some) = some node ∧
        (route = [] ∨ node.children ≠ []) := by
  rw [Option.any_eq_true]
  constructor
  · rintro ⟨node, reached, isCatchAll⟩
    have isPath := (matchesPath_iff.mp isCatchAll).2
    obtain ⟨names, rfl, _⟩ := standing_of_reach authored reached
    rcases List.eq_nil_or_concat names with rfl | ⟨front, name, rfl⟩
    · cases reached
      rw [(sameHead_finish views [] tree).path_eq] at isPath
      exact absurd isPath isRoot
    · rw [List.concat_eq_append, List.map_append, List.map_singleton,
        reach_append_singleton] at reached
      obtain ⟨parent, isParent, isBranch⟩ := Option.bind_eq_some_iff.mp reached
      obtain rfl : name = catchAllPath :=
        Option.some.inj ((path_of_branchAt isBranch).symm.trans isPath)
      obtain ⟨route, sameRoute, standing⟩ := standing_of_reach authored isParent
      obtain rfl : front = route :=
        List.map_injective_iff.mpr (Option.some_injective String) sameRoute
      rw [List.concat_eq_append]
      cases standing with
      | @completed _ original outside found =>
        rw [branchAt_finish, unstarred _ _ found] at isBranch
        obtain ⟨⟨_, visited⟩, _⟩ := Option.ite_none_right_eq_some.mp isBranch
        exact ⟨front, original, rfl, found, visited⟩
      | kept inside found => exact absurd inside (unstarred.not_mem found)
      | added outside found absent => cases isBranch
  · rintro ⟨route, node, rfl, found, visited⟩
    refine ⟨catchAll (views.nearest (Text.joinSlash route)), ?_, rfl⟩
    rw [List.map_append, List.map_singleton, reach_append_singleton,
      reach_finish (unstarred.not_mem found) found, Option.bind_some,
      branchAt_finish, unstarred _ _ found, if_pos ⟨rfl, visited⟩]
    rfl

end Finish

end RouteNode

namespace Contribution

open RouteNode

variable {files : List Contribution}

/-- What is tested of the nodes of a trie is counted by routes. -/
theorem any_reach_grown_iff {test : RouteNode -> Bool}
    {names : List (List String)} (covered : ∀ route ∈ names, Covers files route)
    (same : ∀ route node, Covers files route -> Describes files route node ->
      (test node = true ↔ route ∈ names))
    (path : List (Option String)) :
    ((grown files).reach? path).any test = true ↔
      ∃ name ∈ names, path = name.map some := by
  rw [Option.any_eq_true]
  constructor
  · rintro ⟨node, found, passes⟩
    obtain ⟨route, rfl⟩ := exists_names_of_reach_grown found
    have covers : Covers files route := by
      rw [← reach_grown_isSome_iff, found, Option.isSome_some]
    exact ⟨route, (same route node covers (describes_of_reach_grown found)).mp
      passes, rfl⟩
  · rintro ⟨route, member, rfl⟩
    obtain ⟨node, found⟩ := Option.isSome_iff_exists.mp
      (reach_grown_isSome_iff.mpr (covered route member))
    exact ⟨node, found,
      (same route node (covered route member)
        (describes_of_reach_grown found)).mpr member⟩

theorem role_findSome_claim_iff {role other : RouteRole} {route : List String} :
    (files.findSome? (claim? role route)).bind RouteContent.role? = some other ↔
      other = role ∧ ∃ file ∈ files, file.role = some role ∧
      file.tokens = route := by
  rw [← findSome_claim_isSome_iff]
  cases found : files.findSome? (claim? role route) with
  | none => simp
  | some content =>
    obtain ⟨spec, rfl⟩ := findSome_claim_eq found
    cases role <;> simp [RouteContent.ofRole, RouteContent.role?, eq_comm]

/-- A trie has one page for each route with a page, and one layout for each
route with a layout. -/
theorem countP_role_grown {role : RouteRole} {names : List (List String)}
    (listed : ∀ route, route ∈ names ↔
      ∃ file ∈ files, file.role = some role ∧ file.tokens = route) :
    ((grown files).nodes.countP fun node => node.role? == some role) =
      names.dedup.length := by
  have covered : ∀ route ∈ names, Covers files route := by
    intro route member
    obtain ⟨file, isFile, _, rfl⟩ := (listed route).mp member
    exact Or.inr ⟨file, isFile, List.prefix_rfl⟩
  -- Layouts are on the nodes of their routes and pages on the index children.
  have held (place : RouteRole) :
      ∀ route ∈ (if role = place then names else []),
        Covers files route := by
    intro route member
    split at member
    · exact covered route member
    · cases member
  have atNode (route : List String) (node : RouteNode) (_ : Covers files route)
      (describes : Describes files route node) :
      (node.role? == some role) = true ↔
          route ∈ if role = .layout then names else [] := by
    rw [beq_iff_eq, role?, describes.content_eq, role_findSome_claim_iff]
    split
    · rename_i isLayout
      rw [listed, isLayout]
      simp
    · rename_i notLayout
      simp [notLayout]
  have inSlot (route : List String) (node : RouteNode) (_ : Covers files route)
      (describes : Describes files route node) :
      (node.slot?.any fun content => (indexOf content).role? == some role) =
        true ↔ route ∈ if role = .page then names else [] := by
    have sameRole :
        (node.slot?.any fun content => (indexOf content).role? == some role) =
          (node.slot?.bind RouteContent.role? == some role) := by
      cases node.slot? <;> rfl
    rw [sameRole, beq_iff_eq, describes.slot_eq, role_findSome_claim_iff]
    split
    · rename_i isPage
      rw [listed, isPage]
      simp
    · rename_i notPage
      simp [notPage]
  rw [(grown_tidy files).countP_nodes_eq (any_reach_grown_iff (held .layout) atNode)
    (any_reach_grown_iff (held .page) inSlot)]
  cases role <;> simp

/-- A trie has one node with a parameter for each beginning of a route that ends
in one. -/
theorem countP_dynamic_grown {names : List (List String)}
    (listed : ∀ route, route ∈ names ↔
      (route.getLast?.any fun token => (SegmentKind.classify token).isDynamic) =
        true ∧
        ∃ file ∈ files, route <+: file.tokens) :
    ((grown files).nodes.countP fun node => node.dynamic.isSome) =
      names.dedup.length := by
  have covered : ∀ route ∈ names, Covers files route :=
    fun route member => Or.inr ((listed route).mp member).2
  have atNode (route : List String) (node : RouteNode)
      (covers : Covers files route)
      (describes : Describes files route node) :
      node.dynamic.isSome = true ↔ route ∈ names := by
    rw [describes.dynamic_eq, listed]
    cases isLast : route.getLast? with
    | none => simp
    | some token =>
      have nonempty : route ≠ [] := by
        rintro rfl
        cases isLast
      have begins := covers.resolve_left nonempty
      simp [SegmentKind.dynamic?, begins]
  exact (grown_tidy files).countP_nodes_of_blank (fun _ => rfl)
    (any_reach_grown_iff covered atNode)

end Contribution

namespace RouteFiles

open Logged RouteNode Contribution

/-- The routes of the listed pages or layouts. -/
def routesOf (rootPrefix : String) (files : RouteFiles) (role : RouteRole) :
    List (List String) :=
  (files.pages.filter fun page =>
    (ParsedFile.parse rootPrefix page).role.bind FileRole.routeRole? =
      some role).map
      fun page => (ParsedFile.parse rootPrefix page).routeTokens

/-- The beginnings of listed routes that end in a parameter. -/
def parameterRoutes (rootPrefix : String) (files : RouteFiles) :
    List (List String) :=
  files.pages.flatMap fun page =>
    (ParsedFile.parse rootPrefix page).routeTokens.inits.filter fun route =>
      route.getLast?.any fun token => (SegmentKind.classify token).isDynamic

/-- The routes of the listed error views. -/
def errorRoutes (rootPrefix : String) (files : RouteFiles) :
    List (List String) :=
  files.errors.map fun file => (ParsedFile.parse rootPrefix file).routeTokens

/-- The beginnings of listed routes, other than the empty one, that go on to a
folder or to a page. -/
def openRoutes (rootPrefix : String) (files : RouteFiles) :
    List (List String) :=
  files.pages.flatMap fun page =>
    (ParsedFile.parse rootPrefix page).routeTokens.inits.filter fun route =>
      route ≠ [] ∧ (route ≠ (ParsedFile.parse rootPrefix page).routeTokens ∨
        (ParsedFile.parse rootPrefix page).role.bind FileRole.routeRole? =
          some .page)

variable {config : CompilerConfig} {files : RouteFiles} {tree : RouteNode}

/-- The tree has as many pages as there are routes with a page, and likewise for
layouts. -/
theorem countP_role_tree (gives : (compile config files).Gives tree)
    (role : RouteRole) :
    (tree.nodes.countP fun node => node.role? == some role) =
      (files.routesOf config.routing.rootPrefix role).dedup.length := by
  obtain ⟨guarded, kept, ignored, compilation⟩ := exists_compilation gives
  rw [countP_role,
    (compilation.gather_tree_perm lasting_role fun _ _ => rfl).count_eq,
    ← countP_role]
  apply countP_role_grown
  intro route
  simp only [routesOf, contributions, pages_eq, List.mem_map, List.mem_filter,
    decide_eq_true_eq, exists_exists_and_eq_and, ListedFile.contribution_role,
    ListedFile.contribution_tokens, and_assoc]

/-- The tree has as many nodes with a parameter as there are beginnings of
routes that end in one. -/
theorem countP_dynamic_tree (gives : (compile config files).Gives tree) :
    (tree.nodes.countP fun node => node.dynamic.isSome) =
      (files.parameterRoutes config.routing.rootPrefix).dedup.length := by
  obtain ⟨guarded, kept, ignored, compilation⟩ := exists_compilation gives
  rw [countP_dynamic,
    (compilation.gather_tree_perm lasting_dynamic fun _ _ => rfl).length_eq,
    ← countP_dynamic]
  apply countP_dynamic_grown
  intro route
  simp only [parameterRoutes, contributions, pages_eq, List.mem_flatMap,
    List.mem_map, List.mem_filter, List.mem_inits, exists_exists_and_eq_and,
    ListedFile.contribution_tokens, ← and_assoc, exists_and_right]
  rw [and_comm]

/-- Where no listed route has a folder that is called like the nodes for
unmatched paths, no node has a branch that is taken for one of them. -/
theorem unstarred_of_guarded {guarded : RouteNode}
    (isGuarded : Guarded (files.contributions config) guarded)
    (unstarred : ∀ page ∈ files.pages,
      catchAllPath ∉ (ParsedFile.parse config.routing.rootPrefix
        page).routeTokens) :
    guarded.openRoot.Unstarred := by
  intro path node found
  obtain ⟨route, rfl⟩ := isGuarded.authored.openRoot.named found
  rw [← Option.not_isSome_iff_eq_none]
  intro isBranch
  obtain ⟨branch, isBranch⟩ := Option.isSome_iff_exists.mp isBranch
  have reached :=
    isSome_reach_openRoot guarded ((route ++ [catchAllPath]).map some)
  rw [reach_map_append found isBranch, Option.isSome_some] at reached
  rcases (covers_contributions_iff config files).mp
    (isGuarded.reach_isSome_iff.mp reached.symm) with
      isNil | ⟨page, isPage, begins⟩
  · simp at isNil
  · exact unstarred page isPage
      (begins.subset (List.mem_append_right route List.mem_cons_self))

/-- The tree has a node at every listed route and at its beginnings. -/
theorem isSome_reach_of_covers (views : NotFoundViews) {guarded : RouteNode}
    (isGuarded : Guarded (files.contributions config) guarded)
    (unstarred : guarded.openRoot.Unstarred) {route : List String}
    (covers : Covers (files.contributions config) route) :
    ((guarded.addNotFound views).reach? (route.map some)).isSome = true := by
  have leads := isGuarded.reach_isSome_iff.mpr covers
  rw [← isSome_reach_openRoot] at leads
  obtain ⟨node, found⟩ := Option.isSome_iff_exists.mp leads
  rw [addNotFound_eq_finish, reach_finish (unstarred.not_mem found) found,
    Option.isSome_some]

/-- The tree has as many error views as there are routes with one. -/
theorem countP_error_tree (gives : (compile config files).Gives tree)
    (unstarred : ∀ page ∈ files.pages,
      catchAllPath ∉ (ParsedFile.parse config.routing.rootPrefix
        page).routeTokens) :
    (tree.nodes.countP fun node => node.error.isSome) =
      (files.errorRoutes config.routing.rootPrefix).dedup.length := by
  have fit := ((gives_compile_iff config files).mp ⟨tree, gives⟩).2
  obtain ⟨guarded, isGuarded, isTree⟩ := exists_guarded_of_gives_compile gives
  have authored := isGuarded.authored
  have isError (route : List String) :
      route ∈ files.errorRoutes config.routing.rootPrefix ↔
        (foremost? ParsedFile.routeTokens config.routing.rootPrefix files.errorFiles
          route).isSome = true := by
    rw [isSome_foremost_iff, errorRoutes, ListedFile.map_eq .errors,
      List.mem_map]
    rfl
  have atNode (path : List (Option String)) :
      ((tree.reach? path).any fun node => node.error.isSome) = true ↔
        ∃ route ∈ files.errorRoutes config.routing.rootPrefix,
          path = route.map some := by
    rw [Option.any_eq_true]
    constructor
    · rintro ⟨node, found, hasError⟩
      have reached := found
      rw [isTree, addNotFound_eq_finish] at reached
      obtain ⟨route, rfl, _⟩ := standing_of_reach authored.openRoot reached
      rw [← descendant_eq_reach] at found
      rw [error_eq_foremost gives found, Option.isSome_map, ← isError]
        at hasError
      exact ⟨route, hasError, rfl⟩
    · rintro ⟨route, member, rfl⟩
      have covers : Covers (files.contributions config) route := by
        obtain ⟨file, isFile, rfl⟩ := List.mem_map.mp member
        exact (covers_contributions_iff config files).mpr (fit file isFile)
      have leads :=
        isSome_reach_of_covers (files.notFoundViews config) isGuarded
          (unstarred_of_guarded isGuarded unstarred) covers
      rw [← isTree, ← descendant_eq_reach] at leads
      obtain ⟨node, found⟩ := Option.isSome_iff_exists.mp leads
      refine ⟨node, descendant_eq_reach tree route ▸ found, ?_⟩
      rw [error_eq_foremost gives found, Option.isSome_map, ← isError]
      exact member
  have tidy : tree.Tidy := isTree ▸ authored.tidy.addNotFound _
  exact tidy.countP_nodes_of_blank (fun _ => rfl) atNode

theorem exists_next_iff {route tokens : List String} :
    (∃ next, route ++ [next] <+: tokens) ↔
      route <+: tokens ∧ route ≠ tokens := by
  constructor
  · rintro ⟨next, rest, rfl⟩
    exact ⟨⟨next :: rest, by simp⟩, by simp⟩
  · rintro ⟨⟨rest, rfl⟩, longer⟩
    cases rest with
    | nil => simp at longer
    | cons next more => exact ⟨next, more, by simp⟩

theorem mem_openRoutes_iff {rootPrefix : String} {route : List String} :
    route ∈ files.openRoutes rootPrefix ↔
      route ≠ [] ∧ Occupied rootPrefix files.pages route := by
  simp only [openRoutes, Occupied, exists_next_iff, List.mem_flatMap,
    List.mem_filter, List.mem_inits, decide_eq_true_eq]
  constructor
  · rintro ⟨page, isPage, begins, nonempty, shorter | shows⟩
    · exact ⟨nonempty, page, isPage, Or.inr ⟨begins, shorter⟩⟩
    · by_cases whole : route = (ParsedFile.parse rootPrefix page).routeTokens
      · exact ⟨nonempty, page, isPage, Or.inl ⟨shows, whole.symm⟩⟩
      · exact ⟨nonempty, page, isPage, Or.inr ⟨begins, whole⟩⟩
  · rintro ⟨nonempty, page, isPage, ⟨shows, rfl⟩ | ⟨begins, shorter⟩⟩
    · exact ⟨page, isPage, List.prefix_rfl, nonempty, Or.inr shows⟩
    · exact ⟨page, isPage, begins, nonempty, Or.inl shorter⟩

/-- The pass visits the root and the nodes at the open routes. -/
theorem visited_iff {guarded : RouteNode}
    (isGuarded : Guarded (files.contributions config) guarded)
    (route : List String) :
    (∃ node, guarded.openRoot.reach? (route.map some) = some node ∧
        (route = [] ∨ node.children ≠ [])) ↔
      route ∈ [] :: files.openRoutes config.routing.rootPrefix := by
  rw [List.mem_cons, mem_openRoutes_iff, ← occupied_iff]
  cases route with
  | nil => simp
  | cons first rest =>
    rw [List.map_cons, reach_openRoot_cons, ← List.map_cons]
    constructor
    · rintro ⟨node, found, visited⟩
      have nonempty := visited.resolve_left (List.cons_ne_nil first rest)
      rw [Ne, isGuarded.children_eq_nil_iff found, not_not] at nonempty
      exact Or.inr ⟨List.cons_ne_nil first rest, nonempty⟩
    · intro isOpen
      obtain ⟨_, occupied⟩ := isOpen.resolve_left (List.cons_ne_nil first rest)
      have covers : Covers (files.contributions config) (first :: rest) := by
        rcases occupied with
          ⟨file, isFile, _, hasRoute⟩ | ⟨next, isNil | further⟩
        · exact Or.inr ⟨file, isFile, hasRoute ▸ List.prefix_rfl⟩
        · simp at isNil
        · obtain ⟨file, isFile, begins⟩ := further
          exact Or.inr ⟨file, isFile,
            (List.prefix_append _ [next]).trans begins⟩
      obtain ⟨node, found⟩ := Option.isSome_iff_exists.mp
        (isGuarded.reach_isSome_iff.mpr covers)
      refine ⟨node, found, Or.inr ?_⟩
      rw [Ne, isGuarded.children_eq_nil_iff found, not_not]
      exact occupied

/-- The tree has a node for unmatched paths below its root and one for each open
route. -/
theorem countP_isCatchAll_tree (gives : (compile config files).Gives tree)
    (unstarred : ∀ page ∈ files.pages,
      catchAllPath ∉ (ParsedFile.parse config.routing.rootPrefix
        page).routeTokens) :
    tree.nodes.countP isCatchAll =
      1 + (files.openRoutes config.routing.rootPrefix).dedup.length := by
  obtain ⟨guarded, isGuarded, isTree⟩ := exists_guarded_of_gives_compile gives
  have authored := isGuarded.authored
  have isRoot : guarded.openRoot.path ≠ some catchAllPath := by
    have found : guarded.reach? (([] : List String).map some) = some guarded :=
      rfl
    obtain ⟨node, describes, samePath, _⟩ := isGuarded.exists_describes found
    rw [openRoot_path, samePath, describes.path_eq]
    decide
  have atNode (path : List (Option String)) :
      (tree.reach? path).any isCatchAll = true ↔
        ∃ name ∈ ([] :: files.openRoutes config.routing.rootPrefix).map
            (· ++ [catchAllPath]),
          path = name.map some := by
    rw [isTree, addNotFound_eq_finish,
      any_isCatchAll_finish_iff authored.openRoot
        (unstarred_of_guarded isGuarded unstarred) isRoot]
    simp only [List.mem_map, exists_exists_and_eq_and, ← visited_iff isGuarded]
    constructor
    · rintro ⟨route, node, isPath, found, visited⟩
      exact ⟨route, ⟨node, found, visited⟩, isPath⟩
    · rintro ⟨route, ⟨node, found, visited⟩, isPath⟩
      exact ⟨route, node, isPath, found, visited⟩
  have tidy : tree.Tidy := isTree ▸ authored.tidy.addNotFound _
  have apart : [] ∉ files.openRoutes config.routing.rootPrefix :=
    fun member => (mem_openRoutes_iff.mp member).1 rfl
  rw [tidy.countP_nodes_of_blank (fun _ => rfl) atNode,
    List.dedup_map_of_injective (List.append_left_injective _), List.length_map,
    List.dedup_cons_of_notMem apart, List.length_cons, Nat.add_comm]

/-- The summary of a compiled tree counts the listed files, if no listed route
has a folder that is called like the nodes for unmatched paths.  There is a page
for each route with a page, a layout for each route with a layout, an error view
for each route with one, and a node with a parameter for each beginning of a
listed route that ends in one.  There are nodes for unmatched paths below the
root, and below each other beginning of a listed route that goes on to a folder
or to a page. -/
theorem summary_counts_files (gives : (compile config files).Gives tree)
    (unstarred : ∀ page ∈ files.pages,
      catchAllPath ∉ (ParsedFile.parse config.routing.rootPrefix
        page).routeTokens) :
    Summary.ofTree tree =
      { nodes := tree.countNodes
        pages := (files.routesOf config.routing.rootPrefix .page).dedup.length
        layouts :=
          (files.routesOf config.routing.rootPrefix .layout).dedup.length
        dynamic :=
          (files.parameterRoutes config.routing.rootPrefix).dedup.length
        errorBoundaries :=
          (files.errorRoutes config.routing.rootPrefix).dedup.length
        catchAlls :=
          1 + (files.openRoutes config.routing.rootPrefix).dedup.length } := by
  rw [Summary.ofTree_eq, ← countP_role_tree gives, ← countP_role_tree gives,
    ← countP_dynamic_tree gives, ← countP_error_tree gives unstarred,
    ← countP_isCatchAll_tree gives unstarred, ← length_nodes]
  rfl

/-- A site with a page that loses its place, a folder without a page, a
parameter and an error view. -/
def bakery : RouteFiles where
  pages :=
    ["app/layout.rs", "app/page.rs", "app/(old)/page.rs",
      "app/cakes/[id]/page.rs", "app/cakes/[id]/layout.rs", "app/press/archive"]
  errors := ["app/cakes/error.rs"]

theorem summary_counts_files_bakery :
    ∃ tree, (compile {} bakery).Gives tree ∧
      (∀ page ∈ bakery.pages,
        catchAllPath ∉ (ParsedFile.parse "app" page).routeTokens) ∧
      Summary.ofTree tree =
        { nodes := tree.countNodes
          pages := 2
          layouts := 2
          dynamic := 1
          errorBoundaries := 1
          catchAlls := 4 } := by
  have compiles :
      (compile {} bakery).outcome.toOption.any (fun _ => true) = true := by
    have sorted :
        boundaries {} bakery = bakery.errorFiles.map (Boundary.ofFile "app") :=
      List.mergeSort_singleton _
    rw [outcome_compile, sorted]
    decide +kernel
  have unstarred : ∀ page ∈ bakery.pages,
      catchAllPath ∉ (ParsedFile.parse "app" page).routeTokens := by
    decide +kernel
  have counts : ((bakery.routesOf "app" .page).dedup.length,
      (bakery.routesOf "app" .layout).dedup.length,
      (bakery.parameterRoutes "app").dedup.length,
      (bakery.errorRoutes "app").dedup.length,
      (bakery.openRoutes "app").dedup.length) = (2, 2, 1, 1, 3) := by
    decide +kernel
  obtain ⟨tree, gives, _⟩ := exists_gives_of_any compiles
  simp only [Prod.mk.injEq] at counts
  obtain ⟨pages, layouts, dynamic, errors, isOpen⟩ := counts
  have summary := summary_counts_files gives unstarred
  dsimp only at summary
  rw [pages, layouts, dynamic, errors, isOpen] at summary
  exact ⟨tree, gives, unstarred, summary⟩

end RouteFiles
end FileRoutes
