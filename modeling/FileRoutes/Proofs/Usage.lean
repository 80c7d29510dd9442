import FileRoutes.Proofs.Conservation
import FileRoutes.Proofs.SiteVisits
import FileRoutes.Proofs.Unmatched

/-!
# Which files a compiled tree uses

Each page or layout is at one place of a tree at most, while loading, error and
not-found views are shared by the nodes that show them.  Once all that a tree
shows was resolved, the files that it uses were imported once each, and the
others were not.
-/

namespace FileRoutes
namespace Contribution

open RouteNode

variable {files : List Contribution} {route : List String} {node : RouteNode}

theorem exists_of_claim {role : RouteRole} {spec : RenderSpec}
    (held : (files.findSome? (claim? role route)).bind RouteContent.spec? =
      some spec) :
    ∃ file ∈ files, file.role = some role ∧ file.tokens = route ∧
      file.spec = spec := by
  obtain ⟨content, found, isSpec⟩ := Option.bind_eq_some_iff.mp held
  obtain ⟨file, member, claims⟩ := List.exists_of_findSome?_eq_some found
  obtain ⟨⟨hasRole, hasRoute⟩, rfl⟩ := claim_eq_some_iff.mp claims
  refine ⟨file, member, hasRole, hasRoute, ?_⟩
  cases role with
  | page => exact Option.some.inj isSpec
  | layout => exact Option.some.inj isSpec

/-- The pages and layouts at and below a node are its own layout, its own page
and those of its branches. -/
theorem gather_spec (tidy : node.Tidy) :
    node.gather RouteNode.spec? =
      (node.content.bind RouteContent.spec?).toList ++
      (node.slot?.bind RouteContent.spec?).toList ++
        node.branches.flatMap (RouteNode.gather RouteNode.spec?) := by
  rw [gather_eq, tidy.arranged.children_eq, arrange, List.flatMap_append,
    List.append_assoc]
  congr 2
  cases node.slot? with
  | none => rfl
  | some content =>
    rw [Option.map_some, Option.toList_some, List.flatMap_singleton,
      gather_of_leaf rfl]
    rfl

/-- A branch of a node in a grown tree has a name and stands one token
further. -/
theorem exists_reach_of_mem_branches (tidy : node.Tidy)
    (found : (grown files).reach? (route.map some) = some node)
    {branch : RouteNode} (isBranch : branch ∈ node.branches) :
    ∃ name, branch.path = some name ∧
      (grown files).reach? ((route ++ [name]).map some) = some branch := by
  have reached := tidy.branchAt_of_mem isBranch
  obtain ⟨name, isName⟩ := (authored_grown files).exists_name found reached
  rw [isName] at reached
  exact ⟨name, isName, reach_map_append found reached⟩

/-- The pages and layouts at and below a route were listed, with routes that
begin with it. -/
theorem exists_of_mem_gather (tidy : node.Tidy)
    (found : (grown files).reach? (route.map some) = some node)
    {spec : RenderSpec} (member : spec ∈ node.gather RouteNode.spec?) :
    ∃ file ∈ files, file.spec = spec ∧ route <+: file.tokens := by
  induction tidy generalizing route with
  | @intro node notIndex arranged below step =>
    have tidy : node.Tidy := .intro notIndex arranged below
    have describes := describes_of_reach_grown found
    rw [gather_spec tidy, describes.content_eq, describes.slot_eq,
      List.mem_append, List.mem_append, Option.mem_toList, Option.mem_toList,
      List.mem_flatMap] at member
    rcases member with (isLayout | isPage) | ⟨branch, isBranch, inBranch⟩
    · obtain ⟨file, listed, _, hasRoute, isSpec⟩ := exists_of_claim isLayout
      exact ⟨file, listed, isSpec, hasRoute ▸ List.prefix_rfl⟩
    · obtain ⟨file, listed, _, hasRoute, isSpec⟩ := exists_of_claim isPage
      exact ⟨file, listed, isSpec, hasRoute ▸ List.prefix_rfl⟩
    · obtain ⟨name, _, reached⟩ :=
        exists_reach_of_mem_branches tidy found isBranch
      obtain ⟨file, listed, isSpec, begins⟩ :=
        step branch isBranch reached inBranch
      exact ⟨file, listed, isSpec,
        (List.prefix_append route [name]).trans begins⟩

theorem exists_of_mem_claim {role : RouteRole} {file : ListedFile}
    (member : file ∈ ((files.findSome? (claim? role route)).bind
      RouteContent.spec?).toList.map RenderSpec.file) :
    ∃ listed ∈ files, listed.role = some role ∧ listed.tokens = route ∧
      listed.spec.file = file := by
  obtain ⟨spec, held, rfl⟩ := List.mem_map.mp member
  obtain ⟨listed, isListed, hasRole, hasRoute, rfl⟩ :=
    exists_of_claim (Option.mem_toList.mp held)
  exact ⟨listed, isListed, hasRole, hasRoute, rfl⟩

theorem exists_of_mem_branch (tidy : node.Tidy)
    (found : (grown files).reach? (route.map some) = some node)
    {branch : RouteNode} (isBranch : branch ∈ node.branches) {file : ListedFile}
    (member : file ∈ (branch.gather RouteNode.spec?).map RenderSpec.file) :
    ∃ listed ∈ files, listed.spec.file = file ∧
      ∃ name, branch.path = some name ∧
      route ++ [name] <+: listed.tokens := by
  obtain ⟨spec, held, rfl⟩ := List.mem_map.mp member
  obtain ⟨name, isName, reached⟩ :=
    exists_reach_of_mem_branches tidy found isBranch
  obtain ⟨listed, isListed, rfl, begins⟩ :=
    exists_of_mem_gather (tidy.of_mem_branches isBranch) reached held
  exact ⟨listed, isListed, rfl, name, isName, begins⟩

/-- No page or layout is at two places of a trie. -/
theorem nodup_gather_spec
    (distinct : (files.map fun file => file.spec.file).Nodup)
    (tidy : node.Tidy)
    (found : (grown files).reach? (route.map some) = some node) :
    ((node.gather RouteNode.spec?).map RenderSpec.file).Nodup := by
  have sameFile {left right : Contribution} (isLeft : left ∈ files)
      (isRight : right ∈ files)
      (same : left.spec.file = right.spec.file) : left = right :=
    List.inj_on_of_nodup_map distinct isLeft isRight same
  have alone (held : Option RenderSpec) :
      (held.toList.map RenderSpec.file).Nodup := by
    cases held with
    | none => exact List.nodup_nil
    | some spec => exact List.nodup_singleton _
  induction tidy generalizing route with
  | @intro node notIndex arranged below step =>
    have tidy : node.Tidy := .intro notIndex arranged below
    have describes := describes_of_reach_grown found
    rw [gather_spec tidy, describes.content_eq, describes.slot_eq,
      List.map_append, List.map_append, List.nodup_append, List.nodup_append,
      List.map_flatMap, List.nodup_flatMap]
    refine ⟨⟨alone _, alone _, ?_⟩, ⟨?_, ?_⟩, ?_⟩
    · -- The layout and the page of the node have different roles.
      intro layout isLayout page isPage
      obtain ⟨left, isLeft, leftRole, _, rfl⟩ := exists_of_mem_claim isLayout
      obtain ⟨right, isRight, rightRole, _, rfl⟩ := exists_of_mem_claim isPage
      intro same
      rw [sameFile isLeft isRight same, rightRole] at leftRole
      cases leftRole
    · intro branch isBranch
      obtain ⟨name, _, reached⟩ :=
        exists_reach_of_mem_branches tidy found isBranch
      exact step branch isBranch reached
    · -- Branches have different names.
      have apart := List.pairwise_map.mp tidy.arranged.distinct
      refine apart.imp_of_mem fun isLeft isRight different => ?_
      intro file inLeft inRight
      obtain ⟨left, leftListed, leftFile, name, leftName, leftBegins⟩ :=
        exists_of_mem_branch tidy found isLeft inLeft
      obtain ⟨right, rightListed, rightFile, other, rightName, rightBegins⟩ :=
        exists_of_mem_branch tidy found isRight inRight
      rw [sameFile leftListed rightListed (leftFile.trans rightFile.symm)]
        at leftBegins
      have sameRoute := (List.prefix_of_prefix_length_le leftBegins rightBegins
        (by simp)).eq_of_length (by simp)
      have sameName := List.append_cancel_left sameRoute
      rw [List.singleton_inj] at sameName
      exact different (by rw [leftName, rightName, sameName])
    · -- What is further down has a longer route.
      intro file here other there
      obtain ⟨branch, isBranch, inBranch⟩ := List.mem_flatMap.mp there
      obtain ⟨right, isRight, rfl, name, _, begins⟩ :=
        exists_of_mem_branch tidy found isBranch inBranch
      obtain ⟨left, isLeft, hasRoute, rfl⟩ :
          ∃ left ∈ files, left.tokens = route ∧ left.spec.file = file := by
        rcases List.mem_append.mp here with isLayout | isPage
        · obtain ⟨left, isLeft, _, hasRoute, isFile⟩ :=
            exists_of_mem_claim isLayout
          exact ⟨left, isLeft, hasRoute, isFile⟩
        · obtain ⟨left, isLeft, _, hasRoute, isFile⟩ :=
            exists_of_mem_claim isPage
          exact ⟨left, isLeft, hasRoute, isFile⟩
      intro same
      rw [← sameFile isLeft isRight same, hasRoute] at begins
      have shorter := begins.length_le
      rw [List.length_append, List.length_singleton] at shorter
      omega

end Contribution

/-! ## Where views come from -/

namespace ViewIndex

variable {keyOf : ParsedFile -> String} {rootPrefix : String}
  {files : List ListedFile} {file : ListedFile}

theorem mem_of_get_build {key : String}
    (found : (build keyOf rootPrefix files).2.get? key = some (.file file)) :
    file ∈ files := by
  rw [get_build_eq_foremost, Option.map_eq_some_iff] at found
  obtain ⟨holder, isForemost, isView⟩ := found
  rw [← View.file.inj isView]
  exact (hasKey_of_foremost keyOf rootPrefix files isForemost).1

/-- A loading view that is found was registered. -/
theorem mem_of_findLoading {page : ParsedFile}
    (found : (build keyOf rootPrefix files).2.findLoading page = .file file) :
    file ∈ files := by
  rw [findLoading, Option.getD_eq_iff, Option.or_eq_some_iff] at found
  rcases found with (inFolders | ⟨_, inRoot⟩) | ⟨_, isBuiltin⟩
  · obtain ⟨key, _, isKey⟩ := List.exists_of_findSome?_eq_some inFolders
    exact mem_of_get_build isKey
  · exact mem_of_get_build inRoot
  · cases isBuiltin

/-- A not-found view that is nearest to a route was registered. -/
theorem mem_of_nearest {key : String}
    (found : NotFoundViews.nearest ⟨(build keyOf rootPrefix files).2⟩ key =
      .file file) :
    file ∈ files := by
  rw [NotFoundViews.nearest, NotFoundViews.fallback, Option.getD_eq_iff,
    Option.getD_eq_iff] at found
  rcases found with above | ⟨_, inRoot | ⟨_, isBuiltin⟩⟩
  · obtain ⟨key, _, isKey⟩ := List.exists_of_findSome?_eq_some above
    exact mem_of_get_build isKey
  · exact mem_of_get_build inRoot
  · cases isBuiltin

end ViewIndex

namespace ListedFile

theorem list_of_mem_ofList {list : FileList} {ids : List String}
    {file : ListedFile} (member : file ∈ ofList list ids) :
    file.list = list := by
  obtain ⟨_, _, rfl⟩ := List.mem_map.mp member
  rfl

end ListedFile

/-! ## Compiled trees -/

/-- Whether a node uses a file: as its page or layout or the loading view of
that, as its not-found view, or as its error view. -/
def RouteNode.uses (node : RouteNode) (file : ListedFile) : Bool :=
  (node.spec?.any fun spec =>
      spec.file == file || spec.loading == .file file) ||
    node.content == some (.notFound (.file file)) ||
    node.error == some (.file file)

namespace Lazy

variable {node : RouteNode}

/-- A node resolves the route of a file exactly if it renders that file. -/
theorem route_mem_resolvables_iff {file : ListedFile} :
    .route file ∈ resolvables node ↔
      ∃ spec, node.spec? = some spec ∧ spec.file = file := by
  rw [resolvables, RouteNode.spec?]
  rcases node.content with _ | ⟨spec⟩ | ⟨spec⟩ | ⟨view⟩ <;>
    simp [contentResolvables, RouteContent.spec?, eq_comm]

/-- A node resolves a view to show it while loading, for unmatched paths or
after an error. -/
theorem view_mem_resolvables_iff {view : View} :
    .view view ∈ resolvables node ↔
      (∃ spec, node.spec? = some spec ∧ spec.loading = view) ∨
      node.content = some (.notFound view) ∨ node.error = some view := by
  rw [resolvables, RouteNode.spec?]
  rcases node.content with _ | ⟨spec⟩ | ⟨spec⟩ | ⟨view⟩ <;>
    simp [contentResolvables, RouteContent.spec?, eq_comm]

/-- A node uses the files that it needs to have resolved. -/
theorem uses_iff {file : ListedFile} :
    node.uses file = true ↔
      .route file ∈ resolvables node ∨
      .view (.file file) ∈ resolvables node := by
  rw [route_mem_resolvables_iff, view_mem_resolvables_iff, RouteNode.uses]
  cases node.spec? <;> simp [or_assoc]

end Lazy

namespace RouteFiles

open Logged RouteNode Contribution Lazy

variable {config : CompilerConfig} {files : RouteFiles} {tree node : RouteNode}
  {file : ListedFile}

theorem not_mem_viewFiles (isPage : file ∈ files.pageFiles) :
    file ∉ files.viewFiles := by
  have inPages : file.list = .pages := ListedFile.list_of_mem_ofList isPage
  rw [viewFiles, List.mem_append, List.mem_append]
  rintro ((isError | isNotFound) | isLoading)
  · exact absurd (inPages.symm.trans (ListedFile.list_of_mem_ofList isError))
      (by decide)
  · exact absurd (inPages.symm.trans (ListedFile.list_of_mem_ofList isNotFound))
      (by decide)
  · exact absurd (inPages.symm.trans (ListedFile.list_of_mem_ofList isLoading))
      (by decide)

/-- The pages and layouts of a compiled tree are those of the trie. -/
theorem specs_perm (gives : (compile config files).Gives tree) :
    (tree.gather RouteNode.spec?).Perm
      ((grown (files.contributions config)).gather RouteNode.spec?) := by
  obtain ⟨guarded, kept, ignored, compilation⟩ := exists_compilation gives
  exact Compilation.gather_tree_perm lasting_spec (fun _ _ => rfl) compilation

/-- Each page or layout is rendered by one node at most. -/
theorem nodup_sources (gives : (compile config files).Gives tree) :
    ((tree.gather RouteNode.spec?).map RenderSpec.file).Nodup := by
  have distinct :
      ((files.contributions config).map fun file => file.spec.file).Nodup := by
    rw [contributions, List.map_map]
    exact (List.map_id files.pageFiles).symm ▸ ListedFile.nodup_ofList
      .pages files.pages
  rw [((specs_perm gives).map RenderSpec.file).nodup_iff]
  exact @nodup_gather_spec _ [] _ distinct (grown_tidy _) (reach_nil _)

/-- A page or layout of a compiled tree was listed, and its loading view was
found. -/
theorem listed_of_spec (gives : (compile config files).Gives tree)
    (member : node ∈ tree.nodes) {spec : RenderSpec}
    (renders : node.spec? = some spec) :
    spec.file ∈ files.pageFiles ∧
    spec.loading = (files.loadingIndex config).findLoading
      (ParsedFile.parse config.routing.rootPrefix spec.file.id) := by
  have gathered :=
    (specs_perm gives).subset (mem_gather.mpr ⟨node, member, renders⟩)
  obtain ⟨listed, isListed, rfl, _⟩ :=
    @exists_of_mem_gather _ [] _ (grown_tidy _) (reach_nil _) _ gathered
  obtain ⟨file, isFile, rfl⟩ := List.mem_map.mp isListed
  exact ⟨isFile, rfl⟩

/-- A not-found node shows the view nearest to some key. -/
theorem exists_nearest (gives : (compile config files).Gives tree)
    (member : node ∈ tree.nodes) {view : View}
    (shown : node.content = some (.notFound view)) :
    ∃ key, view = (files.notFoundViews config).nearest key := by
  obtain ⟨guarded, isGuarded, rfl⟩ := exists_guarded_of_gives_compile gives
  have authored := isGuarded.authored
  rcases exists_parent_of_mem_nodes authored member with
    rfl | ⟨route, parent, found, isChild⟩
  · exact absurd shown (written_addNotFound authored view)
  · exact ⟨_, (standing_of_descendant authored found).view_eq authored.openRoot
      isChild shown⟩

/-- Every route that a compiled tree resolves is that of a listed page. -/
theorem mem_pageFiles_of_shown (gives : (compile config files).Gives tree)
    (member : node ∈ tree.nodes) (shown : .route file ∈ resolvables node) :
    file ∈ files.pageFiles := by
  obtain ⟨spec, renders, rfl⟩ := route_mem_resolvables_iff.mp shown
  exact (listed_of_spec gives member renders).1

/-- The views that a compiled tree shows were listed. -/
theorem mem_viewFiles_of_shown (gives : (compile config files).Gives tree)
    (member : node ∈ tree.nodes)
    (shown : .view (.file file) ∈ resolvables node) :
    file ∈ files.viewFiles := by
  rw [viewFiles, List.mem_append, List.mem_append]
  rcases view_mem_resolvables_iff.mp shown with
    ⟨spec, renders, isLoading⟩ | isNotFound | isError
  · rw [(listed_of_spec gives member renders).2] at isLoading
    exact Or.inr (ViewIndex.mem_of_findLoading isLoading)
  · obtain ⟨key, isNearest⟩ := exists_nearest gives member isNotFound
    exact Or.inl (Or.inr (ViewIndex.mem_of_nearest isNearest.symm))
  · obtain ⟨guarded, kept, ignored, compilation⟩ := exists_compilation gives
    have isKept :=
      compilation.errors_tree.subset (mem_gather.mpr ⟨node, member, isError⟩)
    obtain ⟨boundary, keeps, isFile⟩ := List.mem_map.mp isKept
    have isBoundary :=
      compilation.boundaries.mem_iff.mpr (List.mem_append_left ignored keeps)
    obtain ⟨listed, isListed, rfl⟩ := List.mem_map.mp isBoundary
    exact Or.inl (Or.inl (View.file.inj isFile ▸ isListed))

/-- A page is resolved somewhere exactly if some node uses it. -/
theorem route_shown_iff (gives : (compile config files).Gives tree)
    (isPage : file ∈ files.pageFiles) :
    (∃ node ∈ tree.nodes, .route file ∈ resolvables node) ↔
      (tree.nodes.any fun node => node.uses file) = true := by
  rw [List.any_eq_true]
  refine exists_congr fun node => and_congr_right fun member => ?_
  rw [uses_iff, or_iff_left]
  exact fun shown =>
    not_mem_viewFiles isPage (mem_viewFiles_of_shown gives member shown)

theorem view_shown_iff (gives : (compile config files).Gives tree)
    (isView : file ∈ files.viewFiles) :
    (∃ node ∈ tree.nodes, .view (.file file) ∈ resolvables node) ↔
      (tree.nodes.any fun node => node.uses file) = true := by
  rw [List.any_eq_true]
  refine exists_congr fun node => and_congr_right fun member => ?_
  rw [uses_iff, or_iff_right]
  exact fun shown =>
    not_mem_viewFiles (mem_pageFiles_of_shown gives member shown) isView

/-- The listed pages and layouts that a tree shows are as many as its nodes that
render one. -/
theorem length_shown_routes (gives : (compile config files).Gives tree)
    {targets : List Resolvable}
    (shown : ∀ target, target ∈ targets ↔
      ∃ node ∈ tree.nodes, target ∈ resolvables node) :
    (files.pageFiles.filter fun file => .route file ∈ targets).length =
      (tree.nodes.filter fun node => node.spec?.isSome).length := by
  have sameFiles :
      (files.pageFiles.filter fun file => .route file ∈ targets).Perm
        ((tree.gather RouteNode.spec?).map RenderSpec.file) := by
    have listed : files.pageFiles.Nodup :=
      ListedFile.nodup_ofList .pages files.pages
    rw [List.perm_ext_iff_of_nodup (listed.filter _) (nodup_sources gives)]
    intro file
    rw [List.mem_filter, decide_eq_true_iff, shown, List.mem_map]
    constructor
    · rintro ⟨_, node, member, isShown⟩
      obtain ⟨spec, renders, isFile⟩ := route_mem_resolvables_iff.mp isShown
      exact ⟨spec, mem_gather.mpr ⟨node, member, renders⟩, isFile⟩
    · rintro ⟨spec, gathered, isFile⟩
      obtain ⟨node, member, renders⟩ := mem_gather.mp gathered
      have isShown := route_mem_resolvables_iff.mpr ⟨spec, renders, isFile⟩
      exact ⟨mem_pageFiles_of_shown gives member isShown, node, member, isShown⟩
  rw [sameFiles.length_eq, List.length_map, gather,
    List.length_filterMap_eq_countP, List.countP_eq_length_filter]

/-- Shared views are imported once, and files without use are not imported.  In
whatever order and however often the pages, layouts and views of a compiled tree
are resolved, as long as none is left out, each listed file that a node uses was
imported once and every other one was not, and the middleware was called once
for each page or layout. -/
theorem imported_once (gives : (compile config files).Gives tree)
    {importPage : ListedFile -> Nat -> Import PageModule}
    {importView : ListedFile -> Nat -> Import ViewModule}
    (pagesLoad : ∀ file call, ∃ exports, (importPage file call).outcome =
      .ok exports)
    (viewsLoad : ∀ file call, ∃ exports, (importView file call).outcome =
      .ok exports)
    (middleware : Middleware) {targets : List Resolvable}
    (shown : ∀ target, target ∈ targets ↔
      ∃ node ∈ tree.nodes, target ∈ resolvables node) :
    ((Site.ofFiles importPage importView middleware files).resolveAll
      targets).imports = (files.pageFiles ++ files.viewFiles).map (fun file =>
        (file,
          if (tree.nodes.any fun node => node.uses file) = true then 1 else 0)) ∧
      ((Site.ofFiles importPage importView middleware files).resolveAll
        targets).wraps =
        (tree.nodes.filter fun node => node.spec?.isSome).length := by
  constructor
  · rw [Site.imports_resolveAll pagesLoad viewsLoad, List.map_append]
    congr 1
    · apply List.map_congr_left
      intro file isPage
      rw [if_congr ((shown _).trans (route_shown_iff gives isPage)) rfl rfl]
    · apply List.map_congr_left
      intro file isView
      rw [if_congr ((shown _).trans (view_shown_iff gives isView)) rfl rfl]
  · rw [Site.wraps_resolveAll pagesLoad, length_shown_routes gives shown]

/-- A site with a loading and a not-found view that several nodes share, and
with a page and a loading view that none uses. -/
def gallery : RouteFiles where
  pages := ["app/page.rs", "app/shop/page.rs", "app/(old)/shop/page.rs"]
  errors := ["app/shop/error.rs"]
  notFound := ["app/404.rs"]
  loading := ["app/loading.rs", "app/docs/loading.rs"]

theorem imported_once_gallery :
    ∃ tree site, (compile {} gallery).Gives tree ∧
      site = ((Site.ofPlaceholders .identity gallery).visitAll
        (tree.nodes ++ tree.nodes)).2 ∧
      site.imports.map (fun entry => (entry.1.id, entry.2)) =
        [("app/page.rs", 1), ("app/shop/page.rs", 1),
          ("app/(old)/shop/page.rs", 0),
          ("app/shop/error.rs", 1), ("app/404.rs", 1), ("app/loading.rs", 1),
          ("app/docs/loading.rs", 0)] ∧
      site.wraps = 2 := by
  have compiles : (compile {} gallery).outcome.toOption.any (fun tree =>
      ((gallery.pageFiles ++ gallery.viewFiles).map fun file =>
        (file.id,
          if (tree.nodes.any fun node => node.uses file) = true then 1
          else 0)) ==
          [("app/page.rs", 1), ("app/shop/page.rs", 1),
            ("app/(old)/shop/page.rs", 0), ("app/shop/error.rs", 1),
            ("app/404.rs", 1), ("app/loading.rs", 1),
            ("app/docs/loading.rs", 0)] &&
        (tree.nodes.filter fun node => node.spec?.isSome).length ==
          2) = true := by
    have sorted : boundaries {} gallery =
        gallery.errorFiles.map (Boundary.ofFile "app") :=
      List.mergeSort_singleton _
    rw [outcome_compile, sorted]
    decide +kernel
  obtain ⟨tree, gives, result⟩ := exists_gives_of_any compiles
  obtain ⟨counts, wraps⟩ := Bool.and_eq_true_iff.mp result
  obtain ⟨imports, wrapped⟩ := @imported_once {} gallery tree gives
    (fun file _ => .immediate ⟨.placeholder file.id, none, none⟩)
    (fun file _ => .immediate ⟨.placeholder file.id⟩) (fun _ _ => ⟨_, rfl⟩)
    (fun _ _ => ⟨_, rfl⟩) .identity
      ((tree.nodes ++ tree.nodes).flatMap resolvables) (by simp)
  refine ⟨tree, _, gives, rfl, ?_, ?_⟩
  · rw [Site.visitAll_eq_resolveAll, Site.ofPlaceholders, imports, List.map_map]
    exact beq_iff_eq.mp counts
  · rw [Site.visitAll_eq_resolveAll, Site.ofPlaceholders, wrapped]
    exact beq_iff_eq.mp wraps

end RouteFiles
end FileRoutes
