import FileRoutes.Proofs.Groundwork
import FileRoutes.Proofs.Outranked
import FileRoutes.Proofs.Sources

/-!
# No file is dropped silently

A listed file can lose a place in three ways: another page or layout has its
place in the tree, another view has its key, or another error view guards its
route.  Whatever is listed, each loser is named in one warning, and everything
else is in use.
-/

namespace FileRoutes

open Logged RouteNode

/-- The identifier that a warning names as ignored for another error view. -/
def Event.overruled? : Event -> Option String
  | boundaryIgnored id _ => some id
  | _ => none

namespace Boundary

/-- Where error views can still be attached, none is attached yet. -/
def Open (rootPrefix : String) (guarded : List String) (root : RouteNode) :
    Prop :=
  ∀ file node, (ofFile rootPrefix file).parsed.routeKey ∉ guarded ->
    root.reach? ((ofFile rootPrefix file).parsed.routeTokens.map some) =
      some node ->
    node.error = none

variable {rootPrefix : String} {guarded : List String}
  {root attached tree : RouteNode} {boundaries : List Boundary}

/-- The warning about an error view whose route is guarded. -/
def warning (boundary : Boundary) : Event :=
  .boundaryIgnored boundary.parsed.id boundary.parsed.routeKey

theorem filterMap_warnings {read : Event -> Option String}
    (noWarning : ∀ id key, read (.boundaryIgnored id key) = none)
    (boundaries : List Boundary) :
    (boundaries.map warning).filterMap read = [] := by
  rw [List.filterMap_map, List.filterMap_eq_nil_iff]
  exact fun boundary _ => noWarning _ _

theorem Open.attach (isOpen : Open rootPrefix guarded root) {file : ListedFile}
    (attaches : root.attachErrorView (ofFile rootPrefix file).parsed.routeTokens
      (.file file) = .ok attached) :
    Open rootPrefix ((ofFile rootPrefix file).parsed.routeKey :: guarded)
      attached := by
  intro other node unknown found
  rw [List.mem_cons, not_or] at unknown
  have apart : (ofFile rootPrefix other).parsed.routeTokens.map some ≠
      (ofFile rootPrefix file).parsed.routeTokens.map some := by
    intro same
    apply unknown.1
    rw [ParsedFile.routeKey, ParsedFile.routeKey,
      List.map_injective_iff.mpr (fun _ _ => Option.some.inj) same]
  have places := place_attachErrorView attaches
    ((ofFile rootPrefix other).parsed.routeTokens.map some)
  rw [if_neg apart, found] at places
  obtain ⟨before, isBefore, samePlace⟩ := Option.map_eq_some_iff.mp places.symm
  exact (congrArg Place.error samePlace).symm.trans
    (isOpen other before unknown.2 isBefore)

/-- Each error view is attached to a node or named in a warning. -/
theorem exists_kept_ignored (taken : ∀ boundary ∈ boundaries, ∃ file,
      boundary = ofFile rootPrefix file)
    (isOpen : Open rootPrefix guarded root)
    (gives : (attachBoundaries guarded root boundaries).Gives tree) :
    ∃ kept ignored : List Boundary, boundaries.Perm (kept ++ ignored) ∧
      (attachBoundaries guarded root boundaries).log = ignored.map warning ∧
      (tree.gather RouteNode.error).Perm
        (root.gather RouteNode.error ++ kept.map fun boundary =>
          .file boundary.file) := by
  induction boundaries generalizing guarded root with
  | nil =>
    cases gives
    exact ⟨[], [], .refl _, rfl, by rw [List.map_nil, List.append_nil]⟩
  | cons boundary rest step =>
    obtain ⟨file, isFile⟩ := taken boundary List.mem_cons_self
    have restTaken :=
      fun other member => taken other (List.mem_cons_of_mem boundary member)
    by_cases known : boundary.parsed.routeKey ∈ guarded
    · rw [attachBoundaries_guarded known] at gives ⊢
      obtain ⟨_, _, restGives⟩ := gives_bind_iff.mp gives
      obtain ⟨kept, ignored, parts, isLog, errors⟩ :=
        step restTaken isOpen restGives
      refine ⟨kept, boundary :: ignored, ?_, ?_, errors⟩
      · exact (parts.cons boundary).trans List.perm_middle.symm
      · rw [(gives_record _).log_bind, isLog]
        rfl
    · cases attaches : root.attachErrorView boundary.parsed.routeTokens
          (.file boundary.file) with
      | error error =>
        rw [attachBoundaries_failed known attaches] at gives
        cases gives
      | ok attached =>
        rw [attachBoundaries_attached known attaches] at gives ⊢
        obtain ⟨reached, isReached⟩ := Option.isSome_iff_exists.mp
          (attachErrorView_ok_iff.mp ⟨attached, attaches⟩)
        have changes :=
          gather_attachErrorView_perm lasting_error attaches isReached
        subst isFile
        have noError := isOpen file reached known isReached
        obtain ⟨kept, ignored, parts, isLog, errors⟩ :=
          step restTaken (isOpen.attach attaches) gives
        refine ⟨_ :: kept, ignored, parts.cons _, isLog, ?_⟩
        rw [noError, Option.toList_none, List.append_nil] at changes
        refine errors.trans ((changes.append_right _).trans ?_)
        rw [List.append_assoc]
        exact .refl _

end Boundary

namespace Contribution

/-- All of a tree that has no error views yet is open. -/
theorem open_grown (rootPrefix : String) (files : List Contribution) :
    Boundary.Open rootPrefix [] (grown files) :=
  fun _ _ _ found => (describes_of_reach_grown found).error_eq

/-- A trie has no error views. -/
theorem errors_grown (files : List Contribution) :
    (grown files).gather RouteNode.error = [] := by
  have unguarded {route : List (Option String)} {node : RouteNode}
      (found : (grown files).reach? route = some node) : node.error = none := by
    obtain ⟨names, rfl⟩ := exists_names_of_reach_grown found
    exact (describes_of_reach_grown found).error_eq
  rw [gather_eq_nil_iff]
  intro node member
  rcases (grown_tidy files).exists_parent_of_mem_nodes member with
    rfl | ⟨route, parent, found, isChild⟩
  · exact unguarded (reach_nil _)
  · have tidy := (grown_tidy files).of_reach found
    rcases tidy.mem_children isChild with ⟨content, _, rfl⟩ | isBranch
    · rfl
    · have below : (grown files).reach? (route ++ [node.path]) = some node := by
        rw [reach_append_singleton, found]
        exact tidy.branchAt_of_mem isBranch
      exact unguarded below

end Contribution

namespace ListedFile

theorem nodup_ofList (list : FileList) (ids : List String) :
    (ofList list ids).Nodup := by
  have positions : (ofList list ids).map position =
      List.range' 0 ids.length := by
    rw [ofList, List.map_map, ← List.zipIdx_map_snd 0 ids]
    rfl
  refine List.Nodup.of_map position ?_
  rw [positions]
  exact List.nodup_range'

theorem map_eq {β : Type} (list : FileList) (ids : List String)
    (value : String -> β) :
    ids.map value = (ofList list ids).map fun file => value file.id := by
  rw [← Function.comp_def value id, ← List.map_map, RouteFiles.map_id_ofList]

theorem filter_eq (list : FileList) (ids : List String)
    (test : String -> Bool) :
    ids.filter test =
      ((ofList list ids).filter fun file => test file.id).map id := by
  rw [← Function.comp_def test id, ← List.filter_map, RouteFiles.map_id_ofList]

end ListedFile

namespace RouteFiles

open Contribution

variable {config : CompilerConfig} {files : RouteFiles} {tree : RouteNode}

theorem filterMap_log_build {read : Event -> Option String}
    (noView : ∀ ignored kept key, read (.viewIgnored ignored kept key) = none)
    (keyOf : ParsedFile -> String) (rootPrefix : String)
    (listed : List ListedFile) :
    (ViewIndex.build keyOf rootPrefix listed).1.filterMap read = [] := by
  rw [List.filterMap_eq_nil_iff]
  intro event member
  obtain ⟨ignored, kept, key, rfl⟩ := ViewIndex.mem_log_build member
  exact noView ignored kept key

/-- Error views do not move what is read off the nodes apart from them. -/
theorem gather_attachBoundaries_perm {β : Type} {read : RouteNode -> Option β}
    (lasting : Lasting read)
    (unguarded : ∀ node view, read { node with error := view } = read node)
    {guarded : List String} {root attached : RouteNode}
    {boundaries : List Boundary}
    (gives : (attachBoundaries guarded root boundaries).Gives attached) :
    (attached.gather read).Perm (root.gather read) := by
  have step {node result : RouteNode} {route : List String} {view : View}
      (same : (node.gather read).Perm (root.gather read))
      (attaches : node.attachErrorView route view = .ok result) :
      (result.gather read).Perm (root.gather read) := by
    obtain ⟨reached, isReached⟩ := Option.isSome_iff_exists.mp
      (attachErrorView_ok_iff.mp ⟨result, attaches⟩)
    have changes := gather_attachErrorView_perm lasting attaches isReached
    rw [unguarded] at changes
    exact ((List.perm_append_right_iff _).mp changes).trans same
  exact Boundary.attachBoundaries_induction step (List.Perm.refl _) gives

/-- The error views that are named in a warning are those that no node has. -/
theorem unattached_perm {rootPrefix : String} {listed : List ListedFile}
    (distinct : listed.Nodup) {kept ignored : List Boundary}
    (parts : (listed.map (Boundary.ofFile rootPrefix)).Perm (kept ++ ignored))
    (errors : (tree.gather RouteNode.error).Perm
      (kept.map fun boundary => .file boundary.file)) :
    ((ignored.map Boundary.warning).filterMap Event.overruled?).Perm
      ((listed.filter fun file =>
        ∀ node ∈ tree.nodes,
          node.error ≠ some (.file file)).map ListedFile.id) := by
  have files :
      listed.Perm (kept.map Boundary.file ++ ignored.map Boundary.file) := by
    have sameFiles := parts.map Boundary.file
    rwa [List.map_map, List.map_append,
      show Boundary.file ∘ Boundary.ofFile rootPrefix = id
      from rfl, List.map_id] at sameFiles
  have apart := files.nodup_iff.mp distinct
  rw [List.nodup_append] at apart
  have named : (ignored.map Boundary.warning).filterMap Event.overruled? =
      (ignored.map Boundary.file).map ListedFile.id := by
    rw [List.filterMap_map, List.map_map, ← List.filterMap_eq_map]
    apply List.filterMap_congr
    intro boundary member
    have listed := parts.mem_iff.mpr (List.mem_append_right kept member)
    obtain ⟨file, _, rfl⟩ := List.mem_map.mp listed
    have sameId : (Boundary.ofFile rootPrefix file).parsed.id = file.id := by
      simp only [Boundary.ofFile, ParsedFile.parse]
    exact congrArg some sameId
  rw [named]
  apply List.Perm.map
  rw [List.perm_ext_iff_of_nodup apart.2.1 (distinct.filter _)]
  intro file
  have attached : (∃ node ∈ tree.nodes, node.error = some (.file file)) ↔
      file ∈ kept.map Boundary.file := by
    rw [← mem_gather, errors.mem_iff, List.mem_map, List.mem_map]
    simp only [View.file.injEq]
  rw [List.mem_filter, decide_eq_true_iff, files.mem_iff, List.mem_append]
  constructor
  · intro isIgnored
    refine ⟨.inr isIgnored, fun node member shows => ?_⟩
    exact apart.2.2 file (attached.mp ⟨node, member, shows⟩) file isIgnored rfl
  · rintro ⟨isKept | isIgnored, unattached⟩
    · obtain ⟨node, member, shows⟩ := attached.mpr isKept
      exact absurd shows (unattached node member)
    · exact isIgnored

/-- A compilation that succeeds: the tree that is completed, the error views
that are attached to it and those that are not, and what is recorded in each
part. -/
structure Compilation (config : CompilerConfig) (files : RouteFiles)
    (tree guarded : RouteNode) (kept ignored : List Boundary) : Prop where
  attaching : (attachBoundaries [] (grown (files.contributions config))
    (files.boundaries config)).Gives guarded
  tree_eq : tree = guarded.addNotFound (files.notFoundViews config)
  boundaries :
    (files.errorFiles.map (Boundary.ofFile config.routing.rootPrefix)).Perm
      (kept ++ ignored)
  errors : (guarded.gather RouteNode.error).Perm
    (kept.map fun boundary => .file boundary.file)
  log_eq : (compile config files).log =
    (ViewIndex.build ParsedFile.folderKey config.routing.rootPrefix
        files.loadingFiles).1 ++
      ((ViewIndex.build ParsedFile.routeKey config.routing.rootPrefix
          files.notFoundFiles).1 ++
        ((addPages config.permissive (files.loadingIndex config) .root
            files.pageFiles).log ++
          (ignored.map Boundary.warning ++
            [.compiled files.size tree.countNodes])))

/-- A compilation that succeeds has gone through all its phases. -/
theorem exists_compilation (gives : (compile config files).Gives tree) :
    ∃ guarded kept ignored,
      Compilation config files tree guarded kept ignored := by
  have isCompile : compile config files =
      (recordAll (ViewIndex.byFolder config.routing.rootPrefix
          files.loadingFiles).1 >>=
        fun _ => recordAll (ViewIndex.byRoute config.routing.rootPrefix
          files.notFoundFiles).1 >>=
        fun _ => addPages config (files.loadingIndex config) .root
          files.pageFiles >>=
        fun merged => attachBoundaries [] merged (files.boundaries config) >>=
        fun guarded => record (.compiled files.size
          (guarded.addNotFound (files.notFoundViews config)).countNodes) >>=
        fun _ => pure (guarded.addNotFound (files.notFoundViews config))) := rfl
  rw [isCompile] at gives
  obtain ⟨_, _, notFoundGives⟩ := gives_bind_iff.mp gives
  obtain ⟨_, _, pagesGives⟩ := gives_bind_iff.mp notFoundGives
  obtain ⟨merged, merging, restGives⟩ := gives_bind_iff.mp pagesGives
  obtain ⟨guarded, attaching, lastGives⟩ := gives_bind_iff.mp restGives
  have samePages :=
    addPages_eq_permissive config (files.loadingIndex config) merging
  have isGrown : merged = grown (files.contributions config) := by
    rw [samePages] at merging
    exact merging.unique
      (gives_addPages config (files.loadingIndex config) files.pageFiles)
  subst isGrown
  have isTree : guarded.addNotFound (files.notFoundViews config) = tree :=
    gives_pure_iff.mp (gives_bind_iff.mp lastGives).choose_spec.2
  subst isTree
  have taken :=
    fun boundary => @exists_file_of_mem_boundaries config files boundary
  obtain ⟨kept, ignored, isSplit, warnings, errors⟩ :=
    Boundary.exists_kept_ignored taken (open_grown _ _) attaching
  rw [errors_grown, List.nil_append] at errors
  refine ⟨guarded, kept, ignored, attaching, rfl, ?_, errors, ?_⟩
  · exact (List.mergeSort_perm _ _).symm.trans isSplit
  · rw [isCompile, (gives_recordAll _).log_bind, (gives_recordAll _).log_bind,
      merging.log_bind, attaching.log_bind, (gives_record _).log_bind,
      samePages, warnings]
    rfl

namespace Compilation

variable {guarded : RouteNode} {kept ignored : List Boundary}

/-- Only merging rejects pages and layouts. -/
theorem rejected_eq
    (compilation : Compilation config files tree guarded kept ignored) :
    (compile config files).log.filterMap Event.rejected? =
      (addPages config.permissive (files.loadingIndex config) .root
        files.pageFiles).log.filterMap Event.rejected? := by
  have quiet := @filterMap_log_build Event.rejected? fun _ _ _ => rfl
  have noWarning :=
    @Boundary.filterMap_warnings Event.rejected? (fun _ _ => rfl) ignored
  rw [compilation.log_eq, List.filterMap_append, List.filterMap_append,
    List.filterMap_append, List.filterMap_append, quiet, quiet, noWarning]
  exact List.append_nil _

/-- Only the indexes rank views. -/
theorem outranked_eq
    (compilation : Compilation config files tree guarded kept ignored) :
    (compile config files).log.filterMap Event.outranked? =
      (ViewIndex.build ParsedFile.folderKey config.routing.rootPrefix
          files.loadingFiles).1.filterMap Event.outranked? ++
        (ViewIndex.build ParsedFile.routeKey config.routing.rootPrefix
          files.notFoundFiles).1.filterMap Event.outranked? := by
  have noWarning :=
    @Boundary.filterMap_warnings Event.outranked? (fun _ _ => rfl) ignored
  have noPage :=
    @filterMap_log_addPages config (files.loadingIndex config) Event.outranked?
      (fun _ => rfl) (fun _ => rfl) (fun _ _ _ => rfl) files.pageFiles
  rw [compilation.log_eq, List.filterMap_append, List.filterMap_append,
    List.filterMap_append, List.filterMap_append, noPage, noWarning]
  exact congrArg _ (List.append_nil _)

/-- Only the attachment of error views passes over some. -/
theorem overruled_eq
    (compilation : Compilation config files tree guarded kept ignored) :
    (compile config files).log.filterMap Event.overruled? =
      (ignored.map Boundary.warning).filterMap Event.overruled? := by
  have quiet := @filterMap_log_build Event.overruled? fun _ _ _ => rfl
  have noPage :=
    @filterMap_log_addPages config (files.loadingIndex config) Event.overruled?
      (fun _ => rfl) (fun _ => rfl) (fun _ _ _ => rfl) files.pageFiles
  rw [compilation.log_eq, List.filterMap_append, List.filterMap_append,
    List.filterMap_append, List.filterMap_append, quiet, quiet, noPage]
  exact List.append_nil _

/-- The nodes of the tree have the error views that are attached. -/
theorem errors_tree
    (compilation : Compilation config files tree guarded kept ignored) :
    (tree.gather RouteNode.error).Perm
      (kept.map fun boundary => .file boundary.file) := by
  rw [compilation.tree_eq, gather_addNotFound lasting_error]
  exact compilation.errors

/-- What merging put into the tree is read off its nodes. -/
theorem gather_tree_perm {β : Type} {read : RouteNode -> Option β}
    (lasting : Lasting read)
    (unguarded : ∀ node view, read { node with error := view } = read node)
    (compilation : Compilation config files tree guarded kept ignored) :
    (tree.gather read).Perm
      ((grown (files.contributions config)).gather read) := by
  rw [compilation.tree_eq, gather_addNotFound lasting]
  exact gather_attachBoundaries_perm lasting unguarded compilation.attaching

/-- The nodes of the tree render what merging put there. -/
theorem sources_tree
    (compilation : Compilation config files tree guarded kept ignored) :
    (tree.gather source?).Perm
      ((grown (files.contributions config)).gather source?) :=
  gather_tree_perm lasting_source (fun _ _ => rfl) compilation

end Compilation

/-- Each listed file is in use or named in a warning.  The pages and layouts
that no warning rejects are the sources of the nodes; of the loading and the
not-found views those are ignored that are not the foremost one of their folder
or route, and the number of keys is left of them; and the error views that are
ignored are those that no node has. -/
theorem no_file_dropped (gives : (compile config files).Gives tree) :
    ((compile config files).log.filterMap Event.rejected? ++
        tree.nodes.filterMap fun node => node.spec?.map RenderSpec.source).Perm
      (files.pages.filter fun id =>
        (ParsedFile.parse config.routing.rootPrefix id).isRenderable) ∧
    ((compile config files).log.filterMap Event.outranked?).Perm
      ((ViewIndex.outranked ParsedFile.folderKey config.routing.rootPrefix
          files.loadingFiles ++
        ViewIndex.outranked ParsedFile.routeKey config.routing.rootPrefix
          files.notFoundFiles).map ListedFile.id) ∧
    ((compile config files).log.filterMap Event.outranked?).length +
        ((files.loading.map fun id =>
          (ParsedFile.parse config.routing.rootPrefix id).folderKey).dedup.length +
        (files.notFound.map fun id =>
          (ParsedFile.parse config.routing.rootPrefix id).routeKey).dedup.length) =
      files.loading.length + files.notFound.length ∧
    ((compile config files).log.filterMap Event.overruled?).Perm
      ((files.errorFiles.filter fun file =>
        ∀ node ∈ tree.nodes,
          node.error ≠ some (.file file)).map ListedFile.id) := by
  obtain ⟨guarded, kept, ignored, compilation⟩ := exists_compilation gives
  refine ⟨?_, ?_, ?_, ?_⟩
  · have placed :=
      addPages_perm config (files.loadingIndex config) files.pageFiles
    have sources :
        (tree.nodes.filterMap fun node => node.spec?.map RenderSpec.source).Perm
          ((grown (files.contributions config)).gather source?) :=
            compilation.sources_tree
    rw [compilation.rejected_eq, ListedFile.filter_eq .pages]
    exact (sources.append_left _).trans placed
  · rw [compilation.outranked_eq, List.map_append]
    exact (ViewIndex.outranked_perm _ _ _ (ListedFile.nodup_ofList _ _)).append
      (ViewIndex.outranked_perm _ _ _ (ListedFile.nodup_ofList _ _))
  · have loading :=
      ViewIndex.length_outranked ParsedFile.folderKey config.routing.rootPrefix
        files.loadingFiles
    have notFound :=
      ViewIndex.length_outranked ParsedFile.routeKey config.routing.rootPrefix
        files.notFoundFiles
    have loadingLength : files.loadingFiles.length = files.loading.length :=
      ListedFile.length_ofList _ _
    have notFoundLength : files.notFoundFiles.length = files.notFound.length :=
      ListedFile.length_ofList _ _
    rw [compilation.outranked_eq, List.length_append,
      ListedFile.map_eq .loading, ListedFile.map_eq .notFound, ← loadingFiles,
      ← notFoundFiles]
    omega
  · rw [compilation.overruled_eq]
    exact unattached_perm (ListedFile.nodup_ofList _ _) compilation.boundaries
      compilation.errors_tree

/-- A site in which files lose a page, a loading view, a not-found view and an
error view. -/
def bazaar : RouteFiles where
  pages := ["app/page.rs", "app/(old)/page.rs", "app/layout.rs"]
  errors := ["app/error.rs", "app/(old)/error.rs"]
  notFound := ["app/(old)/not-found.rs", "app/404.rs"]
  loading := ["app/loading.rs", "app/loading.tsx"]

theorem no_file_dropped_bazaar :
    ∃ tree, (compile {} bazaar).Gives tree ∧
      ((compile {} bazaar).log.filterMap Event.rejected? ++
        tree.nodes.filterMap fun node =>
          node.spec?.map RenderSpec.source).Perm bazaar.pages ∧
      ((compile {} bazaar).log.filterMap Event.outranked?).Perm
        ["app/loading.tsx", "app/(old)/not-found.rs"] ∧
      ((compile {} bazaar).log.filterMap Event.outranked?).length + 2 = 4 ∧
      ((compile {} bazaar).log.filterMap Event.overruled?).Perm
        ["app/(old)/error.rs"] := by
  have compiles : (compile {} bazaar).outcome.toOption.any (fun tree =>
      (bazaar.errorFiles.filter fun file =>
        ∀ node ∈ tree.nodes,
          node.error ≠ some (.file file)).map ListedFile.id ==
          ["app/(old)/error.rs"]) = true := by
    have sorted :
        boundaries {} bazaar = bazaar.errorFiles.map (Boundary.ofFile "app") :=
      List.mergeSort_of_pairwise (by decide +kernel)
    rw [outcome_compile, sorted]
    decide +kernel
  have pages :
      (bazaar.pages.filter fun id => (ParsedFile.parse "app" id).isRenderable) =
        bazaar.pages := by decide +kernel
  have views :
      (ViewIndex.outranked ParsedFile.folderKey "app" bazaar.loadingFiles ++
        ViewIndex.outranked ParsedFile.routeKey "app" bazaar.notFoundFiles).map
        ListedFile.id =
          ["app/loading.tsx", "app/(old)/not-found.rs"] := by decide +kernel
  have keys :
      (bazaar.loading.map fun id =>
        (ParsedFile.parse "app" id).folderKey).dedup.length +
        (bazaar.notFound.map fun id =>
          (ParsedFile.parse "app" id).routeKey).dedup.length = 2 := by
    decide +kernel
  obtain ⟨tree, gives, unattached⟩ := exists_gives_of_any compiles
  obtain ⟨sources, ranked, count, errors⟩ := no_file_dropped gives
  refine ⟨tree, gives, sources.trans (.of_eq pages),
    ranked.trans (.of_eq views), ?_,
    errors.trans (.of_eq (beq_iff_eq.mp unattached))⟩
  dsimp only at count
  rw [keys] at count
  exact count

end RouteFiles
end FileRoutes
