import FileRoutes.Proofs.Guarding
import FileRoutes.Proofs.Pages

/-!
# The verdict of the compiler

A compilation fails when the policies forbid a conflict between the files, or
when an error view has a route that no page or layout leads to.  It succeeds
otherwise, in whatever order the files are listed.
-/

namespace FileRoutes

/-- Among some files, no two pages and no two layouts have the same route. -/
def DistinctClaims (rootPrefix : String) (ids : List String) : Prop :=
  ∀ role : RouteRole,
    ((ids.filter fun id =>
      (ParsedFile.parse rootPrefix id).role.bind FileRole.routeRole? =
        some role).map
        fun id => (ParsedFile.parse rootPrefix id).routeTokens).Nodup

/-- Among some files, there are two whose routes part at different dynamic
segments that match the same pieces. -/
def RivalRoutes (rootPrefix : String) (ids : List String) : Prop :=
  ∃ left ∈ ids, ∃ right ∈ ids, ∃ route first second,
    route ++ [first] <+: (ParsedFile.parse rootPrefix left).routeTokens ∧
      route ++ [second] <+: (ParsedFile.parse rootPrefix right).routeTokens ∧
      Rivals first second

namespace RouteFiles

open Logged RouteNode Contribution

/-- The route of every error view is the beginning of the route of a listed
page, layout or plain chain. -/
def BoundariesFit (rootPrefix : String) (files : RouteFiles) : Prop :=
  ∀ id ∈ files.errors, (ParsedFile.parse rootPrefix id).routeTokens = [] ∨
    ∃ page ∈ files.pages, (ParsedFile.parse rootPrefix id).routeTokens <+:
      (ParsedFile.parse rootPrefix page).routeTokens

/-- The loading views of a compilation. -/
def loadingIndex (config : CompilerConfig) (files : RouteFiles) : ViewIndex :=
  (ViewIndex.byFolder config.routing.rootPrefix files.loadingFiles).2

/-- The not-found views of a compilation. -/
def notFoundViews (config : CompilerConfig) (files : RouteFiles) :
    NotFoundViews :=
  ⟨(ViewIndex.byRoute config.routing.rootPrefix files.notFoundFiles).2⟩

/-- The error views of a compilation, in the order of their attachment. -/
def boundaries (config : CompilerConfig) (files : RouteFiles) : List Boundary :=
  (files.errorFiles.map (Boundary.ofFile config.routing.rootPrefix)).mergeSort
    Boundary.inOrder

/-- What the pages and layouts of a compilation contribute. -/
def contributions (config : CompilerConfig) (files : RouteFiles) :
    List Contribution :=
  files.pageFiles.map
    (ListedFile.contribution config (files.loadingIndex config))

variable (config : CompilerConfig) (files : RouteFiles)

/-- A compilation merges, attaches and completes. -/
theorem outcome_compile :
    (compile config files).outcome =
      ((addPages config (files.loadingIndex config) .root files.pageFiles) >>=
        fun merged =>
          attachBoundaries [] merged (files.boundaries config)).outcome.map
          (addNotFound (files.notFoundViews config)) := by
  rw [compile, (gives_recordAll _).outcome_bind,
    (gives_recordAll _).outcome_bind, loadingIndex, boundaries, notFoundViews]
  generalize addPages config _ RouteNode.root files.pageFiles = pages
  cases merging : pages.outcome with
  | error error =>
    rw [bind_of_error _ merging, bind_of_error _ merging]
    rfl
  | ok merged =>
    rw [Gives.outcome_bind merging, Gives.outcome_bind merging]
    dsimp only
    generalize attachBoundaries [] merged _ = attachments
    cases attaching : attachments.outcome with
    | error error =>
      rw [bind_of_error _ attaching]
      rfl
    | ok guarded =>
      rw [Gives.outcome_bind attaching]
      rfl

/-! ## The conditions on the identifiers -/

theorem map_id_ofList (list : FileList) (ids : List String) :
    (ListedFile.ofList list ids).map ListedFile.id = ids := by
  rw [ListedFile.ofList, List.map_map]
  exact List.zipIdx_map_fst 0 ids

theorem pages_eq : files.pages = files.pageFiles.map ListedFile.id :=
  (map_id_ofList .pages files.pages).symm

/-- Contributions contend for a place exactly if two identifiers claim the same
one. -/
theorem contended_contributions_iff :
    Contended (files.contributions config) ↔
      ¬DistinctClaims config.routing.rootPrefix files.pages := by
  rw [DistinctClaims, not_forall, Contended, pages_eq]
  apply exists_congr
  intro role
  rw [contributions, List.filter_map, List.filter_map, List.map_map,
    List.map_map]
  have sameFilter : files.pageFiles.filter
        ((fun file : Contribution => decide (file.role = some role)) ∘
          ListedFile.contribution config (files.loadingIndex config)) =
      files.pageFiles.filter
        ((fun id => decide
            ((ParsedFile.parse config.routing.rootPrefix id).role.bind
              FileRole.routeRole? = some role)) ∘ ListedFile.id) := by
    apply List.filter_congr
    intro file _
    rw [Function.comp_apply, Function.comp_apply, decide_eq_decide,
      ListedFile.contribution_role]
  have sameTokens :
      tokens ∘ ListedFile.contribution config (files.loadingIndex config) =
        (fun id => (ParsedFile.parse config.routing.rootPrefix id).routeTokens) ∘
          ListedFile.id := by
    funext file
    rw [Function.comp_apply, Function.comp_apply,
      ListedFile.contribution_tokens]
  rw [sameFilter, sameTokens]

/-- Contributions dispute a place exactly if the identifiers have rival
routes. -/
theorem disputed_contributions_iff :
    Disputed (files.contributions config) ↔
      RivalRoutes config.routing.rootPrefix files.pages := by
  rw [RivalRoutes, pages_eq]
  simp only [Disputed, contributions, List.mem_map, exists_exists_and_eq_and,
    ListedFile.contribution_tokens]

/-- A route is covered exactly if it is the empty one or begins the route of a
listed page. -/
theorem covers_contributions_iff {route : List String} :
    Covers (files.contributions config) route ↔
      route = [] ∨ ∃ page ∈ files.pages,
      route <+:
        (ParsedFile.parse config.routing.rootPrefix page).routeTokens := by
  rw [pages_eq]
  simp only [Covers, contributions, List.mem_map, exists_exists_and_eq_and,
    ListedFile.contribution_tokens]

/-- Contributions are permitted exactly if the identifiers violate no policy
that is to fail. -/
theorem permitted_contributions_iff :
    Permitted config.conflicts (files.contributions config) ↔
      (config.conflicts.duplicates = .error ->
        DistinctClaims config.routing.rootPrefix files.pages) ∧
      (config.conflicts.dynamicSegments = .error ->
        ¬RivalRoutes config.routing.rootPrefix files.pages) := by
  rw [Permitted, contended_contributions_iff,
    disputed_contributions_iff, not_not]

/-- The error views of a compilation are those of its listed files. -/
theorem mem_boundaries_iff {boundary : Boundary} :
    boundary ∈ files.boundaries config ↔
      ∃ file ∈ files.errorFiles,
        boundary = .ofFile config.routing.rootPrefix file := by
  rw [boundaries, List.mem_mergeSort, List.mem_map]
  simp only [eq_comm]

theorem exists_file_of_mem_boundaries {boundary : Boundary}
    (member : boundary ∈ files.boundaries config) :
    ∃ file, boundary = .ofFile config.routing.rootPrefix file := by
  obtain ⟨file, _, isFile⟩ := (mem_boundaries_iff config files).mp member
  exact ⟨file, isFile⟩

/-- All error views fit the tree of the contributions exactly if the identifiers
do. -/
theorem fits_boundaries_iff :
    (∀ boundary ∈ files.boundaries config,
        boundary.Fits (grown (files.contributions config))) ↔
      BoundariesFit config.routing.rootPrefix files := by
  have errors_eq : files.errors = files.errorFiles.map ListedFile.id :=
    (map_id_ofList .errors files.errors).symm
  simp only [BoundariesFit, errors_eq, List.forall_mem_map,
    ← covers_contributions_iff, ← reach_grown_isSome_iff, mem_boundaries_iff,
    Boundary.Fits, forall_exists_index, and_imp, Boundary.ofFile]
  constructor
  · intro fit file member
    have fits := fit _ file member rfl
    exact fits
  · intro fit boundary file member equal
    rw [equal]
    exact fit file member

/-! ## The verdict -/

theorem gives_attachBoundaries_grown_iff :
    (∃ tree, (attachBoundaries [] (grown (files.contributions config))
        (files.boundaries config)).Gives tree) ↔
      BoundariesFit config.routing.rootPrefix files := by
  rw [← fits_boundaries_iff, Boundary.gives_attachBoundaries_iff]
  · exact fun _ => exists_file_of_mem_boundaries config files
  · intro boundary _ guarded
    cases guarded

/-- When the files are permitted, a compilation attaches the error views to the
trie of the routes, and completes it. -/
theorem outcome_compile_of_permitted
    (permitted : Permitted config.conflicts (files.contributions config)) :
    (compile config files).outcome =
      (attachBoundaries [] (grown (files.contributions config))
        (files.boundaries config)).outcome.map
          (addNotFound (files.notFoundViews config)) := by
  rw [outcome_compile]
  rcases outcome_addPages config (files.loadingIndex config) files.pageFiles with
    ⟨_, gives⟩ | ⟨conflict, justified, _⟩
  · rw [gives.outcome_bind]
    rfl
  · exact absurd permitted (not_permitted_of_justified justified)

/-- When the files are not permitted, a compilation fails with a conflict that
says why. -/
theorem outcome_compile_of_not_permitted
    (refused : ¬Permitted config.conflicts (files.contributions config)) :
    ∃ conflict : Conflict,
      conflict.Justified config.conflicts (files.contributions config) ∧
        (compile config files).outcome = .error (.conflict conflict) := by
  rcases outcome_addPages config (files.loadingIndex config) files.pageFiles with
    ⟨permitted, _⟩ | ⟨conflict, justified, fails⟩
  · exact absurd permitted refused
  · refine ⟨conflict, justified, ?_⟩
    rw [outcome_compile, bind_of_error _ fails]
    rfl

/-- A compilation succeeds exactly when the files are permitted and the error
views fit. -/
theorem gives_compile_iff :
    (∃ tree, (compile config files).Gives tree) ↔
      Permitted config.conflicts (files.contributions config) ∧
        BoundariesFit config.routing.rootPrefix files := by
  by_cases permitted : Permitted config.conflicts (files.contributions config)
  · rw [← gives_attachBoundaries_grown_iff]
    simp only [Gives, outcome_compile_of_permitted config files permitted,
      permitted, true_and]
    cases (attachBoundaries [] (grown (files.contributions config))
      (files.boundaries config)).outcome <;> simp [Except.map]
  · obtain ⟨conflict, _, fails⟩ :=
      outcome_compile_of_not_permitted config files permitted
    apply iff_of_false
    · rintro ⟨tree, gives⟩
      rw [Gives, fails] at gives
      cases gives
    · exact fun both => permitted both.1

/-- Compilation fails exactly on contradictory or forbidden files: on a second
page or layout for one route where duplicates are forbidden, on rivals where
those are forbidden, and on an error view whose route no listed file has.  The
error tells which it was. -/
theorem compile_verdict :
    ((∃ tree, (compile config files).Gives tree) ↔
      (config.conflicts.duplicates = .error ->
        DistinctClaims config.routing.rootPrefix files.pages) ∧
      (config.conflicts.dynamicSegments = .error ->
        ¬RivalRoutes config.routing.rootPrefix files.pages) ∧
      BoundariesFit config.routing.rootPrefix files) ∧
    ∀ error, (compile config files).outcome = .error error ->
      match error with
      | .conflict (.duplicateClaim _ _ _ _) =>
        config.conflicts.duplicates = .error ∧
          ¬DistinctClaims config.routing.rootPrefix files.pages
      | .conflict (.dynamicConflict _ _ _) =>
        config.conflicts.dynamicSegments = .error ∧
          RivalRoutes config.routing.rootPrefix files.pages
      | .missingChildren _ _ | .missingSegment _ _ =>
        ¬BoundariesFit config.routing.rootPrefix files
      | .pathMismatch _ _ | .load _ _ => False := by
  constructor
  · rw [gives_compile_iff, permitted_contributions_iff, and_assoc]
  · intro error failed
    by_cases permitted : Permitted config.conflicts (files.contributions config)
    · have unfit : ¬BoundariesFit config.routing.rootPrefix files := by
        intro fit
        obtain ⟨tree, gives⟩ :=
          (gives_compile_iff config files).mpr ⟨permitted, fit⟩
        rw [gives] at failed
        cases failed
      rw [outcome_compile_of_permitted config files permitted] at failed
      cases attaching : (attachBoundaries [] (grown (files.contributions config))
          (files.boundaries config)).outcome with
      | ok guarded =>
        rw [attaching] at failed
        cases failed
      | error reason =>
        rw [attaching] at failed
        cases failed
        obtain ⟨parent, segment, equal⟩ :=
          Boundary.attachBoundaries_error attaching
        subst equal
        rcases missing_eq_or parent segment with equal | equal
        · rw [equal]
          exact unfit
        · rw [equal]
          exact unfit
    · obtain ⟨conflict, justified, fails⟩ :=
        outcome_compile_of_not_permitted config files permitted
      rw [fails] at failed
      cases failed
      cases conflict with
      | duplicateClaim path slot existing incoming =>
        exact ⟨justified.1,
          (contended_contributions_iff config files).mp justified.2⟩
      | dynamicConflict parent existing incoming =>
        exact ⟨justified.1,
          (disputed_contributions_iff config files).mp justified.2⟩

end RouteFiles
end FileRoutes
