import FileRoutes.Proofs.SortedOutline
import FileRoutes.Proofs.Verdict

/-!
# The order of discovery

Files are listed in the order in which they are discovered.  When no two pages
and no two layouts have the same route, that order decides nothing but the order
of siblings: a compilation succeeds for all listings of the files or for none,
and its sorted outline is the same.
-/

namespace FileRoutes

/-! ## Trees that grow from the same files -/

namespace Contribution

open RouteNode RouteContent

/-- The data of a contribution that an outline has room for: the route, the
role, the source and the label of the loading view. -/
structure Shown where
  tokens : List String
  role : Option RouteRole
  source : String
  loading : String

/-- A contribution with its loading view replaced by the label of that view,
and the other data that an outline does not show left out. -/
def shown (file : Contribution) : Shown :=
  ⟨file.tokens, file.role, file.spec.source, file.spec.loading.label⟩

/-- Two lists show the same contributions. -/
def SameShown (files others : List Contribution) : Prop :=
  ∀ shown, shown ∈ files.map Contribution.shown ↔
    shown ∈ others.map Contribution.shown

variable {files others : List Contribution}

theorem SameShown.symm (same : SameShown files others) :
    SameShown others files :=
  fun shown => (same shown).symm

/-- A contribution of one list is shown by one of the other list too. -/
theorem SameShown.exists_mem (same : SameShown files others)
    {file : Contribution} (member : file ∈ files) :
    ∃ other ∈ others, other.shown = file.shown :=
  List.mem_map.mp ((same file.shown).mp (List.mem_map_of_mem member))

theorem SameShown.covers_of (same : SameShown files others)
    {route : List String} (covers : Covers files route) :
    Covers others route := by
  rcases covers with empty | ⟨file, member, begins⟩
  · exact Or.inl empty
  · obtain ⟨other, otherMember, sameShown⟩ := same.exists_mem member
    have sameTokens : other.tokens = file.tokens :=
      congrArg Shown.tokens sameShown
    exact Or.inr ⟨other, otherMember, sameTokens ▸ begins⟩

/-- Where claims are not contended, there is one file for each. -/
theorem eq_of_not_contended (uncontended : ¬Contended files) {role : RouteRole}
    {first second : Contribution} (firstMember : first ∈ files)
    (secondMember : second ∈ files) (firstRole : first.role = some role)
    (secondRole : second.role = some role)
    (sameTokens : first.tokens = second.tokens) :
    first = second := by
  have distinct :
      ((files.filter fun file => file.role = some role).map tokens).Nodup := by
    by_contra repeated
    exact uncontended ⟨role, repeated⟩
  refine List.inj_on_of_nodup_map distinct ?_ ?_ sameTokens
  · simpa using ⟨firstMember, firstRole⟩
  · simpa using ⟨secondMember, secondRole⟩

theorem outline_ofRole (role : RouteRole) (spec : RenderSpec) :
    (indexOf (ofRole role spec)).outline =
      { index := true
        content := some (ofRole role spec).kind
        source := some spec.source
        loading := some spec.loading.label } := by
  cases role <;> rfl

/-- What is not claimed in one list is not claimed in the other. -/
theorem findSome_claim_eq_none_of (same : SameShown files others)
    {role : RouteRole} {route : List String}
    (missing : files.findSome? (claim? role route) = none) :
    others.findSome? (claim? role route) = none := by
  rw [← Option.not_isSome_iff_eq_none, findSome_claim_isSome_iff] at missing ⊢
  rintro ⟨other, otherMember, isRole, isRoute⟩
  obtain ⟨file, member, sameShown⟩ := same.symm.exists_mem otherMember
  exact missing ⟨file, member, (congrArg Shown.role sameShown).trans isRole,
    (congrArg Shown.tokens sameShown).trans isRoute⟩

/-- A claim shows the same in every listing. -/
theorem outline_claim_eq (same : SameShown files others)
    (uncontended : ¬Contended files) (role : RouteRole) (route : List String) :
    (files.findSome? (claim? role route)).map
      (fun content => (indexOf content).outline) =
      (others.findSome? (claim? role route)).map
        fun content => (indexOf content).outline := by
  cases found : files.findSome? (claim? role route) with
  | none => rw [findSome_claim_eq_none_of same found]
  | some content =>
    cases otherFound : others.findSome? (claim? role route) with
    | none =>
      rw [findSome_claim_eq_none_of same.symm otherFound] at found
      cases found
    | some otherContent =>
      obtain ⟨file, member, claimed⟩ := List.exists_of_findSome?_eq_some found
      obtain ⟨other, otherMember, otherClaimed⟩ :=
        List.exists_of_findSome?_eq_some otherFound
      obtain ⟨⟨isRole, isRoute⟩, isContent⟩ := claim_eq_some_iff.mp claimed
      obtain ⟨⟨otherRole, otherRoute⟩, otherIsContent⟩ :=
        claim_eq_some_iff.mp otherClaimed
      obtain ⟨twin, twinMember, sameShown⟩ := same.symm.exists_mem otherMember
      have twinRole := (congrArg Shown.role sameShown).trans otherRole
      have twinRoute := (congrArg Shown.tokens sameShown).trans otherRoute
      have equal : file = twin :=
        eq_of_not_contended uncontended member twinMember isRole
          twinRole (isRoute.trans twinRoute.symm)
      have sameSource : file.spec.source = other.spec.source :=
        equal ▸ congrArg Shown.source sameShown
      have sameLoading : file.spec.loading.label = other.spec.loading.label :=
        equal ▸ congrArg Shown.loading sameShown
      rw [← isContent, ← otherIsContent, Option.map_some, Option.map_some,
        outline_ofRole, outline_ofRole, sameSource, sameLoading]
      cases role <;> rfl

/-- Uncontended lists that show the same give the nodes of a route one face. -/
theorem face_eq_of_sameShown (same : SameShown files others)
    (uncontended : ¬Contended files) {route : List String}
    {node otherNode : RouteNode} (describes : Describes files route node)
    (otherDescribes : Describes others route otherNode) :
    node.face = otherNode.face := by
  apply Place.face_eq
  · exact describes.path_eq.trans otherDescribes.path_eq.symm
  · exact describes.dynamic_eq.trans otherDescribes.dynamic_eq.symm
  · exact describes.error_eq.trans otherDescribes.error_eq.symm
  · simp only [place, describes.content_eq, otherDescribes.content_eq]
    exact outline_claim_eq same uncontended .layout route
  · simp only [place, describes.slot_eq, otherDescribes.slot_eq]
    exact outline_claim_eq same uncontended .page route

/-- Trees that grow from the same uncontended files look alike. -/
theorem alike_grown (same : SameShown files others)
    (uncontended : ¬Contended files) :
    (grown files).Alike (grown others) := by
  intro route
  by_cases named : ∃ names : List String, route = names.map some
  · obtain ⟨names, isNames⟩ := named
    subst isNames
    rcases reach_grown files names with
      ⟨uncovered, missing⟩ | ⟨covered, node, found, describes⟩
    · rcases reach_grown others names with ⟨_, otherMissing⟩ | ⟨otherCovered, _⟩
      · rw [missing, otherMissing]
      · exact absurd (same.symm.covers_of otherCovered) uncovered
    · rcases reach_grown others names with
        ⟨otherUncovered, _⟩ | ⟨_, otherNode, otherFound, otherDescribes⟩
      · exact absurd (same.covers_of covered) otherUncovered
      · rw [found, otherFound]
        exact congrArg some
          (face_eq_of_sameShown same uncontended describes otherDescribes)
  · have missing (files : List Contribution) :
        (grown files).reach? route = none := by
      cases found : (grown files).reach? route with
      | none => rfl
      | some node => exact absurd (exists_names_of_reach_grown found) named
    rw [missing files, missing others]

end Contribution

/-! ## Compilations of the same files -/

/-- Two listings of the same files. -/
structure SameFiles (files others : RouteFiles) : Prop where
  pages : files.pages.Perm others.pages
  errors : files.errors.Perm others.errors
  notFound : files.notFound.Perm others.notFound
  loading : files.loading.Perm others.loading

namespace RouteFiles

open Logged RouteNode Contribution

variable {config : CompilerConfig} {files others : RouteFiles}

/-- Whether claims are distinct does not depend on the order of the list. -/
theorem distinctClaims_of_perm {rootPrefix : String}
    {ids otherIds : List String} (perm : ids.Perm otherIds)
    (distinct : DistinctClaims rootPrefix ids) :
    DistinctClaims rootPrefix otherIds := by
  intro role
  exact ((perm.filter _).map _).nodup (distinct role)

theorem rivalRoutes_iff_of_perm {rootPrefix : String}
    {ids otherIds : List String} (perm : ids.Perm otherIds) :
    RivalRoutes rootPrefix ids ↔ RivalRoutes rootPrefix otherIds := by
  simp only [RivalRoutes, perm.mem_iff]

/-- Whether error views fit the pages does not depend on the order of the
lists. -/
theorem boundariesFit_iff_of_sameFiles {rootPrefix : String}
    (same : SameFiles files others) :
    BoundariesFit rootPrefix files ↔ BoundariesFit rootPrefix others := by
  simp only [BoundariesFit, same.errors.mem_iff, same.pages.mem_iff]

/-- What the policies permit does not depend on the order of the lists. -/
theorem permitted_of_sameFiles (same : SameFiles files others)
    (distinct : DistinctClaims config.routing.rootPrefix files.pages)
    (permitted : Permitted config.conflicts (files.contributions config)) :
    Permitted config.conflicts (others.contributions config) := by
  rw [permitted_contributions_iff] at permitted ⊢
  refine ⟨fun _ => distinctClaims_of_perm same.pages distinct, ?_⟩
  rw [← rivalRoutes_iff_of_perm same.pages]
  exact permitted.2

/-- The same loading views are found for both listings. -/
theorem agree_loadingIndex (same : SameFiles files others)
    (spelledOnce : SpelledOnce files.loading) :
    (files.loadingIndex config).Agree (others.loadingIndex config) := by
  have fileIds := map_id_ofList .loading files.loading
  have otherIds := map_id_ofList .loading others.loading
  apply ViewIndex.agree_build
  · intro id
    rw [loadingFiles, loadingFiles, fileIds, otherIds]
    exact same.loading.mem_iff
  · apply ViewIndex.not_tied_of_spelledOnce
    rw [loadingFiles, fileIds]
    exact spelledOnce

/-- Not-found views do not depend on the order of files that are spelled
once. -/
theorem sameViews_notFoundViews (same : SameFiles files others)
    (spelledOnce : SpelledOnce files.notFound) :
    SameViews (files.notFoundViews config) (others.notFoundViews config) := by
  have fileIds := map_id_ofList .notFound files.notFound
  have otherIds := map_id_ofList .notFound others.notFound
  intro routeKey
  apply ViewIndex.Agree.label_nearest
  apply ViewIndex.agree_build
  · intro id
    rw [notFoundFiles, notFoundFiles, fileIds, otherIds]
    exact same.notFound.mem_iff
  · apply ViewIndex.not_tied_of_spelledOnce
    rw [notFoundFiles, fileIds]
    exact spelledOnce

/-- What a listed file shows depends on its identifier. -/
theorem shown_contribution (loading : ViewIndex) (file : ListedFile) :
    (file.contribution config loading).shown =
      ⟨(ParsedFile.parse config.routing.rootPrefix file.id).routeTokens,
        (ParsedFile.parse config.routing.rootPrefix file.id).role.bind
          FileRole.routeRole?,
        file.id,
        (loading.findLoading
          (ParsedFile.parse config.routing.rootPrefix file.id)).label⟩ := by
  rw [shown, ListedFile.contribution_tokens, ListedFile.contribution_role,
    ListedFile.contribution, ofFile, RenderSpec.source]

theorem map_shown_contributions (files : RouteFiles) :
    (files.contributions config).map shown =
      files.pages.map fun id =>
        ⟨(ParsedFile.parse config.routing.rootPrefix id).routeTokens,
          (ParsedFile.parse config.routing.rootPrefix id).role.bind
            FileRole.routeRole?, id,
          ((files.loadingIndex config).findLoading
            (ParsedFile.parse config.routing.rootPrefix id)).label⟩ := by
  rw [pages_eq, contributions, List.map_map, List.map_map]
  apply List.map_congr_left
  intro file _
  rw [Function.comp_apply, Function.comp_apply, shown_contribution]

/-- The same files contribute the same, in any order. -/
theorem sameShown_contributions (same : SameFiles files others)
    (spelledOnce : SpelledOnce files.loading) :
    SameShown (files.contributions config) (others.contributions config) := by
  have agree : (files.loadingIndex config).Agree (others.loadingIndex config) :=
    agree_loadingIndex same spelledOnce
  intro shown
  rw [map_shown_contributions, map_shown_contributions]
  simp only [agree.label_findLoading]
  exact (same.pages.map _).mem_iff

theorem id_parsed_of_mem_boundaries {boundary : Boundary}
    (member : boundary ∈ files.boundaries config) :
    boundary.file.id = boundary.parsed.id := by
  obtain ⟨file, _, isBoundary⟩ := (mem_boundaries_iff config files).mp member
  rw [isBoundary, Boundary.ofFile]
  simp only [ParsedFile.parse]

/-- Error views are attached in one order, whatever the order of the files. -/
theorem map_parsed_boundaries (same : SameFiles files others)
    (spelledOnce : SpelledOnce files.errors) :
    (files.boundaries config).map Boundary.parsed =
      (others.boundaries config).map Boundary.parsed := by
  have fileIds := map_id_ofList .errors files.errors
  have otherIds := map_id_ofList .errors others.errors
  apply Boundary.map_parsed_mergeSort_perm
  · rw [errorFiles, errorFiles, fileIds, otherIds]
    exact same.errors
  · rw [errorFiles, fileIds]
    exact spelledOnce

/-- Permitted files have the same outcome in both listings. -/
theorem alike_outcome_compile (same : SameFiles files others)
    (distinct : DistinctClaims config.routing.rootPrefix files.pages)
    (errorsOnce : SpelledOnce files.errors)
    (notFoundOnce : SpelledOnce files.notFound)
    (loadingOnce : SpelledOnce files.loading)
    (permitted : Permitted config.conflicts (files.contributions config)) :
    AlikeOutcomes (compile config files).outcome
      (compile config others).outcome := by
  have uncontended : ¬Contended (files.contributions config) := by
    rw [contended_contributions_iff, not_not]
    exact distinct
  have otherPermitted := permitted_of_sameFiles same distinct permitted
  have grownAlike :=
    alike_grown (sameShown_contributions same loadingOnce) uncontended
  have sameParsed : (files.boundaries config).map Boundary.parsed =
      (others.boundaries config).map Boundary.parsed :=
    map_parsed_boundaries same errorsOnce
  have guarding :=
    Boundary.alike_attachBoundaries grownAlike (grown_tidy _) (grown_tidy _) []
      sameParsed (fun _ => id_parsed_of_mem_boundaries)
      (fun _ => id_parsed_of_mem_boundaries)
  rw [outcome_compile_of_permitted config files permitted,
    outcome_compile_of_permitted config others otherPermitted]
  rcases guarding with ⟨error, fails, otherFails⟩ |
    ⟨tree, other, gives, otherGives, tidy, otherTidy, alike⟩
  · rw [fails, otherFails]
    exact Or.inl ⟨error, rfl, rfl⟩
  · rw [gives, otherGives]
    exact Or.inr ⟨_, _, rfl, rfl, tidy.addNotFound _, otherTidy.addNotFound _,
      alike.addNotFound tidy otherTidy
        (sameViews_notFoundViews same notFoundOnce)⟩

/-- The order of discovery does not matter: when no two pages and no two layouts
have the same route and no identifier is spelled in two ways, all listings of
the files compile or none does, and their sorted outlines are equal.  Where
rivals are not forbidden, all of them fail with the same error. -/
theorem compile_eq_of_sameFiles (config : CompilerConfig)
    {files others : RouteFiles} (same : SameFiles files others)
    (distinct : DistinctClaims config.routing.rootPrefix files.pages)
    (errorsOnce : SpelledOnce files.errors)
    (notFoundOnce : SpelledOnce files.notFound)
    (loadingOnce : SpelledOnce files.loading) :
    ((∃ tree, (compile config files).Gives tree) ↔
        ∃ tree, (compile config others).Gives tree) ∧
      (∀ tree other, (compile config files).Gives tree ->
        (compile config others).Gives other ->
          tree.outline.sorted = other.outline.sorted) ∧
      (config.conflicts.dynamicSegments = .firstWins ->
        ∀ error, (compile config files).outcome = .error error ->
          (compile config others).outcome = .error error) := by
  refine ⟨?_, ?_, ?_⟩
  · rw [gives_compile_iff, gives_compile_iff, permitted_contributions_iff,
      permitted_contributions_iff, boundariesFit_iff_of_sameFiles same,
      rivalRoutes_iff_of_perm same.pages]
    have otherDistinct := distinctClaims_of_perm same.pages distinct
    simp only [distinct, otherDistinct]
  · intro tree other gives otherGives
    have permitted := ((gives_compile_iff config files).mp ⟨tree, gives⟩).1
    rcases alike_outcome_compile same distinct errorsOnce notFoundOnce
      loadingOnce permitted
      with ⟨error, fails, _⟩ | ⟨left, right, isLeft, isRight, leftTidy,
        rightTidy, alike⟩
    · rw [gives] at fails
      cases fails
    · rw [gives] at isLeft
      rw [otherGives] at isRight
      cases isLeft
      cases isRight
      exact alike.same_sketch leftTidy rightTidy
  · intro firstWins error fails
    have permitted :
        Permitted config.conflicts (files.contributions config) := by
      rw [permitted_contributions_iff, firstWins]
      exact ⟨fun _ => distinct, fun isError => by cases isError⟩
    rcases alike_outcome_compile same distinct errorsOnce notFoundOnce
      loadingOnce permitted
      with ⟨reason, isReason, otherFails⟩ | ⟨_, _, gives, _⟩
    · rw [fails] at isReason
      cases isReason
      exact otherFails
    · rw [fails] at gives
      cases gives

/-- A small site with a group, a dynamic segment and views of every kind. -/
def shop : RouteFiles where
  pages :=
    ["app/layout.rs", "app/page.rs", "app/(shop)/cart/page.rs",
      "app/blog/[slug]/page.rs"]
  errors := ["app/error.rs", "app/blog/error.rs"]
  notFound := ["app/not-found.rs", "app/blog/not-found.rs"]
  loading := ["app/loading.rs", "app/(shop)/loading.rs"]

/-- The same files listed from the last to the first. -/
def reversed (files : RouteFiles) : RouteFiles where
  pages := files.pages.reverse
  errors := files.errors.reverse
  notFound := files.notFound.reverse
  loading := files.loading.reverse

theorem sameFiles_reversed (files : RouteFiles) :
    SameFiles files files.reversed :=
  ⟨(List.reverse_perm _).symm, (List.reverse_perm _).symm,
    (List.reverse_perm _).symm, (List.reverse_perm _).symm⟩

theorem compile_eq_of_sameFiles_shop :
    ∃ tree other, (compile {} shop).Gives tree ∧
      (compile {} shop.reversed).Gives other ∧
      tree.outline.sorted = other.outline.sorted := by
  have distinct : DistinctClaims "app" shop.pages := by
    intro role
    cases role <;> decide +kernel
  have errorsOnce : SpelledOnce shop.errors := by
    unfold SpelledOnce
    decide +kernel
  have notFoundOnce : SpelledOnce shop.notFound := by
    unfold SpelledOnce
    decide +kernel
  have loadingOnce : SpelledOnce shop.loading := by
    unfold SpelledOnce
    decide +kernel
  have permitted :
      Permitted MergeOptions.permissive (shop.contributions {}) := by
    constructor <;> intro isError <;> cases isError
  have fit : BoundariesFit "app" shop := by
    unfold BoundariesFit
    decide +kernel
  obtain ⟨tree, gives⟩ := (gives_compile_iff {} shop).mpr ⟨permitted, fit⟩
  have order :=
    compile_eq_of_sameFiles {} (sameFiles_reversed shop) distinct errorsOnce
      notFoundOnce loadingOnce
  obtain ⟨other, otherGives⟩ := order.1.mp ⟨tree, gives⟩
  exact ⟨tree, other, gives, otherGives, order.2.1 tree other gives otherGives⟩

end RouteFiles
end FileRoutes
