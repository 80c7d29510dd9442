import FileRoutes.Proofs.ErrorViews

/-!
# Error views without a node

A compilation fails when nothing leads to the route of an error view.  Of
several such error views it reports the foremost one, by the length of the route
and then by rank, and it names the first folder on the way that is missing.
-/

namespace FileRoutes

/-- Whether a route is the beginning of the route of a page, layout or plain
chain. -/
def Leads (rootPrefix : String) (pages : List String) (route : List String) :
    Prop :=
  route = [] ∨ ∃ page ∈ pages, route <+:
    (ParsedFile.parse rootPrefix page).routeTokens

/-- Whether there is a page at a route or a folder below it. -/
def Occupied (rootPrefix : String) (pages : List String) (route : List String) :
    Prop :=
  ∃ page ∈ pages,
    (ParsedFile.parse rootPrefix page).role.bind FileRole.routeRole? =
      some .page ∧
        (ParsedFile.parse rootPrefix page).routeTokens = route ∨
      ∃ next, route ++ [next] <+: (ParsedFile.parse rootPrefix page).routeTokens

/-- The error about a route that nothing leads to.  It names the first folder
that is missing and the one above it, and tells whether anything else is
there. -/
inductive Misses (rootPrefix : String) (pages : List String)
    (route : List String) :
    RouteError -> Prop
  | deserted {front : List String} {segment : String}
      (begins : front ++ [segment] <+: route)
      (leads : Leads rootPrefix pages front)
      (lost : ¬Leads rootPrefix pages (front ++ [segment]))
      (empty : ¬Occupied rootPrefix pages front) :
      Misses rootPrefix pages route
        (.missingChildren (front.getLast?.getD rootPath) segment)
  | astray {front : List String} {segment : String}
      (begins : front ++ [segment] <+: route)
      (leads : Leads rootPrefix pages front)
      (lost : ¬Leads rootPrefix pages (front ++ [segment]))
      (occupied : Occupied rootPrefix pages front) :
      Misses rootPrefix pages route
        (.missingSegment (front.getLast?.getD rootPath) segment)

namespace Contribution

open RouteNode

variable {files : List Contribution} {tree reached : RouteNode}
  {route : List String}

/-- A node of a guarded trie has the path and the page of the trie. -/
theorem Guarded.exists_describes (isGuarded : Guarded files tree)
    (found : tree.reach? (route.map some) = some reached) :
    ∃ node, Describes files route node ∧ reached.path = node.path ∧
      reached.slot? = node.slot? := by
  obtain ⟨node, isNode, samePlace⟩ := isGuarded.same.exists_reach found
  exact ⟨node, describes_of_reach_grown isNode,
    congrArg Place.path samePlace.symm, congrArg Place.slot samePlace.symm⟩

/-- A node has no branch with a name exactly if no file covers the route to
it. -/
theorem Guarded.branchAt_eq_none_iff (isGuarded : Guarded files tree)
    (found : tree.reach? (route.map some) = some reached) (name : String) :
    reached.branchAt? (some name) = none ↔ ¬Covers files (route ++ [name]) := by
  rw [← isGuarded.reach_isSome_iff, List.map_append, List.map_singleton,
    reach_append_singleton, found, Option.bind_some, Bool.not_eq_true,
    Option.isSome_eq_false_iff, Option.isNone_iff_eq_none]

/-- A node of a guarded trie has no children exactly where no page is and no
route goes on. -/
theorem Guarded.children_eq_nil_iff (isGuarded : Guarded files tree)
    (found : tree.reach? (route.map some) = some reached) :
    reached.children = [] ↔
      ¬((∃ file ∈ files, file.role = some .page ∧ file.tokens = route) ∨
      ∃ next, Covers files (route ++ [next])) := by
  obtain ⟨node, describes, _, sameSlot⟩ := isGuarded.exists_describes found
  have named (path : Option String) {branch : RouteNode}
      (isBranch : reached.branchAt? path = some branch) :
      ∃ name, path = some name :=
    isGuarded.authored.exists_name found isBranch
  rw [(isGuarded.tidy.of_reach found).children_eq_nil_iff, sameSlot,
    describes.slot_eq, not_or, ← findSome_claim_isSome_iff,
    Option.not_isSome_iff_eq_none, not_exists]
  apply and_congr_right
  intro _
  simp only [← isGuarded.branchAt_eq_none_iff found]
  constructor
  · exact fun noBranch name => noBranch (some name)
  · intro noBranch path
    cases isBranch : reached.branchAt? path with
    | none => rfl
    | some branch =>
      obtain ⟨name, rfl⟩ := named path isBranch
      rw [noBranch] at isBranch
      cases isBranch

end Contribution

namespace RouteFiles

open Logged RouteNode Contribution

variable {config : CompilerConfig} {files : RouteFiles} {tree : RouteNode}
  {route : List String}

theorem covers_iff_leads :
    Covers (files.contributions config) route ↔
      Leads config.routing.rootPrefix files.pages route :=
  covers_contributions_iff config files

theorem occupied_iff :
    ((∃ file ∈ files.contributions config, file.role = some .page ∧
      file.tokens = route) ∨
        ∃ next, Covers (files.contributions config) (route ++ [next])) ↔
      Occupied config.routing.rootPrefix files.pages route := by
  have hasPage : (∃ file ∈ files.contributions config,
      file.role = some .page ∧ file.tokens = route) ↔ ∃ page ∈ files.pages,
        (ParsedFile.parse config.routing.rootPrefix page).role.bind
          FileRole.routeRole? = some .page ∧
          (ParsedFile.parse config.routing.rootPrefix page).routeTokens =
            route := by
    simp only [contributions, pages_eq, List.mem_map, exists_exists_and_eq_and,
      ListedFile.contribution_role, ListedFile.contribution_tokens]
  have goesOn (next : String) :
      Covers (files.contributions config) (route ++ [next]) ↔
        ∃ page ∈ files.pages, route ++ [next] <+:
          (ParsedFile.parse config.routing.rootPrefix page).routeTokens := by
    rw [covers_contributions_iff]
    exact or_iff_right (by simp)
  simp only [hasPage, goesOn, Occupied, and_or_left, exists_or]
  rw [exists_comm]
  simp only [exists_and_left]

/-- The error of an attachment says which folder is missing. -/
theorem misses_of_attachErrorView_error {guarded : RouteNode} {view : View}
    {error : RouteError}
    (isGuarded : Guarded (files.contributions config) guarded)
    (failed : guarded.attachErrorView route view = .error error) :
    Misses config.routing.rootPrefix files.pages route error := by
  obtain ⟨front, segment, rest, reached, isSplit, found, absent, isError⟩ :=
    attachErrorView_error failed
  obtain ⟨node, describes, samePath, _⟩ := isGuarded.exists_describes found
  have begins : front ++ [segment] <+: route :=
    ⟨rest, by rw [isSplit, List.append_assoc, List.singleton_append]⟩
  have leads : Leads config.routing.rootPrefix files.pages front := by
    rw [← covers_iff_leads, ← isGuarded.reach_isSome_iff, found,
      Option.isSome_some]
  have lost :
      ¬Leads config.routing.rootPrefix files.pages (front ++ [segment]) := by
    rw [← covers_iff_leads]
    exact (isGuarded.branchAt_eq_none_iff found segment).mp absent
  have isName : reached.displayPath = front.getLast?.getD rootPath := by
    rw [displayPath, samePath, describes.path_eq, Option.getD_some]
  have childless := isGuarded.children_eq_nil_iff found
  rw [occupied_iff] at childless
  rw [isError, missing, isName]
  by_cases isEmpty : reached.children = []
  · rw [if_pos (List.isEmpty_iff.mpr isEmpty)]
    exact .deserted begins leads lost (childless.mp isEmpty)
  · rw [if_neg (mt List.isEmpty_iff.mp isEmpty)]
    exact .astray begins leads lost (not_not.mp (mt childless.mpr isEmpty))

/-- An error view fits the tree exactly if the pages lead to its route. -/
theorem fits_iff_leads (config : CompilerConfig) (files : RouteFiles)
    (file : ListedFile) :
    (Boundary.ofFile config.routing.rootPrefix file).Fits
      (grown (files.contributions config)) ↔
      Leads config.routing.rootPrefix files.pages
        (ParsedFile.parse config.routing.rootPrefix file.id).routeTokens := by
  rw [Boundary.Fits, reach_grown_isSome_iff, covers_iff_leads, Boundary.ofFile]

/-- Error views are attached in the order of their ranks. -/
theorem pairwise_boundaries (config : CompilerConfig) (files : RouteFiles) :
    (files.boundaries config).Pairwise fun left right =>
      Boundary.inOrder left right = true :=
  List.pairwise_mergeSort
    (fun first second third =>
      ParsedFile.attachesBefore_trans first.parsed second.parsed
      third.parsed)
    (fun left right => ParsedFile.attachesBefore_total left.parsed right.parsed) _

/-- When no conflict stops a compilation, it reports the foremost of the error
views whose routes nothing leads to. -/
theorem exists_reported
    (permitted : Permitted config.conflicts (files.contributions config))
    (unfit : ¬BoundariesFit config.routing.rootPrefix files) :
    ∃ file ∈ files.errorFiles,
      ¬Leads config.routing.rootPrefix files.pages
        (ParsedFile.parse config.routing.rootPrefix file.id).routeTokens ∧
      (∀ other ∈ files.errorFiles, ¬Leads config.routing.rootPrefix files.pages
          (ParsedFile.parse config.routing.rootPrefix other.id).routeTokens ->
        (ParsedFile.parse config.routing.rootPrefix file.id).attachmentRank ≤
          (ParsedFile.parse config.routing.rootPrefix other.id).attachmentRank) ∧
      ∃ error, (compile config files).outcome = .error error ∧
        Misses config.routing.rootPrefix files.pages
          (ParsedFile.parse config.routing.rootPrefix file.id).routeTokens
            error := by
  rcases Boundary.attachBoundaries_cases Guarded.attachErrorView
      (guarded_grown (files.contributions config))
      (fun _ => exists_file_of_mem_boundaries config files)
      (fun _ _ known => absurd known List.not_mem_nil) with
    ⟨tree, gives, _, _⟩ |
      ⟨front, boundary, back, guarded, error, isSplit, fit, misfit, isGuarded,
        fails, failed⟩
  · exact absurd ((gives_attachBoundaries_grown_iff config files).mp
      ⟨tree, gives⟩) unfit
  · have isFirst : boundary ∈ files.boundaries config := by simp [isSplit]
    obtain ⟨file, listed, rfl⟩ := (mem_boundaries_iff config files).mp isFirst
    rw [fits_iff_leads] at misfit
    refine ⟨file, listed, misfit, ?_, error, ?_,
      misses_of_attachErrorView_error isGuarded fails⟩
    · intro other otherListed lost
      have member :=
        (mem_boundaries_iff config files).mpr ⟨other, otherListed, rfl⟩
      have sorted := pairwise_boundaries config files
      rw [isSplit, List.pairwise_append, List.pairwise_cons] at sorted
      rw [isSplit, List.mem_append, List.mem_cons] at member
      rcases member with inFront | same | inBack
      · exact absurd ((fits_iff_leads config files other).mp (fit _ inFront)) lost
      · rw [show other = file from congrArg Boundary.file same]
      · exact Boundary.inOrder_iff.mp (sorted.2.1.1 _ inBack)
    · rw [outcome_compile_of_permitted config files permitted, failed]
      rfl

/-- Error views are where their files say.  In a compiled tree the node at a
route has the error view of the foremost file with just that route, if there is
any, and neither index nodes nor the nodes for unmatched paths have one.  When
some files have routes that nothing leads to and no conflict comes first, the
foremost of them is reported. -/
theorem error_views_land (config : CompilerConfig) (files : RouteFiles) :
    (∀ tree, (compile config files).Gives tree ->
      (∀ node ∈ tree.nodes, node.index = true ∨
        ∃ route, tree.descendant? route = some node) ∧
      (∀ node ∈ tree.nodes,
        (node.index = true ∨ ∃ view, node.content = some (.notFound view)) ->
        node.error = none) ∧
      ∀ route node, tree.descendant? route = some node ->
        (node.error.isSome = true ↔ ∃ file ∈ files.errorFiles,
          (ParsedFile.parse config.routing.rootPrefix file.id).routeTokens =
            route) ∧
        node.error = (foremost? ParsedFile.routeTokens config.routing.rootPrefix
          files.errorFiles route).map View.file) ∧
    ((config.conflicts.duplicates = .error ->
        DistinctClaims config.routing.rootPrefix files.pages) ->
      (config.conflicts.dynamicSegments = .error ->
        ¬RivalRoutes config.routing.rootPrefix files.pages) ->
      ¬BoundariesFit config.routing.rootPrefix files ->
      ∃ file ∈ files.errorFiles,
        ¬Leads config.routing.rootPrefix files.pages
          (ParsedFile.parse config.routing.rootPrefix file.id).routeTokens ∧
        (∀ other ∈ files.errorFiles,
          ¬Leads config.routing.rootPrefix files.pages
            (ParsedFile.parse config.routing.rootPrefix other.id).routeTokens ->
          (ParsedFile.parse config.routing.rootPrefix file.id).attachmentRank ≤
            (ParsedFile.parse config.routing.rootPrefix other.id).attachmentRank) ∧
        ∃ error, (compile config files).outcome = .error error ∧
          Misses config.routing.rootPrefix files.pages
            (ParsedFile.parse config.routing.rootPrefix file.id).routeTokens
              error) := by
  refine ⟨fun tree gives => ⟨?_, fun node => error_eq_none gives, ?_⟩, ?_⟩
  · intro node member
    obtain ⟨guarded, isGuarded, rfl⟩ := exists_guarded_of_gives_compile gives
    refine (exists_descendant_of_mem_nodes isGuarded.authored member).imp_left ?_
    rintro ⟨content, rfl⟩
    exact indexOf_index content
  · intro route node found
    have isForemost := error_eq_foremost gives found
    refine ⟨?_, isForemost⟩
    rw [isForemost, Option.isSome_map, isSome_foremost_iff]
  · intro distinct apart unfit
    exact exists_reported
      ((permitted_contributions_iff config files).mpr ⟨distinct, apart⟩) unfit

/-- A site with two error views for one route. -/
def market : RouteFiles where
  pages := ["app/shop/page.rs"]
  errors := ["app/shop/error.rs", "app/(old)/shop/error.rs"]

/-- The market with error views for routes that it does not have. -/
def strayMarket : RouteFiles :=
  { market with errors := ["app/(old)/about/error.rs", "app/news/error.rs"] }

theorem error_views_land_market :
    (∃ tree shop, (compile {} market).Gives tree ∧
      tree.descendant? ["shop"] = some shop ∧
      shop.error = some (.file ⟨"app/shop/error.rs", .errors, 0⟩)) ∧
    ∃ error, (compile {} strayMarket).outcome = .error error ∧
      Misses "app" strayMarket.pages ["news"] error := by
  constructor
  · have compiles : (compile {} market).outcome.toOption.any (fun tree =>
        (tree.descendant? ["shop"]).isSome) = true := by
      have sorted : boundaries {} market =
          market.errorFiles.map (Boundary.ofFile "app") :=
        List.mergeSort_of_pairwise (by decide +kernel)
      rw [outcome_compile, sorted]
      decide +kernel
    have foremost :
        foremost? ParsedFile.routeTokens "app" market.errorFiles ["shop"] =
          some ⟨"app/shop/error.rs", .errors, 0⟩ := by decide +kernel
    obtain ⟨tree, gives, reached⟩ := exists_gives_of_any compiles
    obtain ⟨shop, found⟩ := Option.isSome_iff_exists.mp reached
    obtain ⟨_, _, errors⟩ := (error_views_land {} market).1 tree gives
    have isForemost := (errors ["shop"] shop found).2
    rw [show ({} : CompilerConfig).routing.rootPrefix = "app" from rfl,
      foremost] at isForemost
    exact ⟨tree, shop, gives, found, isForemost⟩
  · have unfit : ¬BoundariesFit "app" strayMarket := by
      rw [BoundariesFit]
      decide +kernel
    obtain ⟨file, listed, lost, least, error, fails, misses⟩ :=
      (error_views_land {} strayMarket).2 (fun strict => by cases strict)
        (fun strict => by cases strict) unfit
    have newsLost : ¬Leads "app" strayMarket.pages
        (ParsedFile.parse "app" "app/news/error.rs").routeTokens := by
      rw [Leads]
      decide +kernel
    have beforeNews :=
      least ⟨"app/news/error.rs", .errors, 1⟩ (by decide) newsLost
    have isNews : file.id = "app/news/error.rs" := by
      rcases List.mem_pair.mp listed with rfl | rfl
      · exact absurd beforeNews (by decide +kernel)
      · rfl
    have tokens : (ParsedFile.parse "app" "app/news/error.rs").routeTokens =
        ["news"] := by
      decide +kernel
    refine ⟨error, fails, ?_⟩
    rw [← tokens, ← isNews]
    exact misses

end RouteFiles
end FileRoutes
