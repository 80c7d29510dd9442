import FileRoutes.Lazy.Site
import FileRoutes.Proofs.Joining
import Mathlib.Logic.Function.Iterate

/-!
# Resolving what a site holds

What nodes show is resolved in any order and any number of times.  Each cell of
the site takes part as often as the file that it belongs to is asked for, and
when its importer succeeds, it is imported once.
-/

namespace FileRoutes
namespace Lazy

/-- What a node shows and a site can resolve. -/
inductive Resolvable
  | route (file : ListedFile)
  | view (view : View)
deriving DecidableEq

/-- What content needs: a page or layout with its loading view, or a not-found
view. -/
def contentResolvables : Option RouteContent -> List Resolvable
  | none => []
  | some (.notFound view) => [.view view]
  | some (.page spec) | some (.layout spec) =>
      [.route spec.file, .view spec.loading]

/-- What a node shows: its content and its error view. -/
def resolvables (node : RouteNode) : List Resolvable :=
  contentResolvables node.content ++ node.error.toList.map .view

namespace Cell

variable {μ α : Type} {source : Source μ α} {cell : Cell μ α}

/-- An idle cell that is resolved several times serves as many calls. -/
theorem iterate_resolve (count : Nat) (idle : cell.Idle) :
    (fun cell : Cell μ α => (cell.resolve source).2)^[count] cell =
      serveMany source count cell := by
  induction count generalizing cell with
  | zero => rfl
  | succ count step =>
    rw [Function.iterate_succ_apply, resolve_eq idle,
      step (idle.serve source), serveMany]

/-- A cell with content is not imported again. -/
theorem counts_serveMany_of_filled {content : α}
    (filled : cell.content = some content) (count : Nat) :
    (serveMany source count cell).imports = cell.imports ∧
      (serveMany source count cell).finishes = cell.finishes := by
  induction count generalizing cell with
  | zero => exact ⟨rfl, rfl⟩
  | succ count step =>
    have served : cell.serve source =
        { cell with calls := cell.calls ++ [.finished (.ok content)] } := by
      rw [serve, filled]
    rw [serveMany, served]
    exact step filled

/-- A new cell whose importer succeeds is imported on the first call that asks
for it. -/
theorem counts_serveMany
    (loads : ∀ call, ∃ imported, (source.importer call).outcome = .ok imported)
    (count : Nat) :
    (serveMany source count {}).imports = (if 0 < count then 1 else 0) ∧
      (serveMany source count {}).finishes = if 0 < count then 1 else 0 := by
  cases count with
  | zero => exact ⟨rfl, rfl⟩
  | succ count =>
    obtain ⟨imported, isOk⟩ := loads 0
    have served : ({} : Cell μ α).serve source =
        { content := some (source.finish imported)
          calls := [.finished (.ok (source.finish imported))]
          imports := 1
          finishes := 1
          log := source.announcement } := by
      rw [serve, isOk]
      rfl
    rw [serveMany, served, if_pos (Nat.succ_pos count)]
    exact counts_serveMany_of_filled rfl count

end Cell

/-! ## One lazy route or view -/

/-- A route that is resolved several times has served as many calls. -/
theorem LazyRoute.iterate_resolve (count : Nat) {route : LazyRoute}
    (idle : route.cell.Idle) :
    (fun route : LazyRoute => route.resolve.2)^[count] route =
      { route with cell := Cell.serveMany route.source count route.cell } := by
  have sameCell :
      Function.Semiconj (fun cell => ({ route with cell := cell } : LazyRoute))
        (fun cell => (cell.resolve route.source).2)
        (fun route => route.resolve.2) :=
    fun _ => rfl
  rw [← Cell.iterate_resolve count idle]
  exact (sameCell.iterate_right count route.cell).symm

theorem LazyView.iterate_resolve (count : Nat) {view : LazyView}
    (idle : view.cell.Idle) :
    (fun view : LazyView => view.resolve.2)^[count] view =
      { view with cell := Cell.serveMany view.source count view.cell } := by
  have sameCell :
      Function.Semiconj (fun cell => ({ view with cell := cell } : LazyView))
        (fun cell => (cell.resolve view.source).2)
        (fun view => view.resolve.2) :=
    fun _ => rfl
  rw [← Cell.iterate_resolve count idle]
  exact (sameCell.iterate_right count view.cell).symm

/-! ## Entries under keys -/

/-- Resolve the entry under a key, if there is one. -/
def resolveUnder {κ ν : Type} [DecidableEq κ] (resolve : ν -> ν) (key : κ)
    (entries : List (κ × ν)) : List (κ × ν) :=
  match entries.lookup key with
  | none => entries
  | some value => replaceUnder key (resolve value) entries

/-- Of entries that are told apart by their keys, the one under the key
changes. -/
theorem resolveUnder_map {κ ν : Type} [DecidableEq κ] (resolve : ν -> ν)
    (key : κ) (value : κ -> ν) (keys : List κ) :
    resolveUnder resolve key (keys.map fun key => (key, value key)) =
      keys.map fun other =>
        (other, if other = key then resolve (value other) else value other) := by
  rw [resolveUnder]
  by_cases listed : key ∈ keys
  · rw [List.lookup_graph value listed]
    dsimp only
    rw [replaceUnder, List.map_map]
    apply List.map_congr_left
    intro other _
    rw [Function.comp_apply]
    by_cases same : other = key
    · rw [if_pos same, if_pos same, same]
    · rw [if_neg same, if_neg same]
  · have missing :
        (keys.map fun key => (key, value key)).lookup key = none := by
      rw [List.lookup_eq_none_iff]
      intro entry member
      obtain ⟨other, isKey, rfl⟩ := List.mem_map.mp member
      rw [bne_iff_ne]
      rintro rfl
      exact listed isKey
    rw [missing]
    apply List.map_congr_left
    intro other isKey
    rw [if_neg]
    rintro rfl
    exact listed isKey

/-- Resolving under a key counts for the entry with that key only. -/
theorem resolveUnder_iterate {κ ν : Type} [DecidableEq κ] (resolve : ν -> ν)
    (key : κ) (start : κ -> ν) (times : κ -> Nat) (keys : List κ) :
    resolveUnder resolve key
      (keys.map fun key => (key, resolve^[times key] (start key))) =
      keys.map fun other =>
        (other, resolve^[times other + if key = other then 1 else 0]
          (start other)) := by
  rw [resolveUnder_map resolve key fun key => resolve^[times key] (start key)]
  apply List.map_congr_left
  intro other _
  by_cases same : other = key
  · rw [if_pos same, if_pos same.symm, Function.iterate_succ_apply']
  · rw [if_neg same, if_neg fun equal => same equal.symm, Nat.add_zero]

end Lazy

/-- The listed views of all kinds. -/
def RouteFiles.viewFiles (files : RouteFiles) : List ListedFile :=
  files.errorFiles ++ files.notFoundFiles ++ files.loadingFiles

namespace Lazy
namespace Site

/-- Resolve one of the things that nodes show. -/
def resolve (site : Site) : Resolvable -> Site
  | .route file => (site.resolveRoute file).2
  | .view view => (site.resolveView view).2

/-- Resolve things one after the other. -/
def resolveAll (site : Site) (targets : List Resolvable) : Site :=
  targets.foldl resolve site

theorem resolveAll_append (site : Site) (front back : List Resolvable) :
    site.resolveAll (front ++ back) = (site.resolveAll front).resolveAll back :=
  List.foldl_append

theorem resolve_route (site : Site) (file : ListedFile) :
    site.resolve (.route file) =
      { site with
        routes :=
          resolveUnder (fun route => route.resolve.2) file site.routes } := by
  rw [resolve, resolveRoute, resolveUnder]
  cases site.routes.lookup file with
  | none => rfl
  | some route => rfl

theorem resolve_view (site : Site) (file : ListedFile) :
    site.resolve (.view (.file file)) =
      { site with
        views :=
          resolveUnder (fun view => view.resolve.2) file site.views } := by
  rw [resolve, resolveView, resolveUnder]
  cases site.views.lookup file with
  | none => rfl
  | some view => rfl

/-- Visiting a content resolves what the content refers to, and nothing else. -/
theorem visitContent_eq_resolveAll (site : Site) (visit : Visit)
    (content : Option RouteContent) :
    (site.visitContent visit content).2 =
      site.resolveAll (contentResolvables content) := by
  have rendered (spec : RenderSpec) :
      (site.visitContent visit (some (.page spec))).2 =
        site.resolveAll [.route spec.file, .view spec.loading] := by
    rw [visitContent]
    dsimp only
    split
    · rfl
    · rfl
  rcases content with _ | ⟨spec⟩ | ⟨spec⟩ | ⟨view⟩
  · rfl
  · exact rendered spec
  · exact rendered spec
  · rfl

/-- Visiting nodes resolves what they show, in the order of the nodes. -/
theorem visitAll_eq_resolveAll (site : Site) (nodes : List RouteNode) :
    (site.visitAll nodes).2 = site.resolveAll (nodes.flatMap resolvables) := by
  induction nodes generalizing site with
  | nil => rfl
  | cons node rest step =>
    have visits : (site.visit node).2 = site.resolveAll (resolvables node) := by
      rw [visit, resolvables, resolveAll_append,
        ← visitContent_eq_resolveAll site
        { displayPath := node.displayPath }]
      cases node.error with
      | none => rfl
      | some view => rfl
    rw [visitAll, List.flatMap_cons, resolveAll_append, ← visits, ← step]

section Files

variable (importPage : ListedFile -> Nat -> Import PageModule)
  (importView : ListedFile -> Nat -> Import ViewModule)
  (middleware : Middleware) (files : RouteFiles)

/-- The route of a listed page or layout before it is resolved. -/
def freshRoute (file : ListedFile) : LazyRoute :=
  { id := file.id, importer := importPage file, middleware := middleware }

/-- A listed view before it is resolved. -/
def freshView (file : ListedFile) : LazyView :=
  { origin := .file file.id (importView file) }

/-- Each cell is resolved as often as its file is asked for. -/
theorem resolveAll_ofFiles (targets : List Resolvable) :
    (ofFiles importPage importView middleware files).resolveAll targets =
      { routes := files.pageFiles.map fun file => (file,
          (fun route : LazyRoute => route.resolve.2)^[targets.count (.route file)]
            (freshRoute importPage middleware file))
        views := files.viewFiles.map fun file => (file,
          (fun view : LazyView => view.resolve.2)^[targets.count
            (.view (.file file))]
            (freshView importView file)) } := by
  induction targets using List.reverseRecOn with
  | nil => rfl
  | append_singleton targets target step =>
    rw [resolveAll_append, step, resolveAll, List.foldl_cons, List.foldl_nil]
    simp only [List.count_append, List.count_singleton, beq_iff_eq]
    cases target with
    | route file =>
      rw [resolve_route, resolveUnder_iterate]
      simp
    | view view =>
      cases view with
      | builtin view => simp [resolve, resolveView]
      | file file =>
        rw [resolve_view, resolveUnder_iterate]
        simp

variable {importPage importView middleware files}

/-- A route whose imports load is imported and finished once if it is resolved
at all. -/
theorem counts_route {file : ListedFile}
    (loads : ∀ call, ∃ exports, (importPage file call).outcome = .ok exports)
    (count : Nat) :
    ((fun route : LazyRoute => route.resolve.2)^[count]
        (freshRoute importPage middleware file)).cell.imports =
      (if 0 < count then 1 else 0) ∧
      ((fun route : LazyRoute => route.resolve.2)^[count]
        (freshRoute importPage middleware file)).cell.finishes =
        if 0 < count then 1 else 0 := by
  rw [LazyRoute.iterate_resolve count ⟨rfl, rfl⟩]
  exact Cell.counts_serveMany loads count

theorem imports_view {file : ListedFile}
    (loads : ∀ call, ∃ exports, (importView file call).outcome = .ok exports)
    (count : Nat) :
    ((fun view : LazyView => view.resolve.2)^[count]
      (freshView importView file)).imports = if 0 < count then 1 else 0 := by
  rw [LazyView.iterate_resolve count ⟨rfl, rfl⟩]
  exact (Cell.counts_serveMany loads count).1

/-- The importers of the files that are asked for are called once, and no
others. -/
theorem imports_resolveAll
    (pagesLoad : ∀ file call, ∃ exports, (importPage file call).outcome =
      .ok exports)
    (viewsLoad : ∀ file call, ∃ exports, (importView file call).outcome =
      .ok exports)
    (targets : List Resolvable) :
    ((ofFiles importPage importView middleware files).resolveAll targets).imports =
      (files.pageFiles.map fun file =>
        (file, if .route file ∈ targets then 1 else 0)) ++
        files.viewFiles.map fun file =>
          (file, if .view (.file file) ∈ targets then 1 else 0) := by
  rw [resolveAll_ofFiles, imports, List.map_map, List.map_map]
  congr 1
  · apply List.map_congr_left
    intro file _
    have counts := @counts_route importPage middleware file (pagesLoad file)
      (targets.count (.route file))
    rw [if_congr List.count_pos_iff rfl rfl] at counts
    exact congrArg (file, ·) counts.1
  · apply List.map_congr_left
    intro file _
    have counts := @imports_view importView file (viewsLoad file)
      (targets.count (.view (.file file)))
    rw [if_congr List.count_pos_iff rfl rfl] at counts
    exact congrArg (file, ·) counts

/-- The middleware is called once for each page or layout that is asked for. -/
theorem wraps_resolveAll
    (pagesLoad : ∀ file call, ∃ exports, (importPage file call).outcome =
      .ok exports)
    (targets : List Resolvable) :
    ((ofFiles importPage importView middleware files).resolveAll targets).wraps =
      (files.pageFiles.filter fun file => .route file ∈ targets).length := by
  rw [resolveAll_ofFiles, wraps, List.map_map]
  induction files.pageFiles with
  | nil => rfl
  | cons file rest step =>
    have counts := @counts_route importPage middleware file (pagesLoad file)
      (targets.count (.route file))
    rw [if_congr List.count_pos_iff rfl rfl] at counts
    rw [List.map_cons, List.foldr_cons, step, Function.comp_apply]
    dsimp only
    rw [counts.2]
    by_cases asked : .route file ∈ targets
    · rw [if_pos asked, List.filter_cons_of_pos (by simpa using asked),
        List.length_cons, Nat.add_comm]
    · rw [if_neg asked, List.filter_cons_of_neg (by simpa using asked),
        Nat.zero_add]

end Files

end Site
end Lazy
end FileRoutes
