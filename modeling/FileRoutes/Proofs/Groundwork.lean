import FileRoutes.Proofs.Completion
import FileRoutes.Proofs.Verdict

/-!
# What is completed

The not-found pass is given the trie of the routes of the listed files, guarded
by error views.  Error views leave everything else in the trie as it is, so all
of its nodes have names, and what they render was listed.
-/

namespace FileRoutes

/-- A place without its error view. -/
def Place.unguarded (place : Place) : Place :=
  { place with error := none }

/-- Whether a place renders pages and layouts only. -/
def Place.Written (place : Place) : Prop :=
  ∀ view, place.content ≠ some (.notFound view) ∧
    place.slot ≠ some (.notFound view)

namespace RouteNode

/-- Two trees that differ in their error views only, route by route. -/
def SameUnguarded (left right : RouteNode) : Prop :=
  ∀ route, (left.reach? route).map (Place.unguarded ∘ place) =
    (right.reach? route).map (Place.unguarded ∘ place)

theorem SameUnguarded.trans {first second third : RouteNode}
    (left : SameUnguarded first second) (right : SameUnguarded second third) :
    SameUnguarded first third :=
  fun route => (left route).trans (right route)

/-- An attachment changes error views only. -/
theorem sameUnguarded_attachErrorView {node result : RouteNode}
    {route : List String} {view : View}
    (attached : node.attachErrorView route view = .ok result) :
    SameUnguarded result node := by
  intro other
  have places := congrArg (Option.map Place.unguarded)
    (place_attachErrorView attached other)
  rw [Option.map_map] at places
  rw [places]
  split
  · rw [Option.map_map]
    rfl
  · rw [Option.map_map]

/-- Trees that differ in their error views only have nodes at the same
routes. -/
theorem SameUnguarded.isSome_eq {left right : RouteNode}
    (same : SameUnguarded left right) (route : List (Option String)) :
    (left.reach? route).isSome = (right.reach? route).isSome := by
  simpa using congrArg Option.isSome (same route)

/-- A route leads to nodes that differ in their error views only. -/
theorem SameUnguarded.exists_reach {left right node : RouteNode}
    (same : SameUnguarded left right) {route : List (Option String)}
    (found : left.reach? route = some node) :
    ∃ other, right.reach? route = some other ∧
      other.place.unguarded = node.place.unguarded := by
  have places := same route
  rw [found, Option.map_some] at places
  exact Option.map_eq_some_iff.mp places.symm

/-- A tree as files make it: all nodes have names, and they render pages and
layouts only. -/
structure Authored (tree : RouteNode) : Prop where
  tidy : tree.Tidy
  named : ∀ {route node}, tree.reach? route = some node ->
    ∃ names : List String, route = names.map some
  written : ∀ {route node}, tree.reach? route = some node -> node.place.Written

/-- A tidy tree that differs from an authored tree in error views only is
authored. -/
theorem Authored.of_sameUnguarded {left right : RouteNode}
    (authored : right.Authored) (tidy : left.Tidy)
    (same : SameUnguarded left right) : left.Authored where
  tidy := tidy
  named := by
    intro route node found
    obtain ⟨other, otherFound, _⟩ := same.exists_reach found
    exact authored.named otherFound
  written := by
    intro route node found view
    obtain ⟨other, otherFound, samePlace⟩ := same.exists_reach found
    have sameContent : other.content = node.content :=
      congrArg Place.content samePlace
    have sameSlot : other.slot? = node.slot? := congrArg Place.slot samePlace
    have otherWritten := authored.written otherFound view
    simp only [place, sameContent, sameSlot] at otherWritten ⊢
    exact otherWritten

/-! ## The root is opened -/

/-- Opening the root leaves the branches as they are. -/
theorem branchAt_openRoot (root : RouteNode) (path : Option String) :
    root.openRoot.branchAt? path = root.branchAt? path := by
  by_cases childless : root.children = []
  · cases held : root.content with
    | none => rw [openRoot_of_bare held]
    | some content =>
      rw [openRoot_of_leaf childless held, branchAt?, branchAt?, childless]
      rfl
  · rw [openRoot_of_children childless]

/-- Opening the root changes nothing at a route below it. -/
theorem reach_openRoot_cons (root : RouteNode) (path : Option String)
    (rest : List (Option String)) :
    root.openRoot.reach? (path :: rest) = root.reach? (path :: rest) := by
  rw [reach_cons, reach_cons, branchAt_openRoot]

theorem isSome_reach_openRoot (root : RouteNode)
    (route : List (Option String)) :
    (root.openRoot.reach? route).isSome = (root.reach? route).isSome := by
  cases route with
  | nil => rfl
  | cons path rest => rw [reach_openRoot_cons]

theorem Authored.openRoot {root : RouteNode} (authored : root.Authored) :
    root.openRoot.Authored where
  tidy := authored.tidy.openRoot
  named := by
    intro route node found
    have reached := isSome_reach_openRoot root route
    rw [found, Option.isSome_some] at reached
    obtain ⟨other, otherFound⟩ := Option.isSome_iff_exists.mp reached.symm
    exact authored.named otherFound
  written := by
    intro route node found
    cases route with
    | cons path rest =>
      rw [reach_openRoot_cons] at found
      exact authored.written found
    | nil =>
      have rootWritten := authored.written (reach_nil root)
      obtain rfl : root.openRoot = node := Option.some.inj found
      by_cases childless : root.children = []
      · cases held : root.content with
        | none => rwa [openRoot_of_bare held]
        | some content =>
          -- What the root rendered is in its slot now.
          intro view
          have other := (rootWritten view).1
          rw [openRoot_of_leaf childless held]
          rw [place, held] at other
          exact ⟨(Option.some_ne_none _).symm, other⟩
      · rwa [openRoot_of_children childless]

end RouteNode

namespace Contribution

open RouteNode

theorem authored_grown (files : List Contribution) :
    (grown files).Authored where
  tidy := grown_tidy files
  named := exists_names_of_reach_grown
  written := by
    intro route node found view
    obtain ⟨names, isNames⟩ := exists_names_of_reach_grown found
    subst isNames
    have describes := describes_of_reach_grown found
    have claimed (role : RouteRole) :
        files.findSome? (claim? role names) ≠ some (.notFound view) := by
      intro claim
      obtain ⟨spec, isRole⟩ := findSome_claim_eq claim
      cases role <;> cases isRole
    rw [place, describes.content_eq, describes.slot_eq]
    exact ⟨claimed .layout, claimed .page⟩

/-- A trie with error views attached. -/
structure Guarded (files : List Contribution) (tree : RouteNode) : Prop where
  tidy : tree.Tidy
  same : SameUnguarded tree (grown files)

theorem guarded_grown (files : List Contribution) :
    Guarded files (grown files) :=
  ⟨grown_tidy files, fun _ => rfl⟩

variable {files : List Contribution} {tree : RouteNode}

theorem Guarded.attachErrorView {result : RouteNode} {route : List String}
    {view : View} (guarded : Guarded files tree)
    (attached : tree.attachErrorView route view = .ok result) :
    Guarded files result :=
  ⟨guarded.tidy.attachErrorView attached,
    (sameUnguarded_attachErrorView attached).trans guarded.same⟩

theorem Guarded.authored (guarded : Guarded files tree) : tree.Authored :=
  (authored_grown files).of_sameUnguarded guarded.tidy guarded.same

/-- Error views leave the routes of a trie as they are. -/
theorem Guarded.reach_isSome_iff (guarded : Guarded files tree)
    {route : List String} :
    (tree.reach? (route.map some)).isSome = true ↔ Covers files route := by
  rw [guarded.same.isSome_eq, reach_grown_isSome_iff]

end Contribution

/-- What each attachment keeps holds when all error views are attached. -/
theorem Boundary.attachBoundaries_induction {holds : RouteNode -> Prop}
    (step : ∀ {node result : RouteNode} {route : List String} {view : View},
      holds node ->
      node.attachErrorView route view = .ok result -> holds result)
    {guarded : List String} {root tree : RouteNode} {boundaries : List Boundary}
    (start : holds root)
    (gives : (attachBoundaries guarded root boundaries).Gives tree) :
    holds tree := by
  induction boundaries generalizing guarded root with
  | nil =>
    cases gives
    exact start
  | cons boundary rest later =>
    by_cases known : boundary.parsed.routeKey ∈ guarded
    · rw [attachBoundaries_guarded known, Logged.gives_bind_iff] at gives
      obtain ⟨_, _, restGives⟩ := gives
      exact later start restGives
    · cases attaches : root.attachErrorView boundary.parsed.routeTokens
          (.file boundary.file) with
      | error error =>
        rw [attachBoundaries_failed known attaches] at gives
        cases gives
      | ok attached =>
        rw [attachBoundaries_attached known attaches] at gives
        exact later (step start attaches) gives

namespace RouteFiles

open Logged RouteNode Contribution

/-- A compilation that succeeds attaches the error views to the trie of the
listed files and completes it. -/
theorem exists_attached_of_gives_compile {config : CompilerConfig}
    {files : RouteFiles} {tree : RouteNode}
    (gives : (compile config files).Gives tree) :
    ∃ guarded, (attachBoundaries [] (grown (files.contributions config))
        (files.boundaries config)).Gives guarded ∧
      tree = guarded.addNotFound (files.notFoundViews config) := by
  have permitted := ((gives_compile_iff config files).mp ⟨tree, gives⟩).1
  rw [Gives, outcome_compile_of_permitted config files permitted] at gives
  cases attaching : (attachBoundaries [] (grown (files.contributions config))
      (files.boundaries config)).outcome with
  | error error =>
    rw [attaching] at gives
    cases gives
  | ok guarded =>
    rw [attaching] at gives
    cases gives
    exact ⟨guarded, attaching, rfl⟩

/-- Attaching error views to the tree of some files gives a guarded tree. -/
theorem guarded_of_attachBoundaries {files : List Contribution}
    {guarded : RouteNode} {boundaries : List Boundary}
    (attaching : (attachBoundaries [] (grown files) boundaries).Gives guarded) :
    Guarded files guarded :=
  Boundary.attachBoundaries_induction Guarded.attachErrorView
    (guarded_grown _) attaching

/-- A compilation that succeeds completes a guarded trie of the listed files. -/
theorem exists_guarded_of_gives_compile {config : CompilerConfig}
    {files : RouteFiles} {tree : RouteNode}
    (gives : (compile config files).Gives tree) :
    ∃ guarded, Guarded (files.contributions config) guarded ∧
      tree = guarded.addNotFound (files.notFoundViews config) := by
  obtain ⟨guarded, attaching, isTree⟩ := exists_attached_of_gives_compile gives
  exact ⟨guarded, guarded_of_attachBoundaries attaching, isTree⟩

end RouteFiles
end FileRoutes
