import FileRoutes.Boundary
import FileRoutes.Proofs.Tidy

/-!
# Attaching error views

An error view is attached to the one node at its route, found along the first
branches with the paths of the route.  Nothing else in the tree changes.
-/

namespace FileRoutes

/-- A node without its children, apart from the content of the index child. -/
structure Place where
  path : Option String
  dynamic : Option SegmentKind
  content : Option RouteContent
  error : Option View
  slot : Option RouteContent

namespace RouteNode

/-- What a node shows at its own place. -/
def place (node : RouteNode) : Place :=
  ⟨node.path, node.dynamic, node.content, node.error, node.slot?⟩

/-- A change below a node is made in the first branch with the path. -/
theorem modifyAt_cons (change : RouteNode -> RouteNode) (node : RouteNode)
    (segment : String) (rest : List String) :
    node.modifyAt change (segment :: rest) =
      match node.branchAt? (some segment) with
      | some branch => (branch.modifyAt change rest).map fun changed =>
          { node with children := putAt (some segment) changed node.children }
      | none => .error (node.missing segment) := by
  rw [modifyAt, branchAt?, List.find?_eq_head?_dropWhile_not]
  cases reached : node.children.dropWhile fun other =>
      !other.matchesPath (some segment) with
  | nil => rfl
  | cons existing after =>
    simp only [List.head?_cons]
    cases changed : existing.modifyAt change rest with
    | error error => rfl
    | ok changed =>
      simp only [Except.map, putAt_of_dropWhile_cons reached]
      rfl

theorem attachErrorView_nil (node : RouteNode) (view : View) :
    node.attachErrorView [] view = .ok { node with error := some view } := rfl

theorem attachErrorView_cons (node : RouteNode) (segment : String)
    (rest : List String) (view : View) :
    node.attachErrorView (segment :: rest) view =
      match node.branchAt? (some segment) with
      | some branch => (branch.attachErrorView rest view).map fun changed =>
          { node with children := putAt (some segment) changed node.children }
      | none => .error (node.missing segment) :=
  modifyAt_cons _ node segment rest

/-- An attachment at a longer route succeeds below the first branch of it. -/
theorem attachErrorView_cons_ok {node result : RouteNode} {segment : String}
    {rest : List String} {view : View}
    (attached : node.attachErrorView (segment :: rest) view = .ok result) :
    ∃ branch changed, node.branchAt? (some segment) = some branch ∧
      branch.attachErrorView rest view = .ok changed ∧
      result = { node with
        children := putAt (some segment) changed node.children } := by
  rw [attachErrorView_cons] at attached
  cases found : node.branchAt? (some segment) with
  | none =>
    rw [found] at attached
    cases attached
  | some branch =>
    simp only [found] at attached
    cases below : branch.attachErrorView rest view with
    | error error =>
      rw [below] at attached
      cases attached
    | ok changed =>
      rw [below] at attached
      cases attached
      exact ⟨branch, changed, rfl, below, rfl⟩

theorem attachErrorView_path {node result : RouteNode} {route : List String}
    {view : View} (attached : node.attachErrorView route view = .ok result) :
    result.path = node.path ∧ result.index = node.index := by
  cases route with
  | nil =>
    cases attached
    exact ⟨rfl, rfl⟩
  | cons segment rest =>
    obtain ⟨branch, changed, _, _, equal⟩ := attachErrorView_cons_ok attached
    subst equal
    exact ⟨rfl, rfl⟩

theorem matchesPath_of_attachErrorView {branch changed : RouteNode}
    {path : Option String} {route : List String} {view : View}
    (matching : branch.matchesPath path)
    (attached : branch.attachErrorView route view = .ok changed) :
    changed.matchesPath path := by
  obtain ⟨samePath, sameIndex⟩ := attachErrorView_path attached
  rw [matchesPath_iff, samePath, sameIndex]
  exact matchesPath_iff.mp matching

/-- An attachment changes the error view at its route and no other place. -/
theorem place_attachErrorView {node result : RouteNode} {route : List String}
    {view : View} (attached : node.attachErrorView route view = .ok result)
    (other : List (Option String)) :
    (result.reach? other).map place =
      if other = route.map some then
        (node.reach? other).map fun reached =>
          { reached.place with error := some view }
      else (node.reach? other).map place := by
  induction route generalizing node result other with
  | nil =>
    cases attached
    cases other with
    | nil => rfl
    | cons path rest => rfl
  | cons segment rest step =>
    obtain ⟨branch, changed, found, below, equal⟩ :=
      attachErrorView_cons_ok attached
    have matching :=
      matchesPath_of_attachErrorView (List.find?_some found) below
    subst equal
    cases other with
    | nil =>
      have sameSlot : ((putAt (some segment) changed node.children).find?
          RouteNode.index) = node.children.find? RouteNode.index :=
        find_index_putAt (matchesPath_iff.mp matching).1
      simp [place, slot?, indexChild?, sameSlot]
    | cons path deeper =>
      rw [reach_cons, reach_cons, branchAt?, find_putAt matching, ← branchAt?]
      by_cases equal : path = some segment
      · subst equal
        rw [if_pos rfl, found, Option.bind_some, Option.bind_some,
          step below deeper]
        simp
      · rw [if_neg equal]
        simp [equal]

/-- An attachment succeeds exactly where the tree has a node. -/
theorem attachErrorView_ok_iff {node : RouteNode} {route : List String}
    {view : View} :
    (∃ result, node.attachErrorView route view = .ok result) ↔
      (node.reach? (route.map some)).isSome := by
  induction route generalizing node with
  | nil => simp [attachErrorView_nil]
  | cons segment rest step =>
    rw [attachErrorView_cons, List.map_cons, reach_cons]
    cases found : node.branchAt? (some segment) with
    | none => simp
    | some branch =>
      simp only [Option.bind_some, ← step]
      cases below : branch.attachErrorView rest view <;> simp [Except.map]

/-- An attachment sets the error view at its route and no other one. -/
theorem error_attachErrorView {node result : RouteNode} {route : List String}
    {view : View} (attached : node.attachErrorView route view = .ok result)
    (other : List (Option String)) :
    (result.reach? other).bind RouteNode.error =
      if other = route.map some then some view
      else (node.reach? other).bind RouteNode.error := by
  have errors (place? : Option RouteNode) :
      place?.bind RouteNode.error = (place?.map place).bind Place.error := by
    cases place? <;> rfl
  rw [errors, place_attachErrorView attached]
  by_cases isRoute : other = route.map some
  · obtain ⟨reached, isReached⟩ := Option.isSome_iff_exists.mp
      (attachErrorView_ok_iff.mp ⟨result, attached⟩)
    rw [if_pos isRoute, if_pos isRoute, isRoute, isReached]
    rfl
  · rw [if_neg isRoute, if_neg isRoute, ← errors]

/-- Where a route leads to no node, every attachment names the first segment
that the tree lacks. -/
theorem attachErrorView_of_missing {node : RouteNode} {route : List String}
    (missing : node.reach? (route.map some) = none) :
    ∃ front segment rest reached, route = front ++ segment :: rest ∧
      node.reach? (front.map some) = some reached ∧
      reached.branchAt? (some segment) = none ∧
      ∀ view, node.attachErrorView route view =
        .error (reached.missing segment) := by
  induction route generalizing node with
  | nil => cases missing
  | cons first later step =>
    rw [List.map_cons, reach_cons] at missing
    simp only [attachErrorView_cons]
    cases found : node.branchAt? (some first) with
    | none => exact ⟨[], first, later, node, rfl, rfl, found, fun _ => rfl⟩
    | some branch =>
      rw [found, Option.bind_some] at missing
      obtain ⟨front, segment, rest, reached, isSplit, isReached, absent,
        fails⟩ := step missing
      refine ⟨first :: front, segment, rest, reached, ?_, ?_, absent,
        fun view => ?_⟩
      · rw [isSplit, List.cons_append]
      · rw [List.map_cons, reach_cons, found]
        exact isReached
      · simp only [fails view, Except.map]

/-- A failed attachment names the first segment of its route that the tree
lacks. -/
theorem attachErrorView_error {node : RouteNode} {route : List String}
    {view : View}
    {error : RouteError}
    (failed : node.attachErrorView route view = .error error) :
    ∃ front segment rest reached, route = front ++ segment :: rest ∧
      node.reach? (front.map some) = some reached ∧
      reached.branchAt? (some segment) = none ∧
      error = reached.missing segment := by
  have missing : node.reach? (route.map some) = none := by
    rw [← Option.not_isSome_iff_eq_none, ← attachErrorView_ok_iff]
    rintro ⟨result, attached⟩
    rw [failed] at attached
    cases attached
  obtain ⟨front, segment, rest, reached, isSplit, isReached, absent, fails⟩ :=
    attachErrorView_of_missing missing
  rw [fails, Except.error.injEq] at failed
  exact ⟨front, segment, rest, reached, isSplit, isReached, absent, failed.symm⟩

theorem missing_eq_or (node : RouteNode) (segment : String) :
    node.missing segment = .missingChildren node.displayPath segment ∨
      node.missing segment = .missingSegment node.displayPath segment := by
  unfold missing
  split
  · exact Or.inl rfl
  · exact Or.inr rfl

/-- Attachments keep a tree tidy. -/
theorem Tidy.attachErrorView {node result : RouteNode} {route : List String}
    {view : View} (tidy : node.Tidy)
    (attached : node.attachErrorView route view = .ok result) :
    result.Tidy := by
  induction route generalizing node result with
  | nil =>
    cases attached
    exact .intro tidy.index_eq
      ⟨tidy.arranged.notPage, tidy.arranged.children_eq, tidy.arranged.distinct⟩
      fun _ member => tidy.of_mem_branches member
  | cons segment rest step =>
    obtain ⟨branch, changed, found, below, equal⟩ :=
      attachErrorView_cons_ok attached
    have matching :=
      matchesPath_of_attachErrorView (List.find?_some found) below
    subst equal
    rw [tidy.arranged.children_eq, putAt_arrange]
    apply Tidy.furnish _ tidy.index_eq tidy.arranged.notPage
    · intro other member
      rcases mem_putAt member with equal | old
      · exact equal ▸ step (tidy.of_branchAt found) below
      · exact tidy.of_mem_branches old
    · exact nodup_putAt (matchesPath_iff.mp matching).2 tidy.plain
        tidy.arranged.distinct

end RouteNode
end FileRoutes
