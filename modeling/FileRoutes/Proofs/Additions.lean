import FileRoutes.Proofs.Standing

/-!
# What the not-found pass adds

The pass visits the nodes with children, outside index nodes and nodes for
unmatched paths.  It puts an index node before the children of a visited node,
or a node for unmatched paths behind them, and leaves everything else as it was.
Siblings may share their paths, so nodes are found by their positions here.
-/

namespace FileRoutes
namespace RouteNode

/-! ## Addresses -/

/-- The node at an address: the positions, among their siblings, of the nodes on
the way to it. -/
def nodeAt? (tree : RouteNode) : List Nat -> Option RouteNode
  | [] => some tree
  | position :: rest =>
    tree.children[position]?.bind fun child => child.nodeAt? rest

theorem nodeAt_cons (tree : RouteNode) (position : Nat) (rest : List Nat) :
    tree.nodeAt? (position :: rest) =
      tree.children[position]?.bind fun child => child.nodeAt? rest := rfl

/-- The nodes that the pass visits, with their addresses and routes: the root,
and each child with children of its own that is neither an index node nor a node
for unmatched paths. -/
inductive Visited : RouteNode -> List Nat -> List String -> RouteNode -> Prop
  | root (tree : RouteNode) : Visited tree [] [] tree
  | child {tree child node : RouteNode} {position : Nat} {address : List Nat}
      {route : List String} (isChild : tree.children[position]? = some child)
      (notIndex : child.index = false)
      (notCatchAll : child.path ≠ some catchAllPath)
      (nonempty : child.children ≠ [])
      (visited : Visited child address route node) :
      Visited tree (position :: address) (child.path.getD "" :: route) node

/-- The address that a node has after the pass.  Behind a new index child,
positions are larger by one. -/
def moved (isRoot : Bool) (tree : RouteNode) : List Nat -> List Nat
  | [] => []
  | position :: rest =>
    (if !isRoot && tree.needsIndex then position + 1 else position) ::
      match tree.children[position]? with
      | some child =>
        if child.index || child.isCatchAll then rest else child.moved false rest
      | none => rest

/-! ## The children of a completed node -/

/-- What is put before the children of a node. -/
def fore (view : View) (route : List String) (node : RouteNode) :
    List RouteNode :=
  if route ≠ [] ∧ (∀ child ∈ node.children, child.index = false) ∧
      ∃ path ∈ node.path, '/' ∉ path.toList ∧ '?' ∉ path.toList then
    [indexOf (.notFound view)]
  else []

/-- What is put behind the children of a node. -/
def hind (view : View) (node : RouteNode) : List RouteNode :=
  if ∃ child ∈ node.children,
      child.index = false ∧ child.path = some catchAllPath then []
  else [catchAll view]

theorem needsIndex_iff {node : RouteNode} :
    node.needsIndex = true ↔
      (∀ child ∈ node.children, child.index = false) ∧
        ∃ path ∈ node.path, '/' ∉ path.toList ∧ '?' ∉ path.toList := by
  rw [needsIndex, Bool.and_eq_true, and_comm, Bool.not_eq_true', hasIndexChild,
    List.any_eq_false]
  refine and_congr (by simp) ?_
  rw [hasPlainPath]
  cases node.path with
  | none => simp
  | some path => simp

/-- Only below the root does a node get an index in front of its children. -/
theorem fore_eq (view : View) (route : List String) (node : RouteNode) :
    fore view route node =
      if !route.isEmpty && node.needsIndex then [indexOf (.notFound view)]
      else [] := by
  have sameTest : (!route.isEmpty && node.needsIndex) = true ↔
      route ≠ [] ∧ (∀ child ∈ node.children, child.index = false) ∧
        ∃ path ∈ node.path, '/' ∉ path.toList ∧ '?' ∉ path.toList := by
    rw [Bool.and_eq_true, needsIndex_iff]
    simp
  rw [fore, if_congr sameTest rfl rfl]

/-- A node gets a child for unmatched paths behind its children where there is
none. -/
theorem hind_eq (view : View) (node : RouteNode) :
    hind view node =
      if node.children.any isCatchAll then [] else [catchAll view] := by
  have sameTest : node.children.any isCatchAll = true ↔
      ∃ child ∈ node.children, child.index = false ∧
        child.path = some catchAllPath := by
    simp only [List.any_eq_true, isCatchAll, matchesPath_iff]
  rw [hind, if_congr sameTest rfl rfl]

theorem children_withCatchAll (view : View) (node : RouteNode) :
    (node.withCatchAll view).children =
      node.children ++ if node.children.any isCatchAll then []
                       else [catchAll view] := by
  unfold withCatchAll
  split <;> simp

section Finish

variable (views : NotFoundViews) (route : List String) (node : RouteNode)

theorem any_isCatchAll_injectBelow :
    (node.injectBelow views route).children.any isCatchAll =
      node.children.any isCatchAll := by
  rw [injectBelow, List.any_map]
  congr 1
  funext child
  exact matchesPath_injectChild views route (some catchAllPath) child

/-- The children of a completed node are its old ones, each completed in its
turn, between what is put before and behind them. -/
theorem children_finish (visited : route = [] ∨ node.children ≠ []) :
    (finish views route node).children =
      fore (views.nearest (Text.joinSlash route)) route node ++
        node.children.map (injectChild views route) ++
          hind (views.nearest (Text.joinSlash route)) node := by
  have below : (node.injectBelow views route).children =
      node.children.map (injectChild views route) := rfl
  rw [finish, if_pos visited, complete, fore_eq, hind_eq, children_withCatchAll,
    needsIndex_injectBelow, ← any_isCatchAll_injectBelow views route node]
  split
  · rw [withNotFoundIndex, below]
    rfl
  · rw [below]
    rfl

/-- An old child of a completed node stands behind what was put before it. -/
theorem nodeAt_finish_cons (visited : route = [] ∨ node.children ≠ [])
    {position : Nat} {child : RouteNode}
    (isChild : node.children[position]? = some child) (rest : List Nat) :
    (finish views route node).nodeAt?
        ((if !route.isEmpty && node.needsIndex then position + 1
          else position) :: rest) =
      (injectChild views route child).nodeAt? rest := by
  obtain ⟨inBounds, isAt⟩ := List.getElem?_eq_some_iff.mp isChild
  rw [nodeAt_cons, children_finish views route node visited, fore_eq]
  split
  · simp [List.getElem?_append_left, inBounds, isAt]
  · simp [List.getElem?_append_left, inBounds, isAt]

end Finish

/-! ## Nodes that are visited and nodes that are not -/

/-- A step of an address moves by one where an index is put in front, and the
steps below move on their own. -/
theorem moved_cons {tree child : RouteNode} {position : Nat}
    (isChild : tree.children[position]? = some child) (isRoot : Bool)
    (rest : List Nat) :
    tree.moved isRoot (position :: rest) =
      (if !isRoot && tree.needsIndex then position + 1 else position) ::
        if child.index || child.isCatchAll then rest
        else child.moved false rest := by
  rw [moved, isChild]

theorem isCatchAll_eq_false_iff {node : RouteNode}
    (notIndex : node.index = false) :
    node.isCatchAll = false ↔ node.path ≠ some catchAllPath := by
  rw [← Bool.not_eq_true, isCatchAll, matchesPath_iff]
  simp [notIndex]

/-- A child that the pass does not skip is completed at its own route. -/
theorem injectChild_eq_finish (views : NotFoundViews) (route : List String)
    {child : RouteNode} (notIndex : child.index = false)
    (notCatchAll : child.isCatchAll = false) :
    injectChild views route child =
      finish views (route ++ [child.path.getD ""]) child := by
  rw [injectChild, if_neg (by simp [notIndex, notCatchAll]),
    inject_eq_finish views _ child (by simp)]

/-- A visited node is completed where the pass moves it. -/
theorem Visited.nodeAt_moved {tree node : RouteNode} {address : List Nat}
    {route : List String} (visited : Visited tree address route node)
    (views : NotFoundViews) (front : List String)
    (tops : front = [] ∨ tree.children ≠ []) :
    (finish views front tree).nodeAt? (tree.moved front.isEmpty address) =
        some (finish views (front ++ route) node) ∧
      (front ++ route = [] ∨ node.children ≠ []) := by
  induction visited generalizing front with
  | root tree =>
    rw [List.append_nil]
    exact ⟨rfl, tops⟩
  | @child tree child node position address route isChild notIndex
      notCatchAll nonempty visited step =>
    have unskipped := (isCatchAll_eq_false_iff notIndex).mpr notCatchAll
    have inner : (front ++ [child.path.getD ""]).isEmpty = false := by simp
    have below := step (front ++ [child.path.getD ""]) (Or.inr nonempty)
    rw [inner, List.append_assoc, List.singleton_append] at below
    rw [moved_cons isChild, nodeAt_finish_cons views front tree tops isChild,
      injectChild_eq_finish views front notIndex unskipped,
      if_neg (by simp [notIndex, unskipped])]
    exact below

/-- A node that is not visited is left as it was. -/
theorem nodeAt_moved_of_not_visited {tree node : RouteNode} {address : List Nat}
    (found : tree.nodeAt? address = some node)
    (unvisited : ¬∃ route, Visited tree address route node)
    (views : NotFoundViews) (front : List String)
    (tops : front = [] ∨ tree.children ≠ []) :
    (finish views front tree).nodeAt? (tree.moved front.isEmpty address) =
      some node := by
  induction address generalizing tree front with
  | nil =>
    obtain rfl : tree = node := Option.some.inj found
    exact absurd ⟨[], .root tree⟩ unvisited
  | cons position rest step =>
    obtain ⟨child, isChild, deeper⟩ := Option.bind_eq_some_iff.mp found
    rw [moved_cons isChild, nodeAt_finish_cons views front tree tops isChild]
    by_cases skipped : child.index || child.isCatchAll
    · rw [if_pos skipped, injectChild, if_pos skipped]
      exact deeper
    · obtain ⟨notIndex, unskipped⟩ :
          child.index = false ∧ child.isCatchAll = false := by
        simpa using skipped
      rw [if_neg skipped, injectChild_eq_finish views front notIndex unskipped]
      by_cases childless : child.children = []
      · -- Nothing is below a child without children, and it is not visited
        -- itself.
        have atEnd : rest = [] := by
          cases rest with
          | nil => rfl
          | cons next later =>
            rw [nodeAt_cons, childless] at deeper
            cases deeper
        rw [finish, if_neg (by simp [childless]), atEnd]
        rw [atEnd] at deeper
        exact deeper
      · have inner : (front ++ [child.path.getD ""]).isEmpty = false := by simp
        have below :=
          step deeper ?_ (front ++ [child.path.getD ""]) (Or.inr childless)
        · rwa [inner] at below
        · rintro ⟨route, visited⟩
          have notCatchAll := (isCatchAll_eq_false_iff notIndex).mp unskipped
          exact unvisited
            ⟨_, .child isChild notIndex notCatchAll childless visited⟩

/-- An address that goes on below a visited node moves in two parts. -/
theorem Visited.moved_append {tree node : RouteNode} {address : List Nat}
    {route : List String} (visited : Visited tree address route node)
    (isRoot : Bool) (rest : List Nat) :
    tree.moved isRoot (address ++ rest) =
      tree.moved isRoot address ++ node.moved (isRoot &&
        address.isEmpty) rest := by
  induction visited generalizing isRoot with
  | root tree => simp [moved]
  | @child tree child node position address route isChild notIndex
      notCatchAll nonempty visited step =>
    have unskipped := (isCatchAll_eq_false_iff notIndex).mpr notCatchAll
    have proceeds : ¬(child.index || child.isCatchAll) = true := by
      simp [notIndex, unskipped]
    rw [List.cons_append, moved_cons isChild, moved_cons isChild,
      if_neg proceeds, if_neg proceeds, step false, List.cons_append]
    simp

theorem Visited.isEmpty_address {tree node : RouteNode} {address : List Nat}
    {route : List String} (visited : Visited tree address route node) :
    address.isEmpty = route.isEmpty := by
  cases visited <;> rfl

theorem moved_singleton (isRoot : Bool) (tree : RouteNode) (position : Nat) :
    tree.moved isRoot [position] =
      [if !isRoot && tree.needsIndex then position + 1 else position] := by
  rw [moved]
  cases tree.children[position]? with
  | none => rfl
  | some child => simp [moved]

/-- The children of a visited node move behind what is put before them. -/
theorem Visited.moved_child {tree node : RouteNode} {address : List Nat}
    {route : List String} (visited : Visited tree address route node)
    (view : View) (position : Nat) :
    tree.moved true (address ++ [position]) =
      tree.moved true address ++ [(fore view route node).length + position] := by
  rw [visited.moved_append, visited.isEmpty_address, Bool.true_and,
    moved_singleton, fore_eq]
  split
  · rw [List.length_singleton, Nat.add_comm]
  · rw [List.length_nil, Nat.zero_add]

/-- A visited node stands at its address. -/
theorem Visited.nodeAt_eq {tree node : RouteNode} {address : List Nat}
    {route : List String} (visited : Visited tree address route node) :
    tree.nodeAt? address = some node := by
  induction visited with
  | root tree => rfl
  | child isChild notIndex notCatchAll nonempty visited step =>
    rw [nodeAt_cons, isChild]
    exact step

/-! ## The whole pass -/

/-- The pass adds nodes and changes nothing else.  A root without children first
moves its content into an index child.  Then every node keeps its own fields, at
an address that is larger only behind new index children.  A visited node keeps
its children, in their order, between what it gains: an index node in front if
it is not the root, has no index child, and has a path without a slash and a
question mark; and a node for unmatched paths at the end if it has none.  Both
show the nearest not-found view.  All other nodes are as before, with everything
below them. -/
theorem addNotFound_extends (views : NotFoundViews) (tree : RouteNode) :
    (tree.children = [] -> ∀ content, tree.content = some content ->
      tree.openRoot =
        { tree with content := none, children := [indexOf content] }) ∧
    (tree.children ≠ [] ∨ tree.content = none -> tree.openRoot = tree) ∧
    (∀ address route node, Visited tree.openRoot address route node ->
      tree.openRoot.nodeAt? address = some node ∧
      ∃ after kept,
        (tree.addNotFound views).nodeAt? (tree.openRoot.moved true address) =
          some after ∧
        SameHead after node ∧
        after.children =
          fore (views.nearest (Text.joinSlash route)) route node ++ kept ++
            hind (views.nearest (Text.joinSlash route)) node ∧
        kept.length = node.children.length ∧
        ∀ position,
          tree.openRoot.moved true (address ++ [position]) =
            tree.openRoot.moved true address ++
              [(fore (views.nearest (Text.joinSlash route)) route node).length +
                position]) ∧
    ∀ address node, tree.openRoot.nodeAt? address = some node ->
      (¬∃ route, Visited tree.openRoot address route node) ->
      (tree.addNotFound views).nodeAt? (tree.openRoot.moved true address) =
        some node := by
  refine ⟨fun childless content held => openRoot_of_leaf childless held, ?_,
    ?_, ?_⟩
  · rintro (nonempty | bare)
    · exact openRoot_of_children nonempty
    · exact openRoot_of_bare bare
  · intro address route node visited
    obtain ⟨stands, tops⟩ := visited.nodeAt_moved views [] (Or.inl rfl)
    rw [← addNotFound_eq_finish] at stands
    refine ⟨visited.nodeAt_eq, _, node.children.map (injectChild views route),
      stands, sameHead_finish views route node,
      children_finish views route node tops, List.length_map _, fun position =>
        visited.moved_child _ position⟩
  · intro address node found unvisited
    rw [addNotFound_eq_finish]
    exact nodeAt_moved_of_not_visited found unvisited views [] (Or.inl rfl)

/-- A folder with an optional parameter below it. -/
def manual : RouteNode :=
  { ofPath "docs" with
    children := [{ ofPath "[page?]" with children := [ofPath "edit"] }] }

/-- Two folders of one name beside a folder that is called like the nodes for
unmatched paths. -/
def annex : RouteNode :=
  { root with
    children :=
      [manual, ofPath "docs",
        { ofPath catchAllPath with children := [manual] }] }

theorem addNotFound_extends_annex :
    (({ root with content := some (.notFound default) } : RouteNode).openRoot =
      { root with children := [indexOf (.notFound default)] }) ∧
    (Visited annex.openRoot [0] ["docs"] manual ∧ ∃ after kept,
      (annex.addNotFound {}).nodeAt? [0] = some after ∧
      after.children =
        [indexOf (.notFound (.builtin .notFound))] ++ kept ++
          [catchAll (.builtin .notFound)] ∧
      kept.length = 1) ∧
    annex.openRoot.nodeAt? [2, 0] = some manual ∧
    (¬∃ route, Visited annex.openRoot [2, 0] route manual) ∧
    (annex.addNotFound {}).nodeAt? [2, 0] = some manual := by
  refine ⟨?_, ?_, rfl, ?_⟩
  · exact (addNotFound_extends {} { root with
      content := some (.notFound default) }).1 rfl
      _ rfl
  · have visited : Visited annex.openRoot [0] ["docs"] manual :=
      .child rfl rfl (by decide) (by simp [manual]) (.root manual)
    obtain ⟨_, after, kept, stands, _, children, length, _⟩ :=
      (addNotFound_extends {} annex).2.2.1 [0] ["docs"] manual visited
    have nearest : NotFoundViews.nearest {} (Text.joinSlash ["docs"]) =
        .builtin .notFound := by
      decide +kernel
    have gainsIndex : fore (.builtin .notFound) ["docs"] manual =
        [indexOf (.notFound (.builtin .notFound))] := if_pos (by decide)
    have gainsCatchAll : hind (.builtin .notFound) manual =
        [catchAll (.builtin .notFound)] := if_neg (by decide)
    rw [nearest, gainsIndex, gainsCatchAll] at children
    exact ⟨visited, after, kept, stands, children, length⟩
  · have unvisited : ¬∃ route, Visited annex.openRoot [2, 0] route manual := by
      rintro ⟨route, visited⟩
      cases visited with
      | child isChild notIndex notCatchAll nonempty visited =>
        cases isChild
        exact notCatchAll rfl
    exact ⟨unvisited,
      (addNotFound_extends {} annex).2.2.2 [2, 0] manual rfl unvisited⟩

end RouteNode
end FileRoutes
