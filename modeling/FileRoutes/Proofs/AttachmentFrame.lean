import FileRoutes.Proofs.Additions

/-!
# What an attachment leaves alone

An error view is put on one node: the one that the first children with the paths
of the route lead to.  Every other node stays as it is, in any tree, also where
siblings share their paths.  So attachments at different routes do not disturb
each other, and they do not disturb the not-found pass.
-/

namespace FileRoutes
namespace RouteNode

/-- A node without its children. -/
def childless (node : RouteNode) : RouteNode :=
  { node with children := [] }

/-- The address of the node at a route, which follows the first child with each
path. -/
def addressOf? (tree : RouteNode) : List String -> Option (List Nat)
  | [] => some []
  | segment :: rest =>
    (tree.children.findIdx? (matchesPath (some segment))).bind fun position =>
      tree.children[position]?.bind fun child =>
        (child.addressOf? rest).map fun address => position :: address

/-! ## Addresses of routes -/

theorem exists_position_of_branchAt {node branch : RouteNode}
    {path : Option String} (found : node.branchAt? path = some branch) :
    ∃ position, node.children.findIdx? (matchesPath path) = some position ∧
      node.children[position]? = some branch := by
  rw [branchAt?, List.find?_eq_bind_findIdx?_getElem?] at found
  exact Option.bind_eq_some_iff.mp found

theorem path_of_findIdx {children : List RouteNode} {child : RouteNode}
    {path : Option String} {position : Nat}
    (isFirst : children.findIdx? (matchesPath path) = some position)
    (isChild : children[position]? = some child) : child.path = path := by
  obtain ⟨inBounds, matching, _⟩ := List.findIdx?_eq_some_iff_getElem.mp isFirst
  rw [List.getElem?_eq_getElem inBounds, Option.some.injEq] at isChild
  rw [isChild] at matching
  exact (matchesPath_iff.mp matching).2

theorem addressOf_cons {tree branch : RouteNode} {segment : String}
    {position : Nat}
    (isFirst : tree.children.findIdx? (matchesPath (some segment)) =
      some position)
    (isChild : tree.children[position]? = some branch) (rest : List String) :
    tree.addressOf? (segment :: rest) =
      (branch.addressOf? rest).map fun address => position :: address := by
  rw [addressOf?, isFirst, Option.bind_some, isChild, Option.bind_some]

/-- The node at the address of a route is the one that the route leads to. -/
theorem exists_address_of_descendant {tree node : RouteNode}
    {route : List String} (found : tree.descendant? route = some node) :
    ∃ address, tree.addressOf? route = some address ∧
      tree.nodeAt? address = some node := by
  induction route generalizing tree with
  | nil => exact ⟨[], rfl, found⟩
  | cons segment rest step =>
    rw [descendant?, child_eq_branchAt] at found
    cases isBranch : tree.branchAt? (some segment) with
    | none =>
      rw [isBranch] at found
      cases found
    | some branch =>
      simp only [isBranch] at found
      obtain ⟨position, isFirst, isChild⟩ :=
        exists_position_of_branchAt isBranch
      obtain ⟨address, isAddress, isNode⟩ := step found
      refine ⟨position :: address, ?_, ?_⟩
      · rw [addressOf_cons isFirst isChild, isAddress, Option.map_some]
      · rw [nodeAt_cons, isChild]
        exact isNode

/-- Different routes have different addresses. -/
theorem route_eq_of_addressOf_eq {tree : RouteNode} {left right : List String}
    {address : List Nat} (isLeft : tree.addressOf? left = some address)
    (isRight : tree.addressOf? right = some address) : left = right := by
  induction left generalizing tree right address with
  | nil =>
    cases isLeft
    cases right with
    | nil => rfl
    | cons segment rest =>
      simp [addressOf?, Option.bind_eq_some_iff] at isRight
  | cons segment rest step =>
    simp only [addressOf?, Option.bind_eq_some_iff, Option.map_eq_some_iff]
      at isLeft
    obtain ⟨position, isFirst, child, isChild, below, isBelow, rfl⟩ := isLeft
    cases right with
    | nil => cases isRight
    | cons other later =>
      simp only [addressOf?, Option.bind_eq_some_iff, Option.map_eq_some_iff,
        List.cons.injEq] at isRight
      obtain ⟨place, isOther, twin, isTwin, deeper, isDeeper, rfl, rfl⟩ :=
        isRight
      obtain rfl : child = twin := Option.some.inj (isChild.symm.trans isTwin)
      have samePath := (path_of_findIdx isFirst isChild).symm.trans
        (path_of_findIdx isOther isChild)
      rw [Option.some.inj samePath, step isBelow isDeeper]

/-- Children at a position that agree at every address are both missing or both
there. -/
theorem children_agree {β : Type} {read : RouteNode -> β}
    {left right : Option RouteNode}
    (same : ∀ rest, (left.bind fun child => child.nodeAt? rest).map read =
      (right.bind fun child => child.nodeAt? rest).map read) :
    left = none ∧ right = none ∨
      ∃ child other, left = some child ∧ right = some other ∧
        ∀ rest, (child.nodeAt? rest).map read =
          (other.nodeAt? rest).map read := by
  cases left with
  | none =>
    cases right with
    | none => exact Or.inl ⟨rfl, rfl⟩
    | some other => cases same []
  | some child =>
    cases right with
    | none => cases same []
    | some other => exact Or.inr ⟨child, other, rfl, rfl, same⟩

/-- Trees are equal when their nodes at every address are, apart from their
children. -/
theorem eq_of_childless_nodeAt {left right : RouteNode}
    (same : ∀ address, (left.nodeAt? address).map childless =
      (right.nodeAt? address).map childless) : left = right := by
  induction left using induction_on_children generalizing right with
  | step left below =>
    have sameOwn : left.childless = right.childless := Option.some.inj (same [])
    have sameChildren : left.children = right.children := by
      apply List.ext_getElem?
      intro position
      rcases children_agree fun rest => same (position :: rest) with
        ⟨noLeft, noRight⟩ | ⟨child, other, isLeft, isRight, agree⟩
      · rw [noLeft, noRight]
      · rw [isLeft, isRight, below child (List.mem_of_getElem? isLeft) agree]
    cases left
    cases right
    simp_all [childless]

/-- What tells whether a node is the child for a path. -/
def key (node : RouteNode) : Bool × Option String :=
  (node.index, node.path)

/-- Trees with the same keys at every address have the same addresses for
routes. -/
theorem addressOf_eq_of_key {left right : RouteNode}
    (same : ∀ address, (left.nodeAt? address).map key =
      (right.nodeAt? address).map key)
    (route : List String) : left.addressOf? route = right.addressOf? route := by
  induction route generalizing left right with
  | nil => rfl
  | cons segment rest step =>
    have sameKeys : left.children.map key = right.children.map key := by
      apply List.ext_getElem?
      intro position
      rw [List.getElem?_map, List.getElem?_map]
      rcases children_agree fun rest => same (position :: rest) with
        ⟨noLeft, noRight⟩ | ⟨child, other, isLeft, isRight, agree⟩
      · rw [noLeft, noRight]
      · rw [isLeft, isRight]
        exact agree []
    have byKey (forest : List RouteNode) :
        forest.findIdx? (matchesPath (some segment)) =
          (forest.map key).findIdx? fun key =>
            !key.1 && key.2 == some segment := by
      rw [List.findIdx?_map]
      rfl
    rw [addressOf?, addressOf?, byKey, byKey, sameKeys]
    apply Option.bind_congr
    intro position _
    rcases children_agree fun rest => same (position :: rest) with
      ⟨noLeft, noRight⟩ | ⟨child, other, isLeft, isRight, agree⟩
    · rw [noLeft, noRight]
    · rw [isLeft, isRight, Option.bind_some, Option.bind_some, step agree]

/-! ## One attachment -/

theorem putAt_eq_set {path : Option String} {branches : List RouteNode}
    {position : Nat}
    (isFirst : branches.findIdx? (matchesPath path) = some position)
    (node : RouteNode) :
    putAt path node branches = branches.set position node := by
  induction branches generalizing position with
  | nil => cases isFirst
  | cons first rest step =>
    rw [List.findIdx?_cons] at isFirst
    rw [putAt]
    by_cases matching : first.matchesPath path = true
    · rw [if_pos matching] at isFirst
      cases isFirst
      rw [if_pos matching, List.set_cons_zero]
    · rw [if_neg matching] at isFirst
      obtain ⟨later, isLater, rfl⟩ := Option.map_eq_some_iff.mp isFirst
      rw [if_neg matching, List.set_cons_succ, step isLater]

/-- An attachment changes the error view at the address of its route, and no
other node. -/
theorem childless_nodeAt_attachErrorView {node result : RouteNode}
    {route : List String} {view : View}
    (attached : node.attachErrorView route view = .ok result)
    {address : List Nat} (isAddress : node.addressOf? route = some address)
    (other : List Nat) :
    (result.nodeAt? other).map childless =
      if other = address then
        ((node.nodeAt? other).map childless).map fun guarded =>
          { guarded with error := some view }
      else (node.nodeAt? other).map childless := by
  induction route generalizing node result address other with
  | nil =>
    cases attached
    cases isAddress
    cases other with
    | nil => rfl
    | cons position rest => rfl
  | cons segment rest step =>
    obtain ⟨branch, changed, found, below, rfl⟩ :=
      attachErrorView_cons_ok attached
    obtain ⟨position, isFirst, isChild⟩ := exists_position_of_branchAt found
    rw [addressOf_cons isFirst isChild] at isAddress
    obtain ⟨inner, isInner, rfl⟩ := Option.map_eq_some_iff.mp isAddress
    rw [putAt_eq_set isFirst]
    cases other with
    | nil => rfl
    | cons first deeper =>
      rw [nodeAt_cons, nodeAt_cons, List.getElem?_set]
      by_cases here : position = first
      · subst here
        have inBounds := (List.getElem?_eq_some_iff.mp isChild).1
        rw [if_pos rfl, if_pos inBounds, isChild, Option.bind_some,
          Option.bind_some, step below isInner deeper]
        simp
      · rw [if_neg here, if_neg]
        exact fun same => here (List.cons.inj same).1.symm

/-- An attachment leaves the address of every route as it is. -/
theorem addressOf_attachErrorView {node result : RouteNode}
    {route : List String} {view : View}
    (attached : node.attachErrorView route view = .ok result)
    {address : List Nat} (isAddress : node.addressOf? route = some address)
    (other : List String) :
    result.addressOf? other = node.addressOf? other := by
  have keys (place : Option RouteNode) :
      place.map key = (place.map childless).map key := by
    cases place <;> rfl
  apply addressOf_eq_of_key
  intro reached
  rw [keys, childless_nodeAt_attachErrorView attached isAddress]
  split
  · cases node.nodeAt? reached <;> rfl
  · rw [← keys]

/-- An attachment leads to no new route and loses none. -/
theorem isSome_descendant_attachErrorView {node result : RouteNode}
    {route : List String} {view : View}
    (attached : node.attachErrorView route view = .ok result)
    (other : List String) :
    (result.descendant? other).isSome = (node.descendant? other).isSome := by
  rw [descendant_eq_reach, descendant_eq_reach,
    reach_isSome_attachErrorView attached]

/-- An attachment succeeds at the address of its route. -/
theorem exists_attached_of_descendant {node : RouteNode} {route : List String}
    (leads : (node.descendant? route).isSome = true) (view : View) :
    ∃ result address, node.attachErrorView route view = .ok result ∧
      node.addressOf? route = some address := by
  obtain ⟨reached, isReached⟩ := Option.isSome_iff_exists.mp leads
  obtain ⟨address, isAddress, _⟩ := exists_address_of_descendant isReached
  rw [descendant_eq_reach] at leads
  obtain ⟨result, attached⟩ := attachErrorView_ok_iff.mpr leads
  exact ⟨result, address, attached, isAddress⟩

/-! ## Two attachments -/

/-- Attachments at two routes of a tree can be made in either order. -/
theorem attachErrorView_comm {tree : RouteNode} {left right : List String}
    (apart : left ≠ right) (leftLeads : (tree.descendant? left).isSome = true)
    (rightLeads : (tree.descendant? right).isSome = true)
    (leftView rightView : View) :
    (tree.attachErrorView left leftView >>= fun changed =>
        changed.attachErrorView right rightView) =
      tree.attachErrorView right rightView >>= fun changed =>
        changed.attachErrorView left leftView := by
  obtain ⟨leftFirst, here, isLeftFirst, isHere⟩ :=
    exists_attached_of_descendant leftLeads leftView
  obtain ⟨rightFirst, there, isRightFirst, isThere⟩ :=
    exists_attached_of_descendant rightLeads rightView
  have sameRight := addressOf_attachErrorView isLeftFirst isHere right
  have sameLeft := addressOf_attachErrorView isRightFirst isThere left
  rw [← isSome_descendant_attachErrorView isLeftFirst] at rightLeads
  rw [← isSome_descendant_attachErrorView isRightFirst] at leftLeads
  obtain ⟨rightLast, _, isRightLast, _⟩ :=
    exists_attached_of_descendant rightLeads rightView
  obtain ⟨leftLast, _, isLeftLast, _⟩ :=
    exists_attached_of_descendant leftLeads leftView
  rw [isThere] at sameRight
  rw [isHere] at sameLeft
  have distinct : here ≠ there := by
    rintro rfl
    exact apart (route_eq_of_addressOf_eq isHere isThere)
  have same : rightLast = leftLast := by
    apply eq_of_childless_nodeAt
    intro address
    rw [childless_nodeAt_attachErrorView isRightLast sameRight,
      childless_nodeAt_attachErrorView isLeftLast sameLeft,
      childless_nodeAt_attachErrorView isLeftFirst isHere,
      childless_nodeAt_attachErrorView isRightFirst isThere]
    by_cases atThere : address = there
    · subst atThere
      simp [distinct.symm]
    · simp [atThere]
  rw [isLeftFirst, isRightFirst]
  exact isRightLast.trans ((congrArg _ same).trans isLeftLast.symm)

/-- The last attachment at a route wins. -/
theorem attachErrorView_twice (tree : RouteNode) (route : List String)
    (earlier later : View) :
    (tree.attachErrorView route earlier >>= fun changed =>
        changed.attachErrorView route later) =
      tree.attachErrorView route later := by
  by_cases leads : (tree.descendant? route).isSome = true
  · obtain ⟨first, address, isFirst, isAddress⟩ :=
      exists_attached_of_descendant leads earlier
    obtain ⟨only, _, isOnly, _⟩ := exists_attached_of_descendant leads later
    have sameAddress := addressOf_attachErrorView isFirst isAddress route
    rw [isAddress] at sameAddress
    rw [← isSome_descendant_attachErrorView isFirst] at leads
    obtain ⟨last, _, isLast, _⟩ := exists_attached_of_descendant leads later
    have same : last = only := by
      apply eq_of_childless_nodeAt
      intro reached
      rw [childless_nodeAt_attachErrorView isLast sameAddress,
        childless_nodeAt_attachErrorView isOnly isAddress,
        childless_nodeAt_attachErrorView isFirst isAddress]
      by_cases here : reached = address
      · simp [here, Function.comp_def]
      · simp [here]
    rw [isFirst, isOnly]
    exact isLast.trans (congrArg _ same)
  · rw [descendant_eq_reach, Option.not_isSome_iff_eq_none] at leads
    obtain ⟨_, segment, _, parent, _, _, _, fails⟩ :=
      attachErrorView_of_missing leads
    rw [fails, fails]
    rfl

/-! ## Attachments and the not-found pass -/

section PutAt

variable {path : Option String} {node branch : RouteNode}
  {branches : List RouteNode}
  (found : branches.find? (matchesPath path) = some branch)

include found

/-- What is read off the first branch with a path and off the node in its place
alike is read off all branches alike. -/
theorem map_putAt {β : Type} {read : RouteNode -> β}
    (same : read node = read branch) :
    (putAt path node branches).map read = branches.map read := by
  induction branches with
  | nil => cases found
  | cons first rest step =>
    rw [putAt]
    by_cases matching : first.matchesPath path = true
    · rw [List.find?_cons_of_pos matching] at found
      cases found
      rw [if_pos matching, List.map_cons, List.map_cons, same]
    · rw [List.find?_cons_of_neg matching] at found
      rw [if_neg matching, List.map_cons, List.map_cons, step found]

/-- Nodes behind the first branch with a path stay behind it. -/
theorem putAt_append (behind : List RouteNode) :
    putAt path node (branches ++ behind) =
      putAt path node branches ++ behind := by
  induction branches with
  | nil => cases found
  | cons first rest step =>
    rw [List.cons_append, putAt, putAt]
    by_cases matching : first.matchesPath path = true
    · rw [if_pos matching, if_pos matching, List.cons_append]
    · rw [List.find?_cons_of_neg matching] at found
      rw [if_neg matching, if_neg matching, List.cons_append, step found]

end PutAt

/-- Index nodes before the branches stay before them. -/
theorem putAt_index_append {front : List RouteNode}
    (index : ∀ child ∈ front, child.index = true) (path : Option String)
    (node : RouteNode) (branches : List RouteNode) :
    putAt path node (front ++ branches) =
      front ++ putAt path node branches := by
  induction front with
  | nil => rfl
  | cons first rest step =>
    have apart : ¬first.matchesPath path = true := by
      rw [matchesPath_iff, index first List.mem_cons_self]
      simp
    rw [List.cons_append, putAt, if_neg apart, List.cons_append,
      step fun child member => index child (List.mem_cons_of_mem first member)]

theorem putAt_map {change : RouteNode -> RouteNode}
    (samePath : ∀ path child, (change child).matchesPath path =
      child.matchesPath path)
    (path : Option String) (node : RouteNode) (branches : List RouteNode) :
    putAt path (change node) (branches.map change) =
      (putAt path node branches).map change := by
  induction branches with
  | nil => rfl
  | cons first rest step =>
    rw [List.map_cons, putAt, putAt, samePath, step]
    split <;> rfl

theorem SameHead.eq_of_children {left right : RouteNode}
    (sameHead : SameHead left right)
    (sameChildren : left.children = right.children) : left = right := by
  cases left
  cases right
  obtain ⟨samePath, sameIndex, sameDynamic, sameContent, sameError⟩ := sameHead
  simp_all

section Finish

variable (views : NotFoundViews) (route : List String) {node branch : RouteNode}

/-- A node that the pass visits gets new children around the completed old
ones. -/
theorem finish_of_visited (visited : route = [] ∨ node.children ≠ []) :
    finish views route node =
      { node with
        children :=
          fore (views.nearest (Text.joinSlash route)) route node ++
            node.children.map (injectChild views route) ++
              hind (views.nearest (Text.joinSlash route)) node } := by
  apply SameHead.eq_of_children
  · exact (sameHead_finish views route node).trans ⟨rfl, rfl, rfl, rfl, rfl⟩
  · exact children_finish views route node visited

/-- The pass does not look at the error view of the node that it completes. -/
theorem finish_error (view : View) :
    finish views route { node with error := some view } =
      { finish views route node with error := some view } := by
  by_cases visited : route = [] ∨ node.children ≠ []
  · rw [finish_of_visited views route visited, finish_of_visited]
    · rfl
    · exact visited
  · rw [finish, if_neg visited, finish, if_neg visited]

/-- What the pass puts around children depends on their keys only. -/
theorem fore_of_keys (view : View) {children : List RouteNode}
    (sameKeys : children.map key = node.children.map key) :
    fore view route { node with children := children } =
      fore view route node := by
  have byKey (forest : List RouteNode) :
      forest.any RouteNode.index = (forest.map key).any Prod.fst := by
    rw [List.any_map]
    rfl
  rw [fore_eq, fore_eq, needsIndex, needsIndex, hasIndexChild, hasIndexChild,
    byKey, byKey, sameKeys]
  rfl

theorem hind_of_keys (view : View) {children : List RouteNode}
    (sameKeys : children.map key = node.children.map key) :
    hind view { node with children := children } = hind view node := by
  have byKey (forest : List RouteNode) : forest.any isCatchAll =
      (forest.map key).any fun key => !key.1 && key.2 == some catchAllPath := by
    rw [List.any_map]
    rfl
  rw [hind_eq, hind_eq, byKey, byKey, sameKeys]

theorem index_of_mem_fore {view : View} {child : RouteNode}
    (member : child ∈ fore view route node) : child.index = true := by
  unfold fore at member
  split at member
  · rw [List.mem_singleton.mp member]
    rfl
  · cases member

/-- The pass completes a node with a branch put in place like one with the
branch that was there. -/
theorem finish_putAt {path : Option String}
    (found : node.branchAt? path = some branch) {changed : RouteNode}
    (sameKey : changed.key = branch.key) :
    finish views route { node with
      children := putAt path changed node.children } =
      { finish views route node with
        children := putAt path (injectChild views route changed)
          (finish views route node).children } := by
  have sameKeys := map_putAt found sameKey
  have nonempty : node.children ≠ [] :=
    List.ne_nil_of_mem (List.mem_of_find?_eq_some found)
  have stillNonempty : putAt path changed node.children ≠ [] := fun empty =>
    nonempty (List.map_eq_nil_iff.mp (sameKeys.symm.trans (empty ▸ rfl)))
  have injected :
      (node.children.map (injectChild views route)).find? (matchesPath path) =
        some (injectChild views route branch) := by
    have sameBranch := branchAt_injectBelow views route node path
    rw [found, Option.map_some] at sameBranch
    exact sameBranch
  rw [finish_of_visited views route (Or.inr nonempty),
    finish_of_visited views route (Or.inr stillNonempty),
    fore_of_keys route _ sameKeys, hind_of_keys _ sameKeys]
  simp only [List.append_assoc]
  rw [putAt_index_append fun child member => index_of_mem_fore route member,
    putAt_append injected, putAt_map fun path =>
      matchesPath_injectChild views route path]

end Finish

/-- An attachment at a node of the tree can be made before or after the node is
completed. -/
theorem attachErrorView_finish (views : NotFoundViews) (front : List String)
    {node : RouteNode} {route : List String}
    (leads : (node.descendant? route).isSome = true) (view : View) :
    (finish views front node).attachErrorView route view =
      (node.attachErrorView route view).map (finish views front) := by
  induction route generalizing node front with
  | nil =>
    rw [attachErrorView_nil, attachErrorView_nil, Except.map, finish_error]
  | cons segment rest step =>
    rw [descendant?, child_eq_branchAt] at leads
    cases found : node.branchAt? (some segment) with
    | none =>
      rw [found] at leads
      cases leads
    | some branch =>
      simp only [found] at leads
      obtain ⟨changed, _, attached, _⟩ :=
        exists_attached_of_descendant leads view
      obtain ⟨samePath, sameIndex⟩ := attachErrorView_path attached
      have sameKey : changed.key = branch.key := by
        rw [key, key, samePath, sameIndex]
      have sameTest : changed.isCatchAll = branch.isCatchAll := by
        rw [isCatchAll, isCatchAll, matchesPath, matchesPath,
          samePath, sameIndex]
      have below : (injectChild views front branch).attachErrorView rest view =
          .ok (injectChild views front changed) := by
        by_cases skipped : branch.isCatchAll = true
        · rw [injectChild, injectChild, sameTest, skipped, Bool.or_true,
            Bool.or_true]
          exact attached
        · have notIndex := (matchesPath_iff.mp (List.find?_some found)).1
          rw [Bool.not_eq_true] at skipped
          rw [injectChild_eq_finish views front notIndex skipped,
            injectChild_eq_finish views front (sameIndex.trans notIndex)
              (sameTest.trans skipped), step _ leads, attached, samePath]
          rfl
      rw [attachErrorView_cons, attachErrorView_cons, branchAt_finish, found,
        Option.map_some, Option.some_or]
      simp only [below, attached, Except.map]
      rw [finish_putAt views front found sameKey]

theorem openRoot_error (node : RouteNode) (view : View) :
    openRoot { node with error := some view } =
      { node.openRoot with error := some view } := by
  simp only [openRoot]
  split <;> rfl

/-- An attachment below a node leaves the node its content and some children. -/
theorem openRoot_attachErrorView {node result : RouteNode} {segment : String}
    {rest : List String} {view : View}
    (attached : node.attachErrorView (segment :: rest) view = .ok result) :
    node.openRoot = node ∧ result.openRoot = result := by
  obtain ⟨branch, changed, found, _, rfl⟩ := attachErrorView_cons_ok attached
  obtain ⟨position, isFirst, isChild⟩ := exists_position_of_branchAt found
  have inBounds := (List.getElem?_eq_some_iff.mp isChild).1
  refine ⟨openRoot_of_children (List.ne_nil_of_length_pos (by omega)),
    openRoot_of_children (List.ne_nil_of_length_pos ?_)⟩
  simp only [putAt_eq_set isFirst, List.length_set]
  omega

/-- An attachment at a node of the tree can be made before or after the
not-found pass. -/
theorem attachErrorView_addNotFound (views : NotFoundViews) {tree : RouteNode}
    {route : List String} (leads : (tree.descendant? route).isSome = true)
    (view : View) :
    (tree.addNotFound views).attachErrorView route view =
      (tree.attachErrorView route view).map (addNotFound views) := by
  cases route with
  | nil =>
    rw [attachErrorView_nil, attachErrorView_nil, Except.map,
      addNotFound_eq_finish, addNotFound_eq_finish, openRoot_error,
      finish_error]
  | cons segment rest =>
    obtain ⟨result, _, attached, _⟩ := exists_attached_of_descendant leads view
    obtain ⟨sameTree, sameResult⟩ := openRoot_attachErrorView attached
    rw [addNotFound_eq_finish, sameTree, attachErrorView_finish views [] leads,
      attached, Except.map, Except.map, addNotFound_eq_finish, sameResult]

/-! ## What an attachment does -/

/-- An attachment changes one field of one node.  It succeeds exactly where the
route leads to a node, which it then gives the error view; every node at another
address keeps its own fields, and no node comes or goes.  Where the route leads
nowhere, it names the deepest node on the way and the first segment that this
node has no child for.  The last attachment at a route wins, attachments at two
routes of the tree commute, and an attachment at a route of the tree commutes
with the not-found pass. -/
theorem attachErrorView_frame (tree : RouteNode) (route : List String)
    (view : View) :
    ((∃ result, tree.attachErrorView route view = .ok result) ↔
      (tree.descendant? route).isSome = true) ∧
    (∀ result, tree.attachErrorView route view = .ok result ->
      ∃ address, tree.addressOf? route = some address ∧
        tree.nodeAt? address = tree.descendant? route ∧
        ∀ other, (result.nodeAt? other).map childless =
          if other = address then
            ((tree.nodeAt? other).map childless).map fun guarded =>
              { guarded with error := some view }
          else (tree.nodeAt? other).map childless) ∧
    (tree.descendant? route = none -> ∃ front segment rest parent,
      route = front ++ segment :: rest ∧ tree.descendant? front = some parent ∧
        parent.child? segment = none ∧
        tree.attachErrorView route view = .error
          (if parent.children = [] then
            .missingChildren parent.displayPath segment
          else .missingSegment parent.displayPath segment)) ∧
    (∀ earlier,
      (tree.attachErrorView route earlier >>= fun changed =>
          changed.attachErrorView route view) =
        tree.attachErrorView route view) ∧
    ((tree.descendant? route).isSome = true ->
      (∀ otherRoute otherView, otherRoute ≠ route ->
        (tree.descendant? otherRoute).isSome = true ->
          (tree.attachErrorView route view >>= fun changed =>
              changed.attachErrorView otherRoute otherView) =
            tree.attachErrorView otherRoute otherView >>= fun changed =>
              changed.attachErrorView route view) ∧
      ∀ views, (tree.addNotFound views).attachErrorView route view =
        (tree.attachErrorView route view).map (addNotFound views)) := by
  refine ⟨?_, ?_, ?_, fun earlier =>
    attachErrorView_twice tree route earlier view, ?_⟩
  · rw [descendant_eq_reach]
    exact attachErrorView_ok_iff
  · intro result attached
    have leads := attachErrorView_ok_iff.mp ⟨result, attached⟩
    rw [← descendant_eq_reach] at leads
    obtain ⟨reached, isReached⟩ := Option.isSome_iff_exists.mp leads
    obtain ⟨address, isAddress, isNode⟩ :=
      exists_address_of_descendant isReached
    exact ⟨address, isAddress, isNode.trans isReached.symm,
      childless_nodeAt_attachErrorView attached isAddress⟩
  · intro missing
    rw [descendant_eq_reach] at missing
    obtain ⟨front, segment, rest, parent, isSplit, leads, absent, fails⟩ :=
      attachErrorView_of_missing missing
    rw [← descendant_eq_reach] at leads
    refine ⟨front, segment, rest, parent, isSplit, leads, absent, ?_⟩
    rw [fails, RouteNode.missing]
    simp only [List.isEmpty_iff]
  · intro leads
    refine ⟨?_, fun views => attachErrorView_addNotFound views leads view⟩
    intro otherRoute otherView apart otherLeads
    exact attachErrorView_comm apart.symm leads otherLeads view otherView

/-- An index node, two folders of one name and a folder that is called like the
nodes for unmatched paths. -/
def indexedAnnex : RouteNode :=
  { annex with children := indexOf (.notFound default) :: annex.children }

theorem attachErrorView_frame_indexedAnnex :
    (∃ result, indexedAnnex.attachErrorView ["docs", "[page?]"] default =
      .ok result ∧
      (result.nodeAt? [1, 0]).map childless =
        some { ofPath "[page?]" with error := some default } ∧
      (result.nodeAt? [2]).map childless = some (ofPath "docs") ∧
      (result.nodeAt? [3, 0, 0]).map childless = some (ofPath "[page?]")) ∧
    indexedAnnex.descendant? ["*", "docs", "edit"] = none ∧
    indexedAnnex.attachErrorView ["*", "docs", "edit"] default =
      .error (.missingSegment "docs" "edit") ∧
    (indexedAnnex.addNotFound {}).attachErrorView ["*", "docs"] default =
      (indexedAnnex.attachErrorView ["*", "docs"] default).map
        (addNotFound {}) ∧
    (indexedAnnex.attachErrorView ["docs", "[page?]"] default >>= fun changed =>
        changed.attachErrorView ["*", "docs"] (.builtin .loading)) =
      indexedAnnex.attachErrorView ["*", "docs"] (.builtin .loading) >>=
        fun changed => changed.attachErrorView ["docs", "[page?]"] default := by
  obtain ⟨succeeds, changes, _, _, others⟩ :=
    attachErrorView_frame indexedAnnex ["docs", "[page?]"] default
  obtain ⟨commutes, _⟩ := others rfl
  refine ⟨?_, rfl, ?_, ?_, ?_⟩
  · obtain ⟨result, attached⟩ := succeeds.mpr rfl
    obtain ⟨address, isAddress, _, frame⟩ := changes result attached
    obtain rfl : address = [1, 0] := (Option.some.inj isAddress).symm
    exact ⟨result, attached, frame [1, 0], frame [2], frame [3, 0, 0]⟩
  · rfl
  · exact ((attachErrorView_frame indexedAnnex ["*", "docs"] default).2.2.2.2
      rfl).2 {}
  · exact commutes ["*", "docs"] (.builtin .loading) (by decide) rfl

end RouteNode
end FileRoutes
