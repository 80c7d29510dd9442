import FileRoutes.Proofs.Attachment
import FileRoutes.Proofs.Finished
import FileRoutes.Proofs.Union

/-!
# What the nodes of a tree show

What is read off the nodes of a tree, parents first, is listed.  Attaching an
error view changes what is read off one node, and the not-found pass changes
nothing as long as its own nodes are passed over.
-/

namespace FileRoutes
namespace RouteNode

variable {β : Type} {read : RouteNode -> Option β}

/-- What is read off the nodes of a tree. -/
def gather (read : RouteNode -> Option β) (tree : RouteNode) : List β :=
  tree.nodes.filterMap read

/-- What is read off a node is read off its head, and the nodes that passes add
have nothing to read. -/
structure Lasting (read : RouteNode -> Option β) : Prop where
  shallow : ∀ node children, read { node with children := children } = read node
  bare : ∀ path, read { path := path } = none
  catchAll : ∀ view, read (catchAll view) = none
  notFound : ∀ view, read (indexOf (.notFound view)) = none
  /-- It goes with the content when that moves into an index child. -/
  moved : ∀ node content, node.content = some content ->
    (read { node with content := none }).toList ++
      (read (indexOf content)).toList = (read node).toList

theorem Lasting.map {γ : Type} (lasting : Lasting read) (value : β -> γ) :
    Lasting fun node => (read node).map value where
  shallow := fun node children =>
    congrArg (Option.map value) (lasting.shallow node children)
  bare := fun path => congrArg (Option.map value) (lasting.bare path)
  catchAll := fun view => congrArg (Option.map value) (lasting.catchAll view)
  notFound := fun view => congrArg (Option.map value) (lasting.notFound view)
  moved := by
    intro node content held
    rw [Option.toList_map, Option.toList_map, Option.toList_map,
      ← List.map_append, lasting.moved node content held]

theorem forestNodes_eq_flatMap (forest : List RouteNode) :
    forestNodes forest = forest.flatMap nodes := by
  induction forest with
  | nil => rfl
  | cons first rest step => rw [forestNodes, step, List.flatMap_cons]

/-- What a tree holds is what its root holds, and then what its children
hold. -/
theorem gather_eq (read : RouteNode -> Option β) (tree : RouteNode) :
    tree.gather read =
      (read tree).toList ++ tree.children.flatMap (gather read) := by
  obtain ⟨path, index, dynamic, content, error, children⟩ := tree
  rw [gather, nodes, forestNodes_eq_flatMap, List.filterMap_cons,
    List.filterMap_flatMap]
  cases read ⟨path, index, dynamic, content, error, children⟩ <;> rfl

theorem gather_of_leaf {node : RouteNode} (childless : node.children = []) :
    node.gather read = (read node).toList := by
  rw [gather_eq, childless, List.flatMap_nil, List.append_nil]

/-- Nothing is gathered from a tree exactly if none of its nodes holds
anything. -/
theorem gather_eq_nil_iff {tree : RouteNode} :
    tree.gather read = [] ↔ ∀ node ∈ tree.nodes, read node = none :=
  List.filterMap_eq_nil_iff

/-- A value is gathered exactly if some node of the tree holds it. -/
theorem mem_gather {tree : RouteNode} {value : β} :
    value ∈ tree.gather read ↔ ∃ node ∈ tree.nodes, read node = some value :=
  List.mem_filterMap

/-! ## Branches that are put in place -/

theorem heldAt_cons_of_matches {path : Option String} {first : RouteNode}
    (matching : first.matchesPath path = true) (rest : List RouteNode) :
    heldAt (first :: rest) path = first := by
  rw [heldAt, List.find?_cons_of_pos matching, Option.getD_some]

theorem heldAt_cons_of_apart {path : Option String} {first : RouteNode}
    (apart : ¬first.matchesPath path = true) (rest : List RouteNode) :
    heldAt (first :: rest) path = heldAt rest path := by
  rw [heldAt, List.find?_cons_of_neg apart, ← heldAt]

/-- A branch that is put in place is read instead of the one that was there. -/
theorem flatMap_putAt_perm (lasting : Lasting read) (path : Option String)
    (node : RouteNode) (branches : List RouteNode) :
    ((putAt path node branches).flatMap (gather read) ++
        (heldAt branches path).gather read).Perm
      (branches.flatMap (gather read) ++ node.gather read) := by
  induction branches with
  | nil =>
    have nothing : (heldAt [] path).gather read = [] :=
      (gather_of_leaf rfl).trans (congrArg Option.toList (lasting.bare path))
    rw [nothing, putAt, List.flatMap_singleton, List.append_nil,
      List.flatMap_nil, List.nil_append]
  | cons first rest step =>
    by_cases matching : first.matchesPath path = true
    · rw [heldAt_cons_of_matches matching, putAt, if_pos matching,
        List.flatMap_cons, List.flatMap_cons]
      classical
      rw [List.perm_iff_count]
      intro value
      simp only [List.count_append]
      omega
    · rw [heldAt_cons_of_apart matching, putAt, if_neg matching,
        List.flatMap_cons, List.flatMap_cons, List.append_assoc,
        List.append_assoc]
      exact step.append_left _

/-! ## Passes over a tree -/

/-- An attachment changes what is read off the node at its route and nothing
else. -/
theorem gather_attachErrorView_perm (lasting : Lasting read)
    {node result reached : RouteNode} {route : List String} {view : View}
    (attached : node.attachErrorView route view = .ok result)
    (found : node.reach? (route.map some) = some reached) :
    (result.gather read ++ (read reached).toList).Perm
      (node.gather read ++ (read { reached with error := some view }).toList) := by
  induction route generalizing node result with
  | nil =>
    cases attached
    cases found
    have sameBelow :
        ({ reached with error := some view } : RouteNode).children =
          reached.children := rfl
    rw [gather_eq, gather_eq, sameBelow]
    classical
    rw [List.perm_iff_count]
    intro value
    simp only [List.count_append]
    omega
  | cons segment rest step =>
    obtain ⟨branch, changed, isBranch, below, rfl⟩ :=
      attachErrorView_cons_ok attached
    rw [List.map_cons, reach_cons, isBranch, Option.bind_some] at found
    have held : heldAt node.children (some segment) = branch := by
      rw [heldAt, ← branchAt?, isBranch, Option.getD_some]
    have placed :=
      flatMap_putAt_perm lasting (some segment) changed node.children
    have changes := step below found
    rw [held] at placed
    rw [gather_eq, lasting.shallow, gather_eq read node]
    -- What is read off the branch before and after the change cancels out.
    classical
    rw [List.perm_iff_count] at placed changes ⊢
    intro value
    have placedCount := placed value
    have changesCount := changes value
    simp only [List.count_append] at placedCount changesCount ⊢
    omega

/-- A catch-all child holds nothing that lasts. -/
theorem gather_withCatchAll (lasting : Lasting read) (view : View)
    (node : RouteNode) :
    (node.withCatchAll view).gather read = node.gather read := by
  unfold withCatchAll
  split
  · rfl
  · rw [gather_eq, gather_eq read node, lasting.shallow, List.flatMap_append,
      List.flatMap_singleton, gather_of_leaf rfl, lasting.catchAll,
      Option.toList_none, List.append_nil]

/-- Completing a node adds nothing that lasts. -/
theorem gather_complete (lasting : Lasting read) (views : NotFoundViews)
    (route : List String) (isRoot : Bool) (node : RouteNode) :
    (complete views route isRoot node).gather read = node.gather read := by
  rw [complete, gather_withCatchAll lasting]
  split
  · rw [withNotFoundIndex, gather_eq, gather_eq read node, lasting.shallow,
      List.flatMap_cons, gather_of_leaf rfl, lasting.notFound,
      Option.toList_none, List.nil_append]
  · rfl

/-- The nodes that the not-found pass adds are passed over. -/
theorem gather_inject (lasting : Lasting read) (views : NotFoundViews)
    (route : List String) (isRoot : Bool) (node : RouteNode) :
    (inject views route isRoot node).gather read = node.gather read := by
  induction node using induction_on_children generalizing route isRoot with
  | step node below =>
    by_cases childless : node.children = []
    · rw [inject_of_nil _ _ _ _ childless]
    · have sameBelow : ∀ child ∈ node.children,
          (injectChild views route child).gather read = child.gather read := by
        intro child member
        unfold injectChild
        split
        · rfl
        · exact below child member _ _
      rw [inject_of_ne_nil _ _ _ _ childless, gather_complete lasting,
        injectBelow, gather_eq, gather_eq read node, lasting.shallow,
        List.flatMap_map]
      exact congrArg _ (List.flatMap_congr sameBelow)

/-- Opening the root moves its content and loses nothing that lasts. -/
theorem gather_openRoot (lasting : Lasting read) (root : RouteNode) :
    root.openRoot.gather read = root.gather read := by
  by_cases childless : root.children = []
  · cases held : root.content with
    | none => rw [openRoot_of_bare held]
    | some content =>
      rw [openRoot_of_leaf childless held, gather_of_leaf childless,
        ← lasting.moved root content held, gather_eq, List.flatMap_singleton,
        gather_of_leaf rfl, lasting.shallow { root with content := none }]
  · rw [openRoot_of_children childless]

/-- The not-found pass leaves what is read off a tree as it was. -/
theorem gather_addNotFound (lasting : Lasting read) (views : NotFoundViews)
    (root : RouteNode) :
    (addNotFound views root).gather read = root.gather read := by
  rw [addNotFound, gather_withCatchAll lasting, gather_inject lasting,
    gather_openRoot lasting]

/-! ## Sources and error views -/

/-- The identifier of the page or layout that a node renders. -/
def source? (node : RouteNode) : Option String :=
  node.spec?.map RenderSpec.source

theorem lasting_spec : Lasting spec? where
  shallow := fun _ _ => rfl
  bare := fun _ => rfl
  catchAll := fun _ => rfl
  notFound := fun _ => rfl
  moved := by
    intro node content held
    rw [spec?, spec?, spec?, held]
    rfl

theorem lasting_source : Lasting source? :=
  lasting_spec.map RenderSpec.source

/-- Error views are not touched by the not-found pass. -/
theorem lasting_error : Lasting RouteNode.error where
  shallow := fun _ _ => rfl
  bare := fun _ => rfl
  catchAll := fun _ => rfl
  notFound := fun _ => rfl
  moved := fun _ _ _ => List.append_nil _

end RouteNode
end FileRoutes
