import FileRoutes.Proofs.Inventory
import FileRoutes.Summary
import Mathlib.Data.List.Dedup

/-!
# Counting nodes by their routes

A summary counts the nodes of a tree one by one.  In a tidy tree each node has a
route of its own or is the index child of a node that has one, so a count of
nodes is a count of routes.
-/

namespace FileRoutes
namespace Summary

/-- The summary of some nodes, counted one by one. -/
def ofNodes (nodes : List RouteNode) : Summary where
  nodes := nodes.length
  pages := nodes.countP RouteNode.isPage
  layouts := nodes.countP RouteNode.isLayout
  dynamic := nodes.countP fun node => node.dynamic.isSome
  errorBoundaries := nodes.countP fun node => node.error.isSome
  catchAlls := nodes.countP RouteNode.isCatchAll

theorem ofNodes_singleton (node : RouteNode) :
    ofNodes [node] = ofNode node := by
  have counted (test : RouteNode -> Bool) :
      [node].countP test = (test node).toNat := by
    rw [List.countP_singleton]
    cases test node <;> rfl
  rw [ofNodes, ofNode, List.length_singleton, counted, counted, counted,
    counted, counted]

theorem ofNodes_append (left right : List RouteNode) :
    ofNodes (left ++ right) = (ofNodes left).add (ofNodes right) := by
  simp only [ofNodes, add, List.length_append, List.countP_append]

mutual

/-- The summary of a tree counts its nodes. -/
theorem ofTree_eq (tree : RouteNode) : ofTree tree = ofNodes tree.nodes := by
  obtain ⟨path, index, dynamic, content, error, children⟩ := tree
  rw [ofTree, RouteNode.nodes, ofForest_eq children, ← ofNodes_singleton,
    ← ofNodes_append, List.singleton_append]

theorem ofForest_eq (forest : List RouteNode) :
    ofForest forest = ofNodes (RouteNode.forestNodes forest) := by
  match forest with
  | [] => rfl
  | first :: rest =>
    rw [ofForest, RouteNode.forestNodes, ofTree_eq first, ofForest_eq rest,
      ofNodes_append]

end

end Summary

namespace RouteNode

mutual

/-- The nodes of a tree are as many as are counted. -/
theorem length_nodes (tree : RouteNode) :
    tree.nodes.length = tree.countNodes := by
  obtain ⟨path, index, dynamic, content, error, children⟩ := tree
  rw [nodes, countNodes, List.length_cons, length_forestNodes children,
    Nat.add_comm]

theorem length_forestNodes (forest : List RouteNode) :
    (forestNodes forest).length = countForest forest := by
  match forest with
  | [] => rfl
  | first :: rest =>
    rw [forestNodes, countForest, List.length_append, length_nodes first,
      length_forestNodes rest]

end

/-! ## The routes of a tree -/

mutual

/-- The routes that branches of a tree lead along, parents first. -/
def routes : RouteNode -> List (List (Option String))
  | ⟨_, _, _, _, _, children⟩ => [] :: forestRoutes children

/-- The routes that begin with a branch among some children. -/
def forestRoutes : List RouteNode -> List (List (Option String))
  | [] => []
  | first :: rest =>
    (if first.index then []
     else first.routes.map fun route => first.path :: route) ++
      forestRoutes rest

end

theorem forestRoutes_eq (forest : List RouteNode) :
    forestRoutes forest =
      (forest.filter fun child => !child.index).flatMap fun branch =>
      branch.routes.map fun route => branch.path :: route := by
  induction forest with
  | nil => rfl
  | cons first rest step =>
    rw [forestRoutes, step]
    cases isIndex : first.index with
    | true => rw [List.filter_cons_of_neg (by simp [isIndex])]; rfl
    | false =>
      rw [List.filter_cons_of_pos (by simp [isIndex]), List.flatMap_cons]; rfl

theorem routes_eq (tree : RouteNode) :
    tree.routes = [] :: tree.branches.flatMap fun branch =>
      branch.routes.map fun route => branch.path :: route := by
  obtain ⟨path, index, dynamic, content, error, children⟩ := tree
  rw [routes, forestRoutes_eq]
  rfl

theorem nodes_eq_cons (tree : RouteNode) :
    tree.nodes = tree :: tree.children.flatMap nodes := by
  obtain ⟨path, index, dynamic, content, error, children⟩ := tree
  rw [nodes, forestNodes_eq_flatMap]

/-- A node with its index child. -/
def withSlot (node : RouteNode) : List RouteNode :=
  node :: (node.slot?.map indexOf).toList

namespace Tidy

variable {tree : RouteNode}

/-- The routes of a tidy tree are those that lead to a node. -/
theorem mem_routes (tidy : tree.Tidy) {route : List (Option String)} :
    route ∈ tree.routes ↔ (tree.reach? route).isSome = true := by
  induction tidy generalizing route with
  | @intro tree notIndex arranged below step =>
    have tidy : tree.Tidy := .intro notIndex arranged below
    rw [routes_eq, List.mem_cons, List.mem_flatMap]
    cases route with
    | nil => simp
    | cons path rest =>
      rw [reach_cons, Option.isSome_bind, Option.any_eq_true]
      constructor
      · rintro (isNil | ⟨branch, isBranch, member⟩)
        · cases isNil
        · obtain ⟨later, isLater, equal⟩ := List.mem_map.mp member
          cases equal
          exact ⟨branch, tidy.branchAt_of_mem isBranch,
            (step branch isBranch).mp isLater⟩
      · rintro ⟨branch, found, leads⟩
        have isBranch : branch ∈ tree.branches :=
          List.mem_of_find?_eq_some (branchAt_eq_find_branches tree path ▸ found)
        refine Or.inr ⟨branch, isBranch, List.mem_map.mpr ⟨rest, ?_, ?_⟩⟩
        · exact (step branch isBranch).mpr leads
        · rw [path_of_branchAt found]

/-- No route of a tidy tree is listed twice. -/
theorem nodup_routes (tidy : tree.Tidy) : tree.routes.Nodup := by
  induction tidy with
  | @intro tree notIndex arranged below step =>
    rw [routes_eq, List.nodup_cons, List.nodup_flatMap]
    refine ⟨?_, fun branch isBranch => ?_, ?_⟩
    · simp
    · exact (step branch isBranch).map fun _ _ => List.tail_eq_of_cons_eq
    · refine (List.pairwise_map.mp arranged.distinct).imp fun apart => ?_
      intro route inLeft inRight
      obtain ⟨_, _, rfl⟩ := List.mem_map.mp inLeft
      obtain ⟨_, _, same⟩ := List.mem_map.mp inRight
      exact apart (List.head_eq_of_cons_eq same).symm

/-! ## The nodes at the routes -/

/-- The nodes of a tidy tree are those at its routes, with their index
children. -/
theorem nodes_eq (tidy : tree.Tidy) :
    tree.nodes = tree.routes.flatMap fun route =>
      (tree.reach? route).toList.flatMap withSlot := by
  induction tidy with
  | @intro tree notIndex arranged below step =>
    have tidy : tree.Tidy := .intro notIndex arranged below
    have inSlot : (tree.slot?.map indexOf).toList.flatMap nodes =
        (tree.slot?.map indexOf).toList := by
      cases tree.slot? <;> rfl
    have inBranches : tree.branches.flatMap nodes =
        (tree.branches.flatMap fun branch =>
          branch.routes.map fun route =>
            branch.path :: route).flatMap fun route =>
            (tree.reach? route).toList.flatMap withSlot := by
      rw [List.flatMap_assoc]
      apply List.flatMap_congr
      intro branch isBranch
      simp only [List.flatMap_map, reach_cons, tidy.branchAt_of_mem isBranch,
        Option.bind_some]
      exact step branch isBranch
    rw [nodes_eq_cons, arranged.children_eq, arrange, List.flatMap_append,
      inSlot, inBranches, routes_eq, List.flatMap_cons, reach_nil,
      Option.toList_some, List.flatMap_singleton, withSlot, List.cons_append]

/-- Nodes are counted at the routes of a tidy tree, and index children with
them. -/
theorem countP_nodes (tidy : tree.Tidy) (test : RouteNode -> Bool) :
    tree.nodes.countP test =
      (tree.routes.countP fun route => (tree.reach? route).any test) +
        tree.routes.countP fun route => (tree.reach? route).any fun node =>
          node.slot?.any fun content => test (indexOf content) := by
  rw [tidy.nodes_eq]
  induction tree.routes with
  | nil => rfl
  | cons route rest step =>
    rw [List.flatMap_cons, List.countP_append, step, List.countP_cons,
      List.countP_cons]
    cases tree.reach? route with
    | none => simp
    | some node =>
      cases held : node.slot? with
      | none => simp [withSlot, held, List.countP_cons]; omega
      | some content => simp [withSlot, held, List.countP_cons]; omega

/-- What is tested at routes is counted by the names of the routes that pass. -/
theorem countP_routes (tidy : tree.Tidy) {test : RouteNode -> Bool}
    {names : List (List String)}
    (same : ∀ route, (tree.reach? route).any test = true ↔
      ∃ name ∈ names, route = name.map some) :
    (tree.routes.countP fun route => (tree.reach? route).any test) =
      names.dedup.length := by
  have distinct : (names.dedup.map (List.map some)).Nodup :=
    names.nodup_dedup.map (List.map_injective_iff.mpr fun _ _ => Option.some.inj)
  have perm :
      (tree.routes.filter fun route => (tree.reach? route).any test).Perm
        (names.dedup.map (List.map some)) := by
    rw [List.perm_ext_iff_of_nodup (tidy.nodup_routes.filter _) distinct]
    intro route
    rw [List.mem_filter, tidy.mem_routes, same, List.mem_map]
    simp only [List.mem_dedup, eq_comm]
    refine and_iff_right_of_imp fun passes => ?_
    have tested := (same route).mpr (by simpa only [eq_comm] using passes)
    cases found : tree.reach? route with
    | none => simp [found] at tested
    | some node => rfl
  rw [List.countP_eq_length_filter, perm.length_eq, List.length_map]

/-- The nodes of a tidy tree that pass a test are counted by the routes where a
node or an index child passes. -/
theorem countP_nodes_eq (tidy : tree.Tidy) {test : RouteNode -> Bool}
    {names slots : List (List String)}
    (atNames : ∀ route, (tree.reach? route).any test = true ↔
      ∃ name ∈ names, route = name.map some)
    (inSlots : ∀ route, ((tree.reach? route).any fun node =>
        node.slot?.any fun content => test (indexOf content)) = true ↔
      ∃ name ∈ slots, route = name.map some) :
    tree.nodes.countP test = names.dedup.length + slots.dedup.length := by
  rw [tidy.countP_nodes, tidy.countP_routes atNames, tidy.countP_routes inSlots]

/-- What no index node passes is counted by the routes where a node passes. -/
theorem countP_nodes_of_blank (tidy : tree.Tidy) {test : RouteNode -> Bool}
    {names : List (List String)}
    (blank : ∀ content, test (indexOf content) = false)
    (atNames : ∀ route, (tree.reach? route).any test = true ↔
      ∃ name ∈ names, route = name.map some) :
    tree.nodes.countP test = names.dedup.length := by
  have inSlots (route : List (Option String)) :
      ((tree.reach? route).any fun node =>
      node.slot?.any fun content => test (indexOf content)) = true ↔
        ∃ name ∈ ([] : List (List String)), route = name.map some := by
    simp [blank]
  rw [tidy.countP_nodes_eq atNames inSlots, List.dedup_nil, List.length_nil,
    Nat.add_zero]

end Tidy
end RouteNode
end FileRoutes
