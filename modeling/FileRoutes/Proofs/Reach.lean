import FileRoutes.Proofs.Union

/-!
# Unions, route by route

A route leads to a node of a union when it leads to a node of one of the two
trees.  Where both have a node the two are united, and where one has none the
node of the other stands there.
-/

namespace FileRoutes
namespace RouteNode

open RouteContent

/-- No two branches of one node share a path, at every level. -/
inductive Orderly : RouteNode -> Prop
  | intro {node : RouteNode}
      (distinct : (node.branches.map RouteNode.path).Nodup)
      (below : ∀ branch ∈ node.branches, Orderly branch) : Orderly node

namespace Orderly

variable {node : RouteNode}

/-- The branches of an orderly node have distinct paths. -/
theorem distinct (orderly : node.Orderly) :
    (node.branches.map RouteNode.path).Nodup := by
  cases orderly with
  | intro distinct below => exact distinct

theorem of_branchAt (orderly : node.Orderly) {path : Option String}
    {branch : RouteNode} (found : node.branchAt? path = some branch) :
    branch.Orderly := by
  cases orderly with
  | intro distinct below =>
    rw [branchAt_eq_find_branches] at found
    exact below branch (List.mem_of_find?_eq_some found)

end Orderly

theorem Tidy.orderly {node : RouteNode} (tidy : node.Tidy) : node.Orderly := by
  induction tidy with
  | intro notIndex arranged below step => exact .intro arranged.distinct step

/-! ## Branches of a union -/

section Branches

variable {children : List RouteNode}

theorem filter_branches_cons {child : RouteNode} (plain : child.index = false) :
    (child :: children).filter (fun other => !other.index) =
      child :: children.filter fun other => !other.index := by
  simp [plain]

/-- If paths are distinct, the path of the first child is not among the rest. -/
theorem not_mem_paths_of_nodup {child : RouteNode}
    (plain : child.index = false)
    (distinct : (((child :: children).filter fun other => !other.index).map
      RouteNode.path).Nodup) :
    child.path ∉ (children.filter fun other => !other.index).map
      RouteNode.path ∧
      ((children.filter fun other => !other.index).map RouteNode.path).Nodup := by
  rw [filter_branches_cons plain, List.map_cons, List.nodup_cons] at distinct
  exact distinct

/-- A path that no branch has is not found. -/
theorem find_eq_none_of_not_mem {path : Option String}
    (absent : path ∉ (children.filter fun other => !other.index).map
      RouteNode.path) :
    children.find? (matchesPath path) = none := by
  rw [List.find?_eq_none]
  intro child member matching
  obtain ⟨plain, samePath⟩ := matchesPath_iff.mp matching
  apply absent
  rw [← samePath]
  apply List.mem_map_of_mem
  simpa [plain] using member

/-- Each child is united with what was there at its path before any of them
came. -/
theorem find_unionBranches (present : List RouteNode)
    (distinct : ((children.filter fun child => !child.index).map
      RouteNode.path).Nodup)
    (path : Option String) :
    (unionBranches present children).find? (matchesPath path) =
      match children.find? (matchesPath path) with
      | none => present.find? (matchesPath path)
      | some child => some (union (heldAt present child.path) child) := by
  induction children generalizing present with
  | nil => rw [unionBranches, List.find?_nil]
  | cons child rest step =>
    cases index : child.index with
    | true =>
      have skipped : child.matchesPath path = false := by
        simp [matchesPath, index]
      rw [unionBranches_index index, List.find?_cons, skipped]
      apply step
      simpa [index] using distinct
    | false =>
      obtain ⟨absent, restDistinct⟩ := not_mem_paths_of_nodup index distinct
      have matching := matchesPath_union_heldAt present child.path child
      rw [unionBranches_branch index, step _ restDistinct]
      by_cases equal : path = child.path
      · subst equal
        rw [find_eq_none_of_not_mem absent, find_putAt matching, if_pos rfl,
          List.find?_cons_of_pos (matchesPath_iff.mpr ⟨index, rfl⟩)]
      · have apart : ¬child.matchesPath path = true := fun found =>
          equal (matchesPath_iff.mp found).2.symm
        rw [List.find?_cons_of_neg apart]
        cases found : rest.find? (matchesPath path) with
        | none => simp only [find_putAt matching, if_neg equal]
        | some later =>
          have laterPath := (matchesPath_iff.mp (List.find?_some found)).2
          have sameHeld : heldAt (putAt child.path
              (union (heldAt present child.path) child) present) path =
              heldAt present path := by
            rw [heldAt, find_putAt matching, if_neg equal, heldAt]
          simp only [laterPath, sameHeld]

/-- New paths come behind those that are there, in their own order. -/
theorem map_path_unionBranches (present : List RouteNode)
    (plain : ∀ branch ∈ present, branch.index = false)
    (distinct : ((children.filter fun child => !child.index).map
      RouteNode.path).Nodup) :
    (unionBranches present children).map RouteNode.path =
      present.map RouteNode.path ++
        ((children.filter fun child => !child.index).map RouteNode.path).filter
          fun path => path ∉ present.map RouteNode.path := by
  induction children generalizing present with
  | nil => simp [unionBranches]
  | cons child rest step =>
    cases index : child.index with
    | true =>
      rw [unionBranches_index index]
      simpa [index] using step present plain (by simpa [index] using distinct)
    | false =>
      obtain ⟨absent, restDistinct⟩ := not_mem_paths_of_nodup index distinct
      obtain ⟨unitedIndex, unitedPath⟩ :=
        matchesPath_iff.mp (matchesPath_union_heldAt present child.path child)
      have unitedPlain : ∀ branch ∈
          putAt child.path (union (heldAt present child.path) child) present,
          branch.index = false := by
        intro branch member
        rcases mem_putAt member with equal | old
        · rw [equal, unitedIndex]
        · exact plain branch old
      rw [unionBranches_branch index, step _ unitedPlain restDistinct,
        map_path_putAt unitedPath plain, filter_branches_cons index,
        List.map_cons]
      generalize present.map RouteNode.path = known at *
      generalize (rest.filter fun other => !other.index).map RouteNode.path =
        more at *
      by_cases old : child.path ∈ known
      · rw [if_pos old, List.filter_cons_of_neg (by simpa using old)]
      · rw [if_neg old, List.filter_cons_of_pos (by simpa using old),
          List.append_assoc, List.singleton_append]
        congr 2
        apply List.filter_congr
        intro path member
        have different : path ≠ child.path :=
          fun equal => absent (equal ▸ member)
        simp [different]

end Branches

/-- A branch of the second tree is united with what the first one holds at its
path. -/
theorem branchAt_union (target : RouteNode) {source : RouteNode}
    (distinct : (source.branches.map RouteNode.path).Nodup)
    (path : Option String) :
    (union target source).branchAt? path =
      match source.branchAt? path with
      | none => target.branchAt? path
      | some branch => some (union (heldAt target.branches path) branch) := by
  rw [union_eq, branchAt_furnish, find_unionBranches target.branches distinct,
    ← branchAt?, branchAt_eq_find_branches target]
  cases found : source.branchAt? path with
  | none => rfl
  | some branch => simp only [path_of_branchAt found]

theorem unionBranches_plain {target : RouteNode} (tidy : target.Tidy)
    (source : RouteNode) :
    ∀ branch ∈ unionBranches target.branches source.children,
      branch.index = false := by
  obtain ⟨branchesTidy, _⟩ := unionBranches_tidy source.children
    (fun _ member => tidy.of_mem_branches member) tidy.arranged.distinct
  exact fun branch member => (branchesTidy branch member).index_eq

theorem branches_union {target : RouteNode} (tidy : target.Tidy)
    (source : RouteNode) :
    (union target source).branches =
      unionBranches target.branches source.children := by
  rw [union_eq]
  exact branches_furnish _ _ (unionBranches_plain tidy source)

/-- The slot of a union is claimed by the target first and then by what the
source brings, in turn. -/
theorem slot_union {target : RouteNode} (tidy : target.Tidy)
    (source : RouteNode) :
    (union target source).slot? =
      unionSlot (settled target.slot? (source.content.bind visit?))
        source.children := by
  rw [union_eq]
  exact slot_furnish _ _ (unionBranches_plain tidy source)

/-! ## Routes of a union -/

/-- The bare node that starts out at the end of a route. -/
def bareAt (route : List (Option String)) : RouteNode :=
  { path := route.getLast?.getD none }

/-- A bare node leads nowhere but to itself. -/
theorem reach_bare {path : Option String} {route : List (Option String)}
    (nonempty : route ≠ []) :
    ({ path := path } : RouteNode).reach? route = none := by
  cases route with
  | nil => exact absurd rfl nonempty
  | cons first rest => rfl

/-- A bare node below a route that goes on has the path that the route ends
with. -/
theorem bareAt_cons {route : List (Option String)} (path : Option String)
    (nonempty : route ≠ []) : bareAt (path :: route) = bareAt route := by
  cases route with
  | nil => exact absurd rfl nonempty
  | cons next rest => rw [bareAt, bareAt, List.getLast?_cons_cons]

theorem Tidy.of_reach {node reached : RouteNode} (tidy : node.Tidy)
    {route : List (Option String)} (found : node.reach? route = some reached) :
    reached.Tidy := by
  induction route generalizing node with
  | nil =>
    cases found
    exact tidy
  | cons path rest step =>
    obtain ⟨branch, isBranch, deeper⟩ := Option.bind_eq_some_iff.mp found
    exact step (tidy.of_branchAt isBranch) deeper

/-- The node of a union at a route is the node of the first tree, united with
the node of the second one if there is one. -/
theorem reach_union (target : RouteNode) {source : RouteNode}
    (orderly : source.Orderly) (route : List (Option String)) :
    (union target source).reach? route =
      match source.reach? route with
      | none => target.reach? route
      | some reached =>
        some (union ((target.reach? route).getD (bareAt route)) reached) := by
  induction route generalizing target source with
  | nil => rfl
  | cons path rest step =>
    simp only [reach_cons, branchAt_union target orderly.distinct]
    cases found : source.branchAt? path with
    | none => rfl
    | some branch =>
      simp only [Option.bind_some, step _ (orderly.of_branchAt found), heldAt,
        ← branchAt_eq_find_branches]
      cases rest with
      | nil => cases target.branchAt? path <;> rfl
      | cons next deeper =>
        rw [bareAt_cons path (List.cons_ne_nil next deeper)]
        cases target.branchAt? path <;> rfl

end RouteNode
end FileRoutes
