import FileRoutes.Node
import Mathlib.Data.List.Nodup
import Mathlib.Data.List.TakeWhile

/-!
# Arranged children

In a merged tree the index child, if there is one, stands before the other
children, and no two of these have the same path.  The children other than
the index child are the branches of a node, and the content of the index
child is its slot.
-/

namespace FileRoutes
namespace RouteNode

/-- The children that are not index nodes. -/
def branches (node : RouteNode) : List RouteNode :=
  node.children.filter fun child => !child.index

/-- The content of the index child. -/
def slot? (node : RouteNode) : Option RouteContent :=
  node.indexChild?.bind RouteNode.content

/-- The first branch with a path. -/
def branchAt? (node : RouteNode) (path : Option String) : Option RouteNode :=
  node.children.find? (matchesPath path)

/-- The node reached by following branches. -/
def reach? (node : RouteNode) : List (Option String) -> Option RouteNode
  | [] => some node
  | path :: rest => (node.branchAt? path).bind fun branch => branch.reach? rest

/-- Children in order: an index node for the slot, then the branches. -/
def arrange (slot : Option RouteContent) (branches : List RouteNode) :
    List RouteNode :=
  (slot.map indexOf).toList ++ branches

/-- A node with a new slot and new branches. -/
def furnish (node : RouteNode) (slot : Option RouteContent)
    (branches : List RouteNode) : RouteNode :=
  { node with children := arrange slot branches }

/-! ## Nodes with given branches -/

section Furnish

variable (node : RouteNode) (slot : Option RouteContent)
  {branches : List RouteNode}

@[simp] theorem furnish_displayPath :
    (node.furnish slot branches).displayPath = node.displayPath := rfl

@[simp] theorem indexOf_index (content : RouteContent) :
    (indexOf content).index = true := rfl

@[simp] theorem indexOf_content (content : RouteContent) :
    (indexOf content).content = some content := rfl

@[simp] theorem matchesPath_indexOf (path : Option String)
    (content : RouteContent) : (indexOf content).matchesPath path = false := rfl

theorem arrange_append (more : List RouteNode) :
    arrange slot branches ++ more = arrange slot (branches ++ more) :=
  List.append_assoc _ _ _

/-- The index child is never found under a path. -/
theorem find_arrange (path : Option String) :
    (arrange slot branches).find? (matchesPath path) =
      branches.find? (matchesPath path) := by
  cases slot <;> simp [arrange]

@[simp] theorem branchAt_furnish (path : Option String) :
    (node.furnish slot branches).branchAt? path =
      branches.find? (matchesPath path) :=
  find_arrange slot path

variable (plain : ∀ branch ∈ branches, branch.index = false)

include plain

/-- The branches of a furnished node are the ones it was given. -/
theorem branches_furnish :
    (node.furnish slot branches).branches = branches := by
  have kept : branches.filter (fun child => !child.index) = branches := by
    rw [List.filter_eq_self]
    intro branch member
    simp [plain branch member]
  cases slot <;> simp [furnish, RouteNode.branches, arrange, kept]

theorem indexChild_furnish :
    (node.furnish slot branches).indexChild? = slot.map indexOf := by
  cases slot with
  | none =>
    simpa [furnish, indexChild?, arrange] using plain
  | some content => simp [furnish, indexChild?, arrange]

theorem slot_furnish : (node.furnish slot branches).slot? = slot := by
  rw [slot?, indexChild_furnish node slot plain]
  cases slot <;> rfl

end Furnish

/-- The child that an error view is attached to is found as a branch is. -/
theorem child_eq_branchAt (node : RouteNode) (path : String) :
    node.child? path = node.branchAt? (some path) := rfl

@[simp] theorem reach_nil (node : RouteNode) : node.reach? [] = some node := rfl

theorem reach_cons (node : RouteNode) (path : Option String)
    (rest : List (Option String)) :
    node.reach? (path :: rest) =
      (node.branchAt? path).bind fun branch => branch.reach? rest := rfl

/-- The node below a node at the end of a route. -/
theorem reach_append_singleton (node : RouteNode) (route : List (Option String))
    (path : Option String) :
    node.reach? (route ++ [path]) =
      (node.reach? route).bind fun reached => reached.branchAt? path := by
  induction route generalizing node with
  | nil => simp [reach_cons]
  | cons first rest step =>
    rw [List.cons_append, reach_cons, reach_cons]
    cases node.branchAt? first with
    | none => rfl
    | some branch => exact step branch

/-- Following names is following branches that have them as paths. -/
theorem descendant_eq_reach (node : RouteNode) (route : List String) :
    node.descendant? route = node.reach? (route.map some) := by
  induction route generalizing node with
  | nil => rfl
  | cons segment rest step =>
    rw [descendant?, child_eq_branchAt, List.map_cons, reach_cons]
    cases node.branchAt? (some segment) with
    | none => rfl
    | some branch => exact step branch

/-- Only branches match a path, and each matches its own. -/
theorem matchesPath_iff {path : Option String} {node : RouteNode} :
    node.matchesPath path = true ↔ node.index = false ∧ node.path = path := by
  simp [matchesPath]

/-- A search for a path may leave out the index children. -/
theorem branchAt_eq_find_branches (node : RouteNode) (path : Option String) :
    node.branchAt? path = node.branches.find? (matchesPath path) := by
  rw [branchAt?, branches, List.find?_filter]
  congr 1
  funext child
  rw [Bool.eq_iff_iff]
  simp [matchesPath]

/-- A branch can be found by its path when no other one has it. -/
theorem find_of_mem {branches : List RouteNode} {branch : RouteNode}
    (plain : ∀ branch ∈ branches, branch.index = false)
    (distinct : (branches.map RouteNode.path).Nodup)
    (member : branch ∈ branches) :
    branches.find? (matchesPath branch.path) = some branch := by
  induction branches with
  | nil => cases member
  | cons first rest step =>
    have firstPlain := plain first List.mem_cons_self
    rw [List.map_cons, List.nodup_cons] at distinct
    rcases List.mem_cons.mp member with equal | deeper
    · subst equal
      exact List.find?_cons_of_pos (matchesPath_iff.mpr ⟨firstPlain, rfl⟩)
    · have different : first.path ≠ branch.path := by
        intro equal
        apply distinct.1
        rw [equal]
        exact List.mem_map_of_mem deeper
      rw [List.find?_cons_of_neg]
      · exact step (fun other inside =>
          plain other (List.mem_cons_of_mem first inside))
          distinct.2 deeper
      · rw [matchesPath_iff]
        exact fun matching => different matching.2

/-- The search for a path fails exactly if no branch has it. -/
theorem find_eq_none_iff {branches : List RouteNode} {path : Option String}
    (plain : ∀ branch ∈ branches, branch.index = false) :
    branches.find? (matchesPath path) = none ↔
      path ∉ branches.map RouteNode.path := by
  rw [List.find?_eq_none, List.mem_map]
  constructor
  · rintro missing ⟨branch, member, equal⟩
    exact missing branch member
      (matchesPath_iff.mpr ⟨plain branch member, equal⟩)
  · intro missing branch member matching
    exact missing ⟨branch, member, (matchesPath_iff.mp matching).2⟩

/-! ## Putting a branch in its place -/

/-- Put a node in place of the first branch with a path, or behind all
branches. -/
def putAt (path : Option String) (node : RouteNode) :
    List RouteNode -> List RouteNode
  | [] => [node]
  | first :: rest =>
    if first.matchesPath path then node :: rest
    else first :: putAt path node rest

section PutAt

variable {path : Option String} {node : RouteNode} {branches : List RouteNode}

/-- A node whose path is new becomes the last branch. -/
theorem putAt_of_dropWhile_nil
    (absent : branches.dropWhile (fun other => !other.matchesPath path) = []) :
    putAt path node branches = branches ++ [node] := by
  induction branches with
  | nil => rfl
  | cons first rest step =>
    cases matching : first.matchesPath path with
    | true => simp [matching] at absent
    | false =>
      simp only [List.dropWhile_cons, matching, Bool.not_false, if_true]
        at absent
      simp [putAt, matching, step absent]

/-- A node takes the place of the first branch with its path. -/
theorem putAt_of_dropWhile_cons {existing : RouteNode} {after : List RouteNode}
    (present : branches.dropWhile (fun other => !other.matchesPath path) =
      existing :: after) :
    putAt path node branches =
      branches.takeWhile (fun other => !other.matchesPath path) ++
        node :: after := by
  induction branches with
  | nil => cases present
  | cons first rest step =>
    cases matching : first.matchesPath path with
    | true =>
      simp only [List.dropWhile_cons, matching, Bool.not_true,
        Bool.false_eq_true, if_false, List.cons.injEq] at present
      simp [putAt, matching, present.2]
    | false =>
      simp only [List.dropWhile_cons, matching, Bool.not_false, if_true]
        at present
      simp [putAt, matching, step present]

/-- What stands from a path on starts behind the index child. -/
theorem dropWhile_arrange (slot : Option RouteContent) :
    (arrange slot branches).dropWhile (fun other => !other.matchesPath path) =
      branches.dropWhile fun other => !other.matchesPath path := by
  cases slot <;> simp [arrange]

/-- What stands in front of a path starts with the index child. -/
theorem takeWhile_arrange (slot : Option RouteContent) :
    (arrange slot branches).takeWhile (fun other => !other.matchesPath path) =
      arrange slot (branches.takeWhile fun other => !other.matchesPath path) := by
  cases slot <;> simp [arrange]

theorem mem_putAt {branch : RouteNode}
    (member : branch ∈ putAt path node branches) :
    branch = node ∨ branch ∈ branches := by
  induction branches with
  | nil => exact Or.inl (List.mem_singleton.mp member)
  | cons first rest step =>
    rw [putAt] at member
    split at member
    · rcases List.mem_cons.mp member with equal | deeper
      · exact Or.inl equal
      · exact Or.inr (List.mem_cons_of_mem first deeper)
    · rcases List.mem_cons.mp member with equal | deeper
      · exact Or.inr (equal ▸ List.mem_cons_self)
      · exact (step deeper).imp_right (List.mem_cons_of_mem first)

/-- A node that was put in its place is found there, and any other path still
leads where it led. -/
theorem find_putAt (matching : node.matchesPath path) (other : Option String) :
    (putAt path node branches).find? (matchesPath other) =
      if other = path then some node
      else branches.find? (matchesPath other) := by
  obtain ⟨nodePlain, nodePath⟩ := matchesPath_iff.mp matching
  have nodeMatches : node.matchesPath other = true ↔ other = path := by
    rw [matchesPath_iff, nodePath]
    exact ⟨fun found => found.2.symm, fun equal => ⟨nodePlain, equal.symm⟩⟩
  induction branches with
  | nil =>
    by_cases equal : other = path
    · rw [putAt, List.find?_cons_of_pos (nodeMatches.mpr equal), if_pos equal]
    · rw [putAt, List.find?_cons_of_neg (mt nodeMatches.mp equal), if_neg equal]
  | cons first rest step =>
    by_cases firstMatches : first.matchesPath path = true
    · rw [putAt, if_pos firstMatches, List.find?_cons, List.find?_cons]
      by_cases equal : other = path
      · rw [nodeMatches.mpr equal, if_pos equal]
      · have firstOther : first.matchesPath other = false := by
          rw [← Bool.not_eq_true, matchesPath_iff]
          exact fun found =>
            equal (found.2.symm.trans (matchesPath_iff.mp firstMatches).2)
        rw [Bool.eq_false_iff.mpr (mt nodeMatches.mp equal), firstOther,
          if_neg equal]
    · rw [putAt, if_neg firstMatches, List.find?_cons, List.find?_cons, step]
      by_cases equal : other = path
      · subst equal
        simp [firstMatches]
      · simp [equal]

/-- A branch is put beside the index node. -/
theorem find_index_putAt (notIndex : node.index = false) :
    (putAt path node branches).find? RouteNode.index =
      branches.find? RouteNode.index := by
  induction branches with
  | nil => simp [putAt, notIndex]
  | cons first rest step =>
    by_cases matching : first.matchesPath path = true
    · have firstPlain := (matchesPath_iff.mp matching).1
      simp [putAt, matching, notIndex, firstPlain]
    · rw [putAt, if_neg matching, List.find?_cons, List.find?_cons, step]

/-- Putting a branch in its place leaves the index child in front. -/
theorem putAt_arrange (slot : Option RouteContent) :
    putAt path node (arrange slot branches) =
      arrange slot (putAt path node branches) := by
  cases slot <;> simp [arrange, putAt]

/-- A path is listed at its old place, or behind the others if it is new. -/
theorem map_path_putAt (nodePath : node.path = path)
    (plain : ∀ branch ∈ branches, branch.index = false) :
    (putAt path node branches).map RouteNode.path =
      if path ∈ branches.map RouteNode.path then branches.map RouteNode.path
      else branches.map RouteNode.path ++ [path] := by
  induction branches with
  | nil => simp [putAt, nodePath]
  | cons first rest step =>
    have deeper := step fun branch member =>
      plain branch (List.mem_cons_of_mem first member)
    by_cases firstPath : first.path = path
    · have matching : first.matchesPath path = true :=
        matchesPath_iff.mpr ⟨plain first List.mem_cons_self, firstPath⟩
      simp [putAt, matching, nodePath, firstPath]
    · have apart : ¬first.matchesPath path = true := fun found =>
        firstPath (matchesPath_iff.mp found).2
      rw [putAt, if_neg apart, List.map_cons, deeper, List.map_cons]
      have different : path ≠ first.path := fun equal => firstPath equal.symm
      by_cases present : path ∈ rest.map RouteNode.path
      · rw [if_pos present, if_pos (List.mem_cons_of_mem first.path present)]
      · have absent : path ∉ first.path :: rest.map RouteNode.path := by
          simp only [List.mem_cons, not_or]
          exact ⟨different, present⟩
        rw [if_neg present, if_neg absent, List.cons_append]

/-- Branches with distinct paths still have distinct paths afterwards. -/
theorem nodup_putAt (nodePath : node.path = path)
    (plain : ∀ branch ∈ branches, branch.index = false)
    (distinct : (branches.map RouteNode.path).Nodup) :
    ((putAt path node branches).map RouteNode.path).Nodup := by
  rw [map_path_putAt nodePath plain]
  split
  · exact distinct
  · rename_i absent
    rw [← List.concat_eq_append]
    exact distinct.concat absent

end PutAt

end RouteNode
end FileRoutes
