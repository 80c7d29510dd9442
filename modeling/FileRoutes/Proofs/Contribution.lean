import FileRoutes.Branch
import FileRoutes.Proofs.Reach

/-!
# What a file contributes

A page or layout contributes a chain of nodes to a tree, one for each token of
its route.  The last node has the content of the file; a file with neither role
contributes bare nodes only.
-/

namespace FileRoutes
namespace RouteSegment

/-- What does not look at roles reads the same segments. -/
theorem map_endWith {β : Type} {read : RouteSegment -> β}
    (same : ∀ segment role, read { segment with role := role } = read segment)
    (role : Option RouteRole) (segments : List RouteSegment) :
    (endWith role segments).map read = segments.map read := by
  induction segments with
  | nil => rfl
  | cons first rest step =>
    cases rest with
    | nil => rw [endWith, List.map_singleton, List.map_singleton, same]
    | cons next later => rw [endWith, List.map_cons, List.map_cons, step]

end RouteSegment

namespace ParsedFile

theorem segments_eq (rootPrefix id : String) :
    (parse rootPrefix id).segments =
      segmentsOf (parse rootPrefix id).folders (parse rootPrefix id).role := by
  simp only [parse]

/-- The route of a file is made of the folders that are not groups. -/
theorem routeTokens_parse (rootPrefix id : String) :
    (parse rootPrefix id).routeTokens =
      (parse rootPrefix id).folders.filter fun folder => !isGroup folder := by
  rw [routeTokens, segments_eq, segmentsOf, List.map_tail,
    RouteSegment.map_endWith (fun _ _ => rfl), List.map_cons, List.tail_cons,
    List.map_map]
  exact List.map_id' _

/-- The segments of a parsed file are the root and its route tokens, the last
one with the role that is rendered. -/
theorem segments_parse (rootPrefix id : String) :
    (parse rootPrefix id).segments =
      RouteSegment.endWith ((parse rootPrefix id).role.bind FileRole.routeRole?)
        (.root :: (parse rootPrefix id).routeTokens.map .folder) := by
  rw [routeTokens_parse, segments_eq, segmentsOf]

end ParsedFile

namespace RouteNode

open RouteContent

/-- The bare node of a folder. -/
def bud (token : String) : RouteNode :=
  { path := some token, dynamic := SegmentKind.dynamic? token }

/-- A node above the bare nodes of some folders, the last of which has the
content. -/
def twig (content : Option RouteContent) (head : RouteNode) :
    List String -> RouteNode
  | [] => { head with content := content }
  | token :: rest => { head with children := [twig content (bud token) rest] }

/-- The bare node at a route below a node. -/
def headAt (head : RouteNode) (route : List String) : RouteNode :=
  (route.getLast?.map bud).getD head

theorem headAt_cons (head : RouteNode) (token : String) (rest : List String) :
    headAt head (token :: rest) = headAt (bud token) rest := by
  rw [headAt, headAt, List.getLast?_cons]
  cases rest.getLast? <;> rfl

/-- A chain that ends with a role is a single branch. -/
theorem chain_endWith (spec : RenderSpec) (role : Option RouteRole)
    (first : RouteSegment) (rest : List RouteSegment) :
    chain spec (RouteSegment.endWith role (first :: rest)) =
      [branch spec (RouteSegment.endWith role (first :: rest))] := by
  cases rest <;> rfl

/-- The branch of a file is a twig. -/
theorem branch_endWith (spec : RenderSpec) (role : Option RouteRole)
    (first : RouteSegment) (tokens : List String) :
    branch spec (RouteSegment.endWith role (first :: tokens.map .folder)) =
      twig (role.map fun role => .ofRole role spec) (ofSegment spec first [])
        tokens := by
  induction tokens generalizing first with
  | nil =>
    rw [List.map_nil, RouteSegment.endWith, branch_cons, twig]
    rfl
  | cons token rest step =>
    have below := step (.folder token)
    have budEq : ofSegment spec (.folder token) [] = bud token := rfl
    rw [List.map_cons, RouteSegment.endWith, branch_cons, chain_endWith,
      below, budEq, twig]
    rfl

section Twig

variable (content : Option RouteContent) (head : RouteNode)

theorem twig_path (tokens : List String) :
    (twig content head tokens).path = head.path := by
  cases tokens <;> rfl

theorem twig_index (tokens : List String) :
    (twig content head tokens).index = head.index := by
  cases tokens <;> rfl

theorem twig_dynamic (tokens : List String) :
    (twig content head tokens).dynamic = head.dynamic := by
  cases tokens <;> rfl

theorem twig_error (tokens : List String) :
    (twig content head tokens).error = head.error := by
  cases tokens <;> rfl

/-- A twig on a new token is found under that token and under no other path. -/
theorem matchesPath_twig_bud (token : String) (tokens : List String)
    (path : Option String) :
    (twig content (bud token) tokens).matchesPath path =
      (some token == path) := by
  rw [matchesPath, twig_index, twig_path]
  rfl

/-- No child of a twig is an index node. -/
theorem branches_twig (childless : head.children = []) (tokens : List String) :
    (twig content head tokens).branches =
      (twig content head tokens).children := by
  cases tokens with
  | nil => simp [twig, branches, childless]
  | cons token rest => simp [twig, branches, twig_index, bud]

theorem map_path_twig (childless : head.children = []) (tokens : List String) :
    (twig content head tokens).children.map RouteNode.path =
      tokens.head?.toList.map some := by
  cases tokens with
  | nil => simp [twig, childless]
  | cons token rest => simp [twig, twig_path, bud]

theorem twig_orderly (childless : head.children = []) (tokens : List String) :
    (twig content head tokens).Orderly := by
  induction tokens generalizing head with
  | nil =>
    refine .intro ?_ ?_ <;> rw [branches_twig content head childless] <;>
      simp [twig, childless]
  | cons token rest step =>
    refine .intro ?_ ?_
    · rw [branches_twig content head childless,
        map_path_twig content head childless]
      exact List.nodup_singleton _
    · intro branch member
      rw [branches_twig content head childless, twig, List.mem_singleton]
        at member
      rw [member]
      exact step (bud token) rfl

/-- A twig has a node at each beginning of its tokens, with the rest of them
above it. -/
theorem reach_twig (childless : head.children = [])
    (tokens route : List String) :
    (twig content head tokens).reach? (route.map some) =
      (route.isPrefixOf? tokens).map (twig content (headAt head route)) := by
  induction route generalizing head tokens with
  | nil => simp [List.isPrefixOf?, headAt]
  | cons token rest step =>
    rw [List.map_cons, reach_cons, branchAt?, headAt_cons]
    cases tokens with
    | nil => simp [twig, childless, List.isPrefixOf?]
    | cons first later =>
      rw [twig, List.find?_singleton, matchesPath_twig_bud, List.isPrefixOf?]
      by_cases equal : token = first
      · subst equal
        simpa using step (bud token) rfl later
      · have different : first ≠ token := fun same => equal same.symm
        simp [equal, different]

end Twig
end RouteNode

/-- What a page, a layout or a plain chain contributes to a tree. -/
structure Contribution where
  tokens : List String
  role : Option RouteRole
  spec : RenderSpec

namespace Contribution

/-- The contribution of a file with the given root prefix. -/
def ofFile (rootPrefix : String) (spec : RenderSpec) : Contribution :=
  { tokens := (ParsedFile.parse rootPrefix spec.source).routeTokens
    role :=
      (ParsedFile.parse rootPrefix spec.source).role.bind FileRole.routeRole?
    spec := spec }

/-- The content at the end of the route. -/
def content? (contribution : Contribution) : Option RouteContent :=
  contribution.role.map fun role => .ofRole role contribution.spec

/-- The tree of a contribution alone. -/
def tree (contribution : Contribution) : RouteNode :=
  .twig contribution.content? .root contribution.tokens

/-- The content that a contribution offers with a role at a route. -/
def claim? (role : RouteRole) (route : List String)
    (contribution : Contribution) :
    Option RouteContent :=
  if contribution.role = some role ∧ contribution.tokens = route then
    some (.ofRole role contribution.spec)
  else none

/-- The token of a contribution that follows a route. -/
def next? (route : List String) (contribution : Contribution) : Option String :=
  (route.isPrefixOf? contribution.tokens).bind List.head?

/-- A file claims a role at a route exactly if it has both. -/
theorem claim_eq_some_iff {role : RouteRole} {route : List String}
    {file : Contribution} {content : RouteContent} :
    file.claim? role route = some content ↔
      (file.role = some role ∧ file.tokens = route) ∧
      .ofRole role file.spec = content := by
  rw [claim?]
  split <;> simp_all

/-- The branch of a file is the tree of its contribution. -/
theorem branch_eq_tree (rootPrefix : String) (spec : RenderSpec) :
    RouteNode.branch spec (ParsedFile.parse rootPrefix spec.source).segments =
      (ofFile rootPrefix spec).tree := by
  have rootEq : RouteNode.ofSegment spec .root [] = .root := rfl
  rw [ParsedFile.segments_parse, RouteNode.branch_endWith, rootEq]
  simp only [tree, content?, ofFile]

theorem tree_path (contribution : Contribution) :
    contribution.tree.path = some rootPath :=
  RouteNode.twig_path _ _ _

theorem tree_index (contribution : Contribution) :
    contribution.tree.index = false :=
  RouteNode.twig_index _ _ _

theorem tree_orderly (contribution : Contribution) :
    contribution.tree.Orderly :=
  RouteNode.twig_orderly _ _ rfl _

/-- Along a beginning of its route the tree of a file leads to the twig that is
left, and along no other route anywhere. -/
theorem reach_tree (contribution : Contribution) (route : List String) :
    contribution.tree.reach? (route.map some) =
      (route.isPrefixOf? contribution.tokens).map
        (RouteNode.twig contribution.content? (RouteNode.headAt .root route)) :=
  RouteNode.reach_twig _ _ rfl _ _

/-- A token follows a route when the tokens start with both. -/
theorem next_eq_some_iff {route : List String} {contribution : Contribution}
    {token : String} :
    contribution.next? route = some token ↔
      route ++ [token] <+: contribution.tokens := by
  rw [next?, Option.bind_eq_some_iff]
  constructor
  · rintro ⟨rest, isRest, first⟩
    obtain ⟨later, equal⟩ := List.head?_eq_some_iff.mp first
    rw [← List.isPrefixOf?_eq_some_iff_append_eq.mp isRest, equal]
    exact ⟨later, by simp⟩
  · rintro ⟨later, equal⟩
    refine ⟨token :: later, List.isPrefixOf?_eq_some_iff_append_eq.mpr ?_, rfl⟩
    simpa using equal

end Contribution
end FileRoutes
