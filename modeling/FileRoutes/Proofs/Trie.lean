import FileRoutes.Proofs.Contribution
import Mathlib.Data.List.Induction

/-!
# The tree of a list of files

The tree that grows when files are merged one after the other is the trie of
their routes.  Its nodes are the beginnings of routes; at each of them stand the
first layout and the first page with just that route, and the tokens that follow
it in the order of their first appearance.
-/

namespace FileRoutes
namespace Contribution

open RouteNode RouteContent

/-- The tree that grows from a bare root. -/
def grown (files : List Contribution) : RouteNode :=
  files.foldl (fun tree file => union tree file.tree) .root

/-- The tokens that follow a route, in the order of their first appearance. -/
def nextTokens (files : List Contribution) (route : List String) :
    List String :=
  (files.filterMap (next? route)).eraseDups

/-- Whether a route is the beginning of the route of a file. -/
def Covers (files : List Contribution) (route : List String) : Prop :=
  route = [] ∨ ∃ file ∈ files, route <+: file.tokens

/-- What a node collects from files: the first layout and the first page with
its route, and the tokens that follow its route. -/
structure Gathers (files : List Contribution) (route : List String)
    (node : RouteNode) : Prop where
  content_eq : node.content = files.findSome? (claim? .layout route)
  slot_eq : node.slot? = files.findSome? (claim? .page route)
  error_eq : node.error = none
  paths_eq : node.branches.map RouteNode.path =
    (nextTokens files route).map some

/-- What the node at a route is. -/
structure Describes (files : List Contribution) (route : List String)
    (node : RouteNode) : Prop extends Gathers files route node where
  path_eq : node.path = some (route.getLast?.getD rootPath)
  dynamic_eq : node.dynamic = route.getLast?.bind SegmentKind.dynamic?

variable {files : List Contribution} {file : Contribution} {route : List String}

theorem grown_append :
    grown (files ++ [file]) = union (grown files) file.tree := by
  rw [grown, List.foldl_append]
  rfl

theorem grown_tidy (files : List Contribution) : (grown files).Tidy := by
  induction files using List.reverseRecOn with
  | nil => exact .root
  | append_singleton files file step =>
    rw [grown_append]
    exact step.union _

theorem grown_path (files : List Contribution) :
    (grown files).path = some rootPath := by
  induction files using List.reverseRecOn with
  | nil => rfl
  | append_singleton files file step => rw [grown_append, union_path, step]

/-! ## One more file -/

/-- A further file adds a token behind a route only if it is the first to have
it there. -/
theorem nextTokens_append :
    nextTokens (files ++ [file]) route =
      nextTokens files route ++
        (file.next? route).toList.filter fun token =>
          token ∉ nextTokens files route := by
  rw [nextTokens, nextTokens, List.filterMap_append, List.eraseDups_append]
  generalize files.filterMap (next? route) = known
  cases next : file.next? route with
  | none => simp [next, List.removeAll]
  | some token =>
    by_cases old : token ∈ known <;>
      simp [next, List.removeAll, old, List.eraseDups_cons]

theorem covers_append :
    Covers (files ++ [file]) route ↔
      Covers files route ∨ route <+: file.tokens := by
  simp only [Covers, List.mem_append, List.mem_singleton,
    or_and_right, exists_or, exists_eq_left, or_assoc]

/-- A file claims nothing at a route that does not begin its own. -/
theorem claim_eq_none {role : RouteRole} (apart : ¬route <+: file.tokens) :
    file.claim? role route = none := by
  rw [claim?, if_neg]
  rintro ⟨_, equal⟩
  exact apart (equal ▸ List.prefix_rfl)

theorem next_eq_none (apart : ¬route <+: file.tokens) :
    file.next? route = none := by
  cases next : file.next? route with
  | none => rfl
  | some token =>
    exact absurd ((List.prefix_append route [token]).trans
      (next_eq_some_iff.mp next)) apart

/-- A file with another route adds nothing. -/
theorem Gathers.of_apart {node : RouteNode} (gathers : Gathers files route node)
    (apart : ¬route <+: file.tokens) :
    Gathers (files ++ [file]) route node where
  content_eq := by
    rw [gathers.content_eq, List.findSome?_append, List.findSome?_singleton,
      claim_eq_none apart, Option.or_none]
  slot_eq := by
    rw [gathers.slot_eq, List.findSome?_append, List.findSome?_singleton,
      claim_eq_none apart, Option.or_none]
  error_eq := gathers.error_eq
  paths_eq := by
    rw [gathers.paths_eq, nextTokens_append, next_eq_none apart,
      Option.toList_none, List.filter_nil, List.append_nil]

/-- At a route that no file has, there is nothing to gather. -/
theorem gathers_bare {path : Option String} (uncovered : ¬Covers files route) :
    Gathers files route { path := path } := by
  have apart : ∀ file ∈ files, ¬route <+: file.tokens :=
    fun file member begins => uncovered (Or.inr ⟨file, member, begins⟩)
  have noClaim (role : RouteRole) :
      files.findSome? (claim? role route) = none :=
    List.findSome?_eq_none_iff.mpr fun file member =>
      claim_eq_none (apart file member)
  have noToken : files.filterMap (next? route) = [] :=
    List.filterMap_eq_nil_iff.mpr fun file member =>
      next_eq_none (apart file member)
  refine ⟨(noClaim .layout).symm, (noClaim .page).symm, rfl, ?_⟩
  rw [nextTokens, noToken]
  rfl

theorem findSome_claim_eq {role : RouteRole} {content : RouteContent}
    (found : files.findSome? (claim? role route) = some content) :
    ∃ spec, content = ofRole role spec := by
  obtain ⟨file, _, claimed⟩ := List.exists_of_findSome?_eq_some found
  exact ⟨file.spec, (claim_eq_some_iff.mp claimed).2.symm⟩

/-- A page or layout that was claimed is not displaced. -/
theorem settled_findSome_claim (role : RouteRole)
    (incoming : Option RouteContent) :
    settled (files.findSome? (claim? role route)) incoming =
      (files.findSome? (claim? role route)).or incoming := by
  cases found : files.findSome? (claim? role route) with
  | none => rfl
  | some holder =>
    obtain ⟨spec, isHolder⟩ := findSome_claim_eq found
    have renderable : holder.isRenderable = true := by
      rw [isHolder]
      cases role <;> rfl
    cases incoming <;> simp [settled, settle, renderable]

/-- The end of a twig holds the claim of its file, as what a node keeps for
itself or as what it passes on. -/
theorem content_twig {head : RouteNode} (bare : head.content = none)
    {rest : List String} (isRest : route.isPrefixOf? file.tokens = some rest) :
    (twig file.content? head rest).content.bind own? =
      file.claim? .layout route ∧
      (twig file.content? head rest).content.bind visit? =
        file.claim? .page route := by
  have tokens := List.isPrefixOf?_eq_some_iff_append_eq.mp isRest
  cases rest with
  | nil =>
    rw [List.append_nil] at tokens
    obtain ⟨_, role, spec⟩ := file
    rcases role with _ | role
    · simp [twig, claim?, content?]
    · cases role <;> simp [twig, claim?, content?, tokens, ofRole, own?, visit?]
  | cons token rest =>
    have different : file.tokens ≠ route := by simp [← tokens]
    simp [twig, claim?, bare, different]

/-- A twig has no index child, so it leaves slots alone. -/
theorem unionSlot_twig (slot content : Option RouteContent) {head : RouteNode}
    (childless : head.children = []) (rest : List String) :
    unionSlot slot (twig content head rest).children = slot := by
  cases rest with
  | nil => simp [twig, unionSlot, childless]
  | cons token rest => simp [twig, unionSlot, twig_index, bud]

/-- A file that passes a route adds its claim and its next token. -/
theorem Gathers.union {node head : RouteNode}
    (gathers : Gathers files route node) (tidy : node.Tidy)
    (contentless : head.content = none) (childless : head.children = [])
    (unguarded : head.error = none) {rest : List String}
    (isRest : route.isPrefixOf? file.tokens = some rest) :
    Gathers (files ++ [file]) route
      (union node (twig file.content? head rest)) where
  content_eq := by
    rw [union_content, gathers.content_eq, settled_findSome_claim,
      (content_twig contentless isRest).1, List.findSome?_append,
      List.findSome?_singleton]
  slot_eq := by
    rw [slot_union tidy, unionSlot_twig _ _ childless, gathers.slot_eq,
      settled_findSome_claim, (content_twig contentless isRest).2,
      List.findSome?_append, List.findSome?_singleton]
  error_eq := by
    rw [union_error, gathers.error_eq, twig_error, unguarded]
    rfl
  paths_eq := by
    have next : file.next? route = rest.head? := by
      rw [next?, isRest, Option.bind_some]
    have distinct := (twig_orderly file.content? head childless rest).distinct
    have twigBranches := branches_twig file.content? head childless rest
    rw [branches_union tidy, map_path_unionBranches _ tidy.plain distinct,
      ← branches, twigBranches, map_path_twig _ _ childless, gathers.paths_eq,
      nextTokens_append, next, List.map_append, List.filter_map]
    congr 2
    apply List.filter_congr
    intro token _
    have injective : Function.Injective (@some String) :=
      fun _ _ => Option.some.inj
    rw [Function.comp_apply, decide_eq_decide,
      List.mem_map_of_injective injective]

/-! ## The node at a route -/

/-- The head of a twig at a route brings neither content nor children nor an
error view. -/
theorem headAt_root_bare (route : List String) :
    (headAt .root route).content = none ∧ (headAt .root route).children = [] ∧
      (headAt .root route).error = none := by
  rw [headAt]
  cases route.getLast? <;> exact ⟨rfl, rfl, rfl⟩

theorem headAt_root_dynamic (route : List String) :
    (headAt .root route).dynamic =
      route.getLast?.bind SegmentKind.dynamic? := by
  rw [headAt]
  cases route.getLast? <;> rfl

theorem describes_root : Describes [] [] .root where
  content_eq := rfl
  slot_eq := rfl
  error_eq := rfl
  paths_eq := rfl
  path_eq := rfl
  dynamic_eq := rfl

/-- A node grows with a file that passes its route. -/
theorem Describes.union {node : RouteNode}
    (describes : Describes files route node) (tidy : node.Tidy)
    {rest : List String} (isRest : route.isPrefixOf? file.tokens = some rest) :
    Describes (files ++ [file]) route
      (RouteNode.union node (twig file.content? (headAt .root route) rest)) := by
  obtain ⟨contentless, childless, unguarded⟩ := headAt_root_bare route
  refine ⟨describes.toGathers.union tidy contentless childless unguarded isRest,
    ?_, ?_⟩
  · rw [union_path, describes.path_eq]
  · rw [union_dynamic, describes.dynamic_eq, twig_dynamic, headAt_root_dynamic,
      Option.or_self]

/-- A file makes the nodes of its route that are not there yet. -/
theorem describes_bareAt_union (uncovered : ¬Covers files route)
    {rest : List String} (isRest : route.isPrefixOf? file.tokens = some rest) :
    Describes (files ++ [file]) route
      (RouteNode.union (bareAt (route.map some))
        (twig file.content? (headAt .root route) rest)) := by
  obtain ⟨contentless, childless, unguarded⟩ := headAt_root_bare route
  have nonempty : route ≠ [] := fun empty => uncovered (Or.inl empty)
  refine ⟨(gathers_bare uncovered).union (.bare _ none none) contentless childless
    unguarded isRest, ?_, ?_⟩
  · rw [union_path, bareAt, List.getLast?_map,
      List.getLast?_eq_some_getLast nonempty]
    rfl
  · rw [union_dynamic, twig_dynamic, headAt_root_dynamic]
    rfl

/-- The grown tree has a node at every beginning of a route, and no other. -/
theorem reach_grown (files : List Contribution) (route : List String) :
    (¬Covers files route ∧ (grown files).reach? (route.map some) = none) ∨
      (Covers files route ∧
        ∃ node, (grown files).reach? (route.map some) = some node ∧
        Describes files route node) := by
  -- The last file either passes the route and is united with the node there, or
  -- leaves that node as it is.
  induction files using List.reverseRecOn with
  | nil =>
    by_cases empty : route = []
    · subst empty
      exact Or.inr ⟨Or.inl rfl, .root, rfl, describes_root⟩
    · refine Or.inl ⟨by simp [Covers, empty], reach_bare ?_⟩
      simpa using empty
  | append_singleton files file step =>
    rw [grown_append, reach_union _ file.tree_orderly, reach_tree,
      covers_append, ← List.isPrefixOf_iff_prefix]
    cases isRest : route.isPrefixOf? file.tokens with
    | none =>
      have apart : ¬route <+: file.tokens := by
        rintro ⟨rest, equal⟩
        rw [List.isPrefixOf?_eq_some_iff_append_eq.mpr equal] at isRest
        cases isRest
      simp only [Option.map_none, List.isPrefixOf_iff_prefix, apart, or_false]
      rcases step with missing | ⟨covered, node, found, describes⟩
      · exact Or.inl missing
      · exact Or.inr ⟨covered, node, found, describes.toGathers.of_apart apart,
          describes.path_eq, describes.dynamic_eq⟩
    | some rest =>
      have begins : route <+: file.tokens :=
        ⟨rest, List.isPrefixOf?_eq_some_iff_append_eq.mp isRest⟩
      refine Or.inr ⟨Or.inr (List.isPrefixOf_iff_prefix.mpr begins), _, rfl, ?_⟩
      rcases step with ⟨uncovered, missing⟩ | ⟨_, node, found, describes⟩
      · rw [missing]
        exact describes_bareAt_union uncovered isRest
      · rw [found]
        exact describes.union ((grown_tidy files).of_reach found) isRest

/-- What is reached in a grown tree describes the files at that route. -/
theorem describes_of_reach_grown {node : RouteNode}
    (found : (grown files).reach? (route.map some) = some node) :
    Describes files route node := by
  rcases reach_grown files route with
    ⟨_, missing⟩ | ⟨_, other, isOther, describes⟩
  · rw [missing] at found
    cases found
  · rw [isOther] at found
    cases found
    exact describes

/-- A grown tree has a node exactly at the routes that its files cover. -/
theorem reach_grown_isSome_iff :
    ((grown files).reach? (route.map some)).isSome = true ↔
      Covers files route := by
  rcases reach_grown files route with
    ⟨uncovered, missing⟩ | ⟨covered, node, found, _⟩
  · rw [missing]
    exact iff_of_false Bool.false_ne_true uncovered
  · rw [found]
    exact iff_of_true rfl covered

/-- Every node of a grown tree is reached by names. -/
theorem exists_names_of_reach_grown {route : List (Option String)}
    {node : RouteNode} (found : (grown files).reach? route = some node) :
    ∃ names : List String, route = names.map some := by
  induction route using List.reverseRecOn generalizing node with
  | nil => exact ⟨[], rfl⟩
  | append_singleton front path step =>
    rw [reach_append_singleton] at found
    obtain ⟨parent, isParent, isBranch⟩ := Option.bind_eq_some_iff.mp found
    obtain ⟨names, isNames⟩ := step isParent
    subst isNames
    rw [branchAt_eq_find_branches] at isBranch
    have isPath : path ∈ parent.branches.map RouteNode.path := by
      rw [← (matchesPath_iff.mp (List.find?_some isBranch)).2]
      exact List.mem_map_of_mem (List.mem_of_find?_eq_some isBranch)
    rw [(describes_of_reach_grown isParent).paths_eq] at isPath
    obtain ⟨name, _, isName⟩ := List.mem_map.mp isPath
    refine ⟨names ++ [name], ?_⟩
    rw [List.map_append, List.map_singleton, isName]

/-! ## The tree that merging gives -/

/-- Merging the branches of files, each read with its own root prefix, gives
their union. -/
theorem gives_foldl_branches (files : List (String × RenderSpec))
    {tree : RouteNode} (tidy : tree.Tidy) (isRoot : tree.path = some rootPath) :
    (files.foldlM (fun tree file => RouteNode.merge .permissive tree
        (.branch file.2 (ParsedFile.parse file.1 file.2.source).segments))
      tree).Gives
      ((files.map fun file => ofFile file.1 file.2).foldl
        (fun tree file => union tree file.tree) tree) := by
  induction files generalizing tree with
  | nil => rfl
  | cons file rest step =>
    rw [List.foldlM_cons, branch_eq_tree, List.map_cons, List.foldl_cons]
    have samePath : tree.path = (ofFile file.1 file.2).tree.path := by
      rw [isRoot, tree_path]
    refine (gives_union tidy _ samePath (tree_index _)).bind ?_
    exact step (tidy.union _) ((union_path _ _).trans isRoot)

/-- Merging files into a tidy tree one after the other succeeds, and gives the
union with all their trees. -/
theorem gives_foldl_union (rootPrefix : String) (specs : List RenderSpec)
    {tree : RouteNode} (tidy : tree.Tidy) (isRoot : tree.path = some rootPath) :
    (specs.foldlM (fun tree spec => RouteNode.merge .permissive tree
        (.branch spec (ParsedFile.parse rootPrefix spec.source).segments))
      tree).Gives
      ((specs.map (ofFile rootPrefix)).foldl (fun tree file => union tree file.tree)
        tree) := by
  have merged :=
    gives_foldl_branches (specs.map (Prod.mk rootPrefix)) tidy isRoot
  rwa [List.foldlM_map, List.map_map] at merged

/-- Merging files into a bare root never fails under the permissive policies,
and gives the trie of their routes.  It has a node at every beginning of a
route; the node renders the first layout there, its index child is the first
page there, and its other children are those that follow it, in the order of
their first appearance. -/
theorem merged_files_eq_trie (rootPrefix : String) (specs : List RenderSpec) :
    ∃ tree : RouteNode,
      (specs.foldlM (fun tree spec => RouteNode.merge .permissive tree
        (.branch spec (ParsedFile.parse rootPrefix spec.source).segments))
        RouteNode.root).Gives tree ∧
      ∀ route : List String,
        ((tree.descendant? route).isSome ↔
          route = [] ∨ ∃ spec ∈ specs,
            route <+: (ParsedFile.parse rootPrefix spec.source).routeTokens) ∧
        ∀ node, tree.descendant? route = some node →
          node.content =
            (specs.map (ofFile rootPrefix)).findSome? (claim? .layout route) ∧
          node.indexChild? =
            ((specs.map (ofFile rootPrefix)).findSome? (claim? .page route)).map
              indexOf ∧
          node.dynamic = route.getLast?.bind SegmentKind.dynamic? ∧
          node.children = node.indexChild?.toList ++ node.branches ∧
          node.branches.map some =
            (nextTokens (specs.map (ofFile rootPrefix)) route).map
              fun token => tree.descendant? (route ++ [token]) := by
  refine ⟨grown (specs.map (ofFile rootPrefix)),
    gives_foldl_union rootPrefix specs .root rfl, ?_⟩
  intro route
  have covers : Covers (specs.map (ofFile rootPrefix)) route ↔
      route = [] ∨ ∃ spec ∈ specs,
        route <+: (ParsedFile.parse rootPrefix spec.source).routeTokens := by
    simp only [Covers, List.mem_map, exists_exists_and_eq_and, ofFile]
  rw [← covers, descendant_eq_reach]
  rcases reach_grown (specs.map (ofFile rootPrefix)) route with
    ⟨uncovered, missing⟩ | ⟨covered, node, found, describes⟩
  · simp [missing, uncovered]
  · refine ⟨by simp [found, covered], ?_⟩
    rintro other isNode
    obtain rfl : node = other := Option.some.inj (found.symm.trans isNode)
    have tidy := (grown_tidy (specs.map (ofFile rootPrefix))).of_reach found
    refine ⟨describes.content_eq, ?_, describes.dynamic_eq, ?_, ?_⟩
    · rw [tidy.indexChild_eq, describes.slot_eq]
    · rw [tidy.indexChild_eq]
      exact tidy.arranged.children_eq
    · rw [← tidy.map_branchAt, describes.paths_eq, List.map_map]
      apply List.map_congr_left
      intro token _
      rw [descendant_eq_reach, List.map_append, List.map_singleton,
        reach_append_singleton, found]
      rfl

end Contribution
end FileRoutes
