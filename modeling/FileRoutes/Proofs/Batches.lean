import FileRoutes.Proofs.Attachment
import FileRoutes.Proofs.Trie

/-!
# Merging in batches

Tidy trees are equal when they have the same nodes at the same routes, with
branches in the same order.  The union of trees is associative, so files may be
merged one after the other, or in batches whose trees are merged afterwards.
-/

namespace FileRoutes
namespace RouteContent

/-- What stays at a place does not depend on which offers were settled first. -/
theorem settled_assoc (first second third : Option RouteContent) :
    settled (settled first second) third =
      settled first (settled second third) := by
  cases first with
  | none => rfl
  | some holder =>
    cases second with
    | none => rfl
    | some content =>
      cases third with
      | none => rfl
      | some last =>
        cases held : holder.isRenderable <;>
          cases arrives : content.isRenderable <;>
          cases final : last.isRenderable <;>
          simp [settled, settle, held, arrives, final]

end RouteContent

namespace RouteNode

open RouteContent Logged

/-! ## Trees with the same nodes -/

/-- What a node shows at its own place, and the paths of its branches in
order. -/
def setting (node : RouteNode) : Place × List (Option String) :=
  (node.place, node.branches.map RouteNode.path)

/-- Tidy nodes with the same paths have the same branches if each path leads to
the same one. -/
theorem Tidy.branches_eq_of_branchAt {left right : RouteNode}
    (leftTidy : left.Tidy) (rightTidy : right.Tidy)
    (samePaths : left.branches.map RouteNode.path =
      right.branches.map RouteNode.path)
    (below : ∀ branch ∈ left.branches,
      left.branchAt? branch.path = right.branchAt? branch.path) :
    left.branches = right.branches := by
  have same : left.branches.map some = right.branches.map some := by
    rw [← leftTidy.map_branchAt, ← rightTidy.map_branchAt, ← samePaths,
      List.map_map, List.map_map]
    exact List.map_congr_left below
  exact (List.map_inj_right fun _ _ => Option.some.inj).mp same

/-- Tidy trees are equal when every route leads to nodes that show the same,
with branches in the same order. -/
theorem Tidy.eq_of_reach {left right : RouteNode} (leftTidy : left.Tidy)
    (rightTidy : right.Tidy)
    (same : ∀ route, (left.reach? route).map setting =
      (right.reach? route).map setting) :
    left = right := by
  induction leftTidy generalizing right with
  | @intro left notIndex arranged deeper step =>
    have leftTidy : left.Tidy := .intro notIndex arranged deeper
    have here : left.setting = right.setting := Option.some.inj (same [])
    have samePlace : left.place = right.place := congrArg Prod.fst here
    have samePaths := congrArg Prod.snd here
    have sameBranches : left.branches = right.branches := by
      apply leftTidy.branches_eq_of_branchAt rightTidy samePaths
      intro branch member
      have isLeft := leftTidy.branchAt_of_mem member
      have below (rest : List (Option String)) := same (branch.path :: rest)
      simp only [reach_cons, isLeft, Option.bind_some] at below
      cases isRight : right.branchAt? branch.path with
      | none =>
        rw [isRight] at below
        cases below []
      | some other =>
        simp only [isRight, Option.bind_some] at below
        rw [isLeft, step branch member (rightTidy.of_branchAt isRight) below]
    have sameChildren : left.children = right.children := by
      have sameSlot : left.slot? = right.slot? := congrArg Place.slot samePlace
      rw [arranged.children_eq, rightTidy.arranged.children_eq, sameSlot,
        sameBranches]
    have sameIndex : left.index = right.index :=
      notIndex.trans rightTidy.index_eq.symm
    cases left
    cases right
    simp_all [place]

/-! ## Nodes of unions -/

/-- An offer that was made before the index nodes of a list make theirs. -/
theorem unionSlot_settled (slot incoming : Option RouteContent)
    (children : List RouteNode) :
    unionSlot (settled slot incoming) children =
      settled slot (unionSlot incoming children) := by
  induction children generalizing incoming with
  | nil => rfl
  | cons child rest step =>
    rw [unionSlot, unionSlot, List.foldl_cons, List.foldl_cons]
    cases child.index with
    | true =>
      simp only [if_true, settled_assoc]
      exact step _
    | false => exact step incoming

theorem unionSlot_of_plain (slot : Option RouteContent)
    {branches : List RouteNode}
    (plain : ∀ branch ∈ branches, branch.index = false) :
    unionSlot slot branches = slot := by
  induction branches with
  | nil => rfl
  | cons first rest step =>
    have firstPlain := plain first List.mem_cons_self
    rw [unionSlot, List.foldl_cons, if_neg (by simp [firstPlain])]
    exact step fun branch member =>
      plain branch (List.mem_cons_of_mem first member)

/-- The only offer that the children of a tidy node make is the one of its
slot. -/
theorem Tidy.unionSlot_children {node : RouteNode} (tidy : node.Tidy)
    (slot : Option RouteContent) :
    unionSlot slot node.children = settled slot node.slot? := by
  rw [tidy.arranged.children_eq, arrange]
  cases node.slot? with
  | none =>
    exact (unionSlot_of_plain slot tidy.plain).trans
      (settled_none_right slot).symm
  | some content =>
    exact unionSlot_of_plain (settled slot (some content)) tidy.plain

/-- A tidy node has no page to pass on. -/
theorem Tidy.content_own {node : RouteNode} (tidy : node.Tidy) :
    node.content.bind own? = node.content ∧
    node.content.bind visit? = none := by
  have notPage := isPage_eq_false_iff.mp tidy.arranged.notPage
  cases content : node.content with
  | none => exact ⟨rfl, rfl⟩
  | some held =>
    cases held with
    | page spec => exact absurd content (notPage spec)
    | layout spec => exact ⟨rfl, rfl⟩
    | notFound view => exact ⟨rfl, rfl⟩

theorem setting_union {target source : RouteNode} (tidy : target.Tidy)
    (distinct : (source.branches.map RouteNode.path).Nodup) :
    (union target source).setting =
      (⟨target.path, target.dynamic.or source.dynamic,
          settled target.content (source.content.bind own?),
          target.error.or source.error,
          settled target.slot?
            (unionSlot (source.content.bind visit?) source.children)⟩,
        target.branches.map RouteNode.path ++
          (source.branches.map RouteNode.path).filter
            fun path => path ∉ target.branches.map RouteNode.path) := by
  have paths := map_path_unionBranches target.branches tidy.plain distinct
  rw [setting, place, branches_union tidy, paths, slot_union tidy,
    unionSlot_settled, union_path, union_dynamic, union_content, union_error]
  rfl

/-- Uniting tidy nodes joins what they show. -/
theorem setting_union_of_tidy {target source : RouteNode} (tidy : target.Tidy)
    (sourceTidy : source.Tidy) :
    (union target source).setting =
      (⟨target.path, target.dynamic.or source.dynamic,
          settled target.content source.content, target.error.or source.error,
          settled target.slot? source.slot?⟩,
        target.branches.map RouteNode.path ++
          (source.branches.map RouteNode.path).filter
            fun path => path ∉ target.branches.map RouteNode.path) := by
  rw [setting_union tidy sourceTidy.arranged.distinct,
    sourceTidy.unionSlot_children, sourceTidy.content_own.1,
    sourceTidy.content_own.2, settled_none_left]

/-- What is new in the third list is what is new to the first in the part of it
that is new to the second. -/
theorem append_filter_new (first second third : List (Option String)) :
    (first ++ second.filter (· ∉ first)) ++
        third.filter (· ∉ first ++ second.filter (· ∉ first)) =
      first ++ (second ++ third.filter (· ∉ second)).filter (· ∉ first) := by
  rw [List.filter_append, List.filter_filter, List.append_assoc]
  congr 2
  apply List.filter_congr
  intro path _
  by_cases old : path ∈ first <;> simp [old]

/-- The settings of three trees are united in either order of brackets. -/
theorem setting_union_assoc {first second third : RouteNode}
    (firstTidy : first.Tidy) (secondTidy : second.Tidy)
    (distinct : (third.branches.map RouteNode.path).Nodup) :
    (union (union first second) third).setting =
      (union first (union second third)).setting := by
  have inner := setting_union secondTidy distinct
  have outer := setting_union_of_tidy firstTidy secondTidy
  simp only [setting, place, Prod.mk.injEq, Place.mk.injEq] at inner outer
  obtain ⟨⟨innerPath, innerDynamic, innerContent, innerError, innerSlot⟩,
    innerPaths⟩ :=
    inner
  obtain ⟨⟨outerPath, outerDynamic, outerContent, outerError, outerSlot⟩,
    outerPaths⟩ :=
    outer
  rw [setting_union (firstTidy.union second) distinct,
    setting_union_of_tidy firstTidy (secondTidy.union third), innerDynamic,
    innerContent, innerError, innerSlot, innerPaths, outerPath, outerDynamic,
    outerContent, outerError, outerSlot, outerPaths, settled_assoc,
    settled_assoc, Option.or_assoc, Option.or_assoc, append_filter_new]

/-! ## Associativity -/

/-- A bare node adds nothing to a tidy one. -/
theorem union_bare {node : RouteNode} (tidy : node.Tidy)
    (path : Option String) :
    union node { path := path } = node := by
  have same : union node { path := path } =
      node.furnish node.slot? node.branches := by
    rw [union_eq, furnish, furnish]
    simp [fillFrom, unionSlot, unionBranches]
  rw [same, tidy.furnish_eq]

/-- What a union has at a route, given what the two trees have there. -/
def unionAt (route : List (Option String)) (target : Option RouteNode) :
    Option RouteNode -> Option RouteNode
  | none => target
  | some source => some (union (target.getD (bareAt route)) source)

theorem reach_union_eq_unionAt (target : RouteNode) {source : RouteNode}
    (orderly : source.Orderly) (route : List (Option String)) :
    (union target source).reach? route =
      unionAt route (target.reach? route) (source.reach? route) := by
  rw [reach_union target orderly]
  cases source.reach? route <;> rfl

theorem setting_unionAt_assoc (route : List (Option String))
    {first second third : Option RouteNode}
    (firstTidy : ∀ node ∈ first, node.Tidy)
    (secondTidy : ∀ node ∈ second, node.Tidy)
    (distinct : ∀ node ∈ third, (node.branches.map RouteNode.path).Nodup) :
    (unionAt route (unionAt route first second) third).map setting =
      (unionAt route first (unionAt route second third)).map setting := by
  have bareTidy : (bareAt route).Tidy := .bare _ none none
  have heldTidy : (first.getD (bareAt route)).Tidy := by
    cases first with
    | none => exact bareTidy
    | some node => exact firstTidy node rfl
  cases third with
  | none => rfl
  | some last =>
    have lastDistinct := distinct last rfl
    cases second with
    | none =>
      -- The bare node that stands in for the second one is united with the
      -- third only.
      have alone : union (first.getD (bareAt route)) (bareAt route) = _ :=
        union_bare heldTidy _
      have assoc := setting_union_assoc heldTidy bareTidy lastDistinct
      rw [alone] at assoc
      exact congrArg some assoc
    | some node =>
      exact congrArg some
        (setting_union_assoc heldTidy (secondTidy node rfl) lastDistinct)

theorem Orderly.of_reach {node reached : RouteNode} (orderly : node.Orderly)
    {route : List (Option String)} (found : node.reach? route = some reached) :
    reached.Orderly := by
  induction route generalizing node with
  | nil =>
    cases found
    exact orderly
  | cons path rest step =>
    obtain ⟨branch, isBranch, deeper⟩ := Option.bind_eq_some_iff.mp found
    exact step (orderly.of_branchAt isBranch) deeper

/-- Trees are united with the same result in whatever way they are grouped. -/
theorem union_assoc {first second third : RouteNode} (firstTidy : first.Tidy)
    (secondTidy : second.Tidy) (orderly : third.Orderly) :
    union (union first second) third = union first (union second third) := by
  refine ((firstTidy.union second).union third).eq_of_reach
    (firstTidy.union _) ?_
  intro route
  rw [reach_union_eq_unionAt _ orderly,
    reach_union_eq_unionAt _ secondTidy.orderly,
    reach_union_eq_unionAt _ (secondTidy.union third).orderly,
    reach_union_eq_unionAt _ orderly]
  apply setting_unionAt_assoc
  · exact fun node found => firstTidy.of_reach found
  · exact fun node found => secondTidy.of_reach found
  · exact fun node found => (orderly.of_reach found).distinct

end RouteNode

namespace Contribution

open RouteNode Logged

/-- The tree of some files and then others is the union of their trees. -/
theorem grown_append_eq_union (files others : List Contribution) :
    grown (files ++ others) = union (grown files) (grown others) := by
  induction others using List.reverseRecOn with
  | nil => rw [List.append_nil]; exact (union_bare (grown_tidy files) _).symm
  | append_singleton others file step =>
    rw [← List.append_assoc, grown_append, step, grown_append,
      union_assoc (grown_tidy files) (grown_tidy others) file.tree_orderly]

/-- Merge files into a bare root under the permissive policies, one after the
other. -/
def mergeFiles (rootPrefix : String) (specs : List RenderSpec) :
    Logged RouteNode :=
  specs.foldlM (fun tree spec => RouteNode.merge .permissive tree
    (.branch spec (ParsedFile.parse rootPrefix spec.source).segments))
    RouteNode.root

/-- Merging a list of files gives the tree that grows from them. -/
theorem gives_mergeFiles (rootPrefix : String) (specs : List RenderSpec) :
    (mergeFiles rootPrefix specs).Gives
      (grown (specs.map (ofFile rootPrefix))) :=
  gives_foldl_union rootPrefix specs .root rfl

/-- Trees of files can be merged, and give the tree of all the files. -/
theorem gives_merge_grown (files others : List Contribution) :
    (RouteNode.merge .permissive (grown files) (grown others)).Gives
      (grown (files ++ others)) := by
  have samePath : (grown files).path = (grown others).path :=
    (grown_path files).trans (grown_path others).symm
  rw [grown_append_eq_union]
  exact gives_union (grown_tidy files) _ samePath (grown_tidy others).index_eq

/-- Merging the trees of two batches of files gives the very tree that merging
the files one after the other gives, and three such trees can be merged in both
groupings. -/
theorem merge_batches :
    (∀ (rootPrefix : String) (first second : List RenderSpec),
      ∃ left right both, (mergeFiles rootPrefix first).Gives left ∧
        (mergeFiles rootPrefix second).Gives right ∧
        (RouteNode.merge .permissive left right).Gives both ∧
        (mergeFiles rootPrefix (first ++ second)).Gives both) ∧
    ∀ (firstPrefix secondPrefix thirdPrefix : String)
      (first second third : List RenderSpec), ∃ a b c ab bc abc,
      (mergeFiles firstPrefix first).Gives a ∧
      (mergeFiles secondPrefix second).Gives b ∧
        (mergeFiles thirdPrefix third).Gives c ∧
        (RouteNode.merge .permissive a b).Gives ab ∧
        (RouteNode.merge .permissive b c).Gives bc ∧
        (RouteNode.merge .permissive ab c).Gives abc ∧
        (RouteNode.merge .permissive a bc).Gives abc := by
  constructor
  · intro rootPrefix first second
    have together := gives_mergeFiles rootPrefix (first ++ second)
    rw [List.map_append] at together
    exact ⟨_, _, _, gives_mergeFiles rootPrefix first,
      gives_mergeFiles rootPrefix second, gives_merge_grown _ _, together⟩
  · intro firstPrefix secondPrefix thirdPrefix first second third
    have grouped := gives_merge_grown (first.map (ofFile firstPrefix))
      (second.map (ofFile secondPrefix) ++ third.map (ofFile thirdPrefix))
    rw [← List.append_assoc] at grouped
    exact ⟨_, _, _, _, _, _, gives_mergeFiles firstPrefix first,
      gives_mergeFiles secondPrefix second, gives_mergeFiles thirdPrefix third,
      gives_merge_grown _ _, gives_merge_grown _ _,
      gives_merge_grown _ _, grouped⟩

end Contribution
end FileRoutes
