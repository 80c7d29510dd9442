import FileRoutes.Proofs.Absorption
import FileRoutes.Proofs.Additions
import FileRoutes.Proofs.Conflicts
import FileRoutes.Proofs.SortedOutline

/-!
# Files after the not-found pass

A tree may be completed before its last file is merged.  The nodes that the pass
put there are no rivals and give way to pages, so the merge records the same
conflicts as without them, and completing the result once more gives the same
tree up to the order of its branches.
-/

namespace FileRoutes
namespace RouteNode

open RouteContent Logged

/-! ## One node of a completed tree -/

theorem SameHead.displayPath_eq {changed node : RouteNode}
    (sameHead : SameHead changed node) :
    changed.displayPath = node.displayPath := by
  rw [displayPath, displayPath, sameHead.path_eq]

theorem addNotFound_of_children (views : NotFoundViews) {node : RouteNode}
    (nonempty : node.children ≠ []) :
    node.addNotFound views = finish views [] node := by
  rw [addNotFound_eq_finish, openRoot_of_children nonempty]

theorem slot_of_needsIndex {node : RouteNode}
    (lacking : node.needsIndex = true) :
    node.slot? = none := by
  have noIndex : node.indexChild? = none := by
    rw [indexChild?, List.find?_eq_none]
    exact fun child member => by
      simp [(needsIndex_iff.mp lacking).1 child member]
  rw [slot?, noIndex]
  rfl

section Finish

variable (views : NotFoundViews) (route : List String) (node : RouteNode)

/-- A completed node below the root shows a not-found view as its index where it
lacks one. -/
theorem slot_finish :
    (finish views route node).slot? =
      if route ≠ [] ∧ node.children ≠ [] ∧ node.needsIndex = true then
        some (.notFound (views.nearest (Text.joinSlash route)))
      else node.slot? := by
  have below : (node.injectBelow views route).slot? = node.slot? := by
    rw [slot?, slot?, indexChild_injectBelow]
  unfold finish
  by_cases isRoot : route = []
  · rw [if_pos (Or.inl isRoot), if_neg (by simp [isRoot]), complete,
      slot_withCatchAll]
    simpa [isRoot] using below
  · by_cases childless : node.children = []
    · rw [if_neg (by simp [isRoot, childless]), if_neg (by simp [childless])]
    · rw [if_pos (Or.inr childless), complete, slot_withCatchAll,
        needsIndex_injectBelow]
      have notRoot : route.isEmpty = false := by simpa using isRoot
      by_cases lacking : node.needsIndex = true
      · rw [if_pos (by simp [notRoot, lacking]),
          if_pos ⟨isRoot, childless, lacking⟩]
        rfl
      · rw [if_neg (by simp [lacking]), if_neg fun gains => lacking gains.2.2]
        exact below

/-- A branch with another path than the nodes for unmatched paths is completed
where it stands. -/
theorem branchAt_finish_of_ne {path : Option String}
    (other : path ≠ some catchAllPath) :
    (finish views route node).branchAt? path =
      (node.branchAt? path).map (finish views (route ++ [path.getD ""])) := by
  rw [branchAt_finish, if_neg fun both => other both.1, Option.or_none]
  cases found : node.branchAt? path with
  | none => rfl
  | some branch =>
    rw [Option.map_some, Option.map_some,
      injectChild_of_branchAt views route found, if_neg other,
      inject_eq_finish _ _ _ (by simp)]

/-- A missing branch stays missing, and what is held in its place is a bare
node. -/
theorem heldAt_finish {token : String} (other : token ≠ catchAllPath) :
    heldAt (finish views route node).branches (some token) =
      ((node.branchAt? (some token)).map (finish views (route ++ [token]))).getD
        { path := some token } := by
  rw [heldAt, ← branchAt_eq_find_branches,
    branchAt_finish_of_ne views route node fun same =>
      other (Option.some.inj same)]
  rfl

/-! ## Conflicts with a completed tree -/

/-- The nodes that the pass adds are no rivals. -/
theorem displayPath_rival_finish (kind : SegmentKind) :
    ((finish views route node).rival? kind).map displayPath =
      (node.rival? kind).map displayPath := by
  have sameTest :
      (fun child : RouteNode => !child.index &&
          child.dynamic.map SegmentKind.slot == some kind.slot) ∘
        injectChild views route =
      fun child => !child.index &&
        child.dynamic.map SegmentKind.slot == some kind.slot := by
    funext child
    have sameHead := sameHead_injectChild views route child
    rw [Function.comp_apply, sameHead.index_eq, sameHead.dynamic_eq]
  have sameName : displayPath ∘ injectChild views route = displayPath := by
    funext child
    exact (sameHead_injectChild views route child).displayPath_eq
  by_cases visited : route = [] ∨ node.children ≠ []
  · have noRivalBefore (view : View) :
        (fore view route node).find? (fun child =>
        !child.index && child.dynamic.map SegmentKind.slot == some kind.slot) =
          none := by
      unfold fore
      split <;> simp
    have noRivalBehind (view : View) : (hind view node).find? (fun child =>
        !child.index && child.dynamic.map SegmentKind.slot == some kind.slot) =
      none := by
      unfold hind
      split <;> simp [catchAll]
    rw [rival?, rival?, children_finish views route node visited,
      List.find?_append, List.find?_append, noRivalBefore, noRivalBehind,
      Option.none_or, Option.or_none, List.find?_map, sameTest,
      Option.map_map, sameName]
  · rw [finish, if_neg visited]

/-- A token other than the one for unmatched paths has the same rivals in a
completed node. -/
theorem siblingEvents_finish {token : String} (other : token ≠ catchAllPath) :
    siblingEvents (finish views route node) token =
      siblingEvents node token := by
  have sameName := (sameHead_finish views route node).displayPath_eq
  have sameBranch : ((finish views route node).branchAt? (some token)).isNone =
      (node.branchAt? (some token)).isNone := by
    rw [branchAt_finish_of_ne views route node fun same =>
      other (Option.some.inj same), Option.isNone_map]
  rw [siblingEvents, siblingEvents]
  cases SegmentKind.dynamic? token with
  | none => rfl
  | some kind =>
    have sameRival := displayPath_rival_finish views route node kind
    rw [Option.bind_some, Option.bind_some]
    cases isRival : node.rival? kind with
    | none =>
      rw [isRival] at sameRival
      rw [Option.map_eq_none_iff.mp sameRival]
    | some rival =>
      rw [isRival] at sameRival
      obtain ⟨completed, isCompleted, sameRivalName⟩ :=
        Option.map_eq_some_iff.mp sameRival
      simp only [isCompleted, sameBranch, sameName, sameRivalName]

/-- Not-found views give way to a page without a conflict. -/
theorem arrivalEvents_finish (content : Option RouteContent) :
    arrivalEvents (finish views route node) content =
      arrivalEvents node content := by
  have sameHead := sameHead_finish views route node
  have sameName := sameHead.displayPath_eq
  rcases content with _ | ⟨spec⟩ | ⟨spec⟩ | ⟨view⟩
  · rfl
  · have sameSpec : (finish views route node).slot?.bind RouteContent.spec? =
        node.slot?.bind RouteContent.spec? := by
      rw [slot_finish]
      split
      · rename_i gains
        rw [slot_of_needsIndex gains.2.2]
        rfl
      · rfl
    simp only [arrivalEvents, Option.map_some, Option.getD_some, contentEvents,
      slotEvents, sameSpec, sameName]
  · simp only [arrivalEvents, Option.map_some, Option.getD_some, contentEvents,
      sameHead.content_eq, sameName]
  · rfl

/-- Following tokens into a completed tree records what it records in the tree
before. -/
theorem twigEvents_finish (content : Option RouteContent) {tokens : List String}
    (plain : catchAllPath ∉ tokens) :
    twigEvents (finish views route node) content tokens =
      twigEvents node content tokens := by
  induction tokens generalizing route node with
  | nil => exact arrivalEvents_finish views route node content
  | cons token rest step =>
    have other : token ≠ catchAllPath := (List.ne_of_not_mem_cons plain).symm
    have restPlain := List.not_mem_of_not_mem_cons plain
    rw [twigEvents, twigEvents, siblingEvents_finish views route node other,
      heldAt_finish views route node other, heldAt, ← branchAt_eq_find_branches]
    cases node.branchAt? (some token) with
    | none => rfl
    | some branch =>
      simp only [Option.map_some, Option.getD_some]
      rw [step (route ++ [token]) branch restPlain]

end Finish

/-! ## Trees that are completed in part -/

/-- The slot of a node that may have been completed. -/
def SlotOf (views : NotFoundViews) (route : List String) (node : RouteNode)
    (slot : Option RouteContent) : Prop :=
  slot = node.slot? ∨
    (route ≠ [] ∧ node.children ≠ [] ∧ node.needsIndex = true) ∧
      slot = some (.notFound (views.nearest (Text.joinSlash route)))

/-- The branch for unmatched paths of a node that may have been completed. -/
def CatchAllOf (views : NotFoundViews) (route : List String) (node : RouteNode)
    (branch : Option RouteNode) : Prop :=
  branch = none ∨
    node.children ≠ [] ∧
      branch = some (catchAll (views.nearest (Text.joinSlash route)))

/-- The first tree is the second one at a route, with some of the nodes that the
pass adds to it. -/
inductive Partway (views : NotFoundViews) :
    List String -> RouteNode -> RouteNode -> Prop
  | intro {route : List String} {early late : RouteNode}
      (sameHead : SameHead early late)
      (slot : SlotOf views route late early.slot?)
      (catchAll : CatchAllOf views route late (early.branchAt? (some catchAllPath)))
      (uncovered : late.branchAt? (some catchAllPath) = none)
      (same : ∀ path, path ≠ some catchAllPath ->
        (early.branchAt? path = none ↔ late.branchAt? path = none))
      (deeper : ∀ path branch other, path ≠ some catchAllPath ->
        early.branchAt? path = some branch ->
          late.branchAt? path = some other ->
        Partway views (route ++ [path.getD ""]) branch other) :
      Partway views route early late

theorem Unstarred.of_branchAt {tree branch : RouteNode}
    (unstarred : tree.Unstarred) {path : Option String}
    (found : tree.branchAt? path = some branch) :
    branch.Unstarred := by
  intro route node reached
  apply unstarred (path :: route) node
  rw [reach_cons, found]
  exact reached

theorem partway_bare (views : NotFoundViews) (route : List String)
    (path : Option String) :
    Partway views route { path := path } { path := path } :=
  .intro (.refl _) (Or.inl rfl) (Or.inl rfl) rfl (fun _ _ => Iff.rfl)
    fun _ _ _ _ found => nomatch found

/-- A completed tree is partway to itself. -/
theorem Tidy.partway_finish {tree : RouteNode} (tidy : tree.Tidy)
    (unstarred : tree.Unstarred) (views : NotFoundViews) (route : List String)
    (tops : route = [] -> tree.children ≠ []) :
    Partway views route (finish views route tree) tree := by
  induction tidy generalizing route with
  | @intro tree notIndex arranged below step =>
    have tidy : tree.Tidy := .intro notIndex arranged below
    have uncovered := unstarred [] tree rfl
    refine .intro (sameHead_finish views route tree) ?_ ?_ uncovered ?_ ?_
    · rw [slot_finish]
      split
      · rename_i gains
        exact Or.inr ⟨gains, rfl⟩
      · exact Or.inl rfl
    · rw [branchAt_finish, uncovered]
      by_cases childless : tree.children = []
      · have inner : route ≠ [] := fun isRoot => tops isRoot childless
        exact Or.inl (by simp [childless, inner])
      · exact Or.inr ⟨childless, by simp [childless]⟩
    · intro path other
      rw [branchAt_finish_of_ne views route tree other, Option.map_eq_none_iff]
    · intro path branch old other isBranch isOld
      rw [branchAt_finish_of_ne views route tree other, isOld] at isBranch
      obtain rfl := Option.some.inj isBranch
      have member : old ∈ tree.branches := by
        rw [branchAt_eq_find_branches] at isOld
        exact List.mem_of_find?_eq_some isOld
      exact step old member (unstarred.of_branchAt isOld) _ fun empty => by
        simp at empty

/-! ## One more file -/

section Twig

variable {views : NotFoundViews}

/-- A union with a twig settles the slot with the content of the twig, if it
ends there. -/
theorem slot_union_twig {target : RouteNode} (tidy : target.Tidy)
    (content : Option RouteContent) {head : RouteNode}
    (childless : head.children = []) (tokens : List String) :
    (union target (twig content head tokens)).slot? =
      settled target.slot? ((twig content head tokens).content.bind visit?) := by
  rw [slot_union tidy, Contribution.unionSlot_twig _ _ childless]

/-- A twig is united with the branch that has its first token. -/
theorem branchAt_union_twig (target : RouteNode) (content : Option RouteContent)
    {head : RouteNode} (childless : head.children = []) (tokens : List String)
    (path : Option String) :
    (union target (twig content head tokens)).branchAt? path =
      match tokens with
      | [] => target.branchAt? path
      | token :: rest =>
        if path = some token then
          some (union (heldAt target.branches path) (twig content (bud token) rest))
        else target.branchAt? path := by
  rw [branchAt_union _ (twig_orderly content head childless tokens).distinct]
  cases tokens with
  | nil => rw [branchAt?.eq_1 (twig _ _ _), twig, childless]; rfl
  | cons token rest =>
    rw [branchAt?.eq_1 (twig _ _ _), twig, List.find?_singleton,
      matchesPath_twig_bud]
    by_cases same : path = some token
    · simp [same]
    · simp [same, Ne.symm same]

theorem children_union_twig_ne_nil {target : RouteNode} (tidy : target.Tidy)
    (content : Option RouteContent) {head : RouteNode}
    (childless : head.children = []) (tokens : List String)
    (nonempty : target.children ≠ []) :
    (union target (twig content head tokens)).children ≠ [] := by
  rw [Ne, (tidy.union _).children_eq_nil_iff,
    slot_union_twig tidy content childless]
  rintro ⟨noSlot, noBranch⟩
  apply nonempty
  rw [tidy.children_eq_nil_iff]
  refine ⟨?_, fun path => ?_⟩
  · cases held : target.slot? with
    | none => rfl
    | some holder =>
      rw [held] at noSlot
      cases passed : (twig content head tokens).content.bind visit? <;>
        simp [passed, settled] at noSlot
  · have missing := noBranch path
    rw [branchAt_union_twig target content childless] at missing
    split at missing
    · exact missing
    · split at missing
      · cases missing
      · exact missing

/-- A page that arrives displaces the not-found view of the pass, and otherwise
that view is still what the pass puts there. -/
theorem SlotOf.settled {route : List String} {node merged : RouteNode}
    {slot incoming : Option RouteContent}
    (slotOf : SlotOf views route node slot)
    (renderable : ∀ content, incoming = some content ->
      content.isRenderable = true)
    (samePath : merged.path = node.path) (mergedTidy : merged.Tidy)
    (nonempty : node.children ≠ [] -> merged.children ≠ [])
    (mergedSlot : merged.slot? = RouteContent.settled node.slot? incoming) :
    SlotOf views route merged (RouteContent.settled slot incoming) := by
  rcases slotOf with same | ⟨⟨inner, hasChildren, lacking⟩, filled⟩
  · exact Or.inl (by rw [same, mergedSlot])
  · rw [slot_of_needsIndex lacking, settled_none_left] at mergedSlot
    cases incoming with
    | some content =>
      have displaced :
          settle (.notFound (views.nearest (Text.joinSlash route))) content =
            content := by
        rw [settle, renderable content rfl]
        rfl
      refine Or.inl ?_
      rw [mergedSlot, filled, RouteContent.settled, displaced]
    | none =>
      have noIndex : merged.hasIndexChild = false := by
        rw [mergedTidy.hasIndexChild_eq, mergedSlot]
        rfl
      have stillLacking : merged.needsIndex = true := by
        rw [needsIndex, Bool.and_eq_true] at lacking ⊢
        rw [hasPlainPath, samePath, noIndex]
        exact ⟨lacking.1, rfl⟩
      rw [settled_none_right]
      exact Or.inr ⟨⟨inner, nonempty hasChildren, stillLacking⟩, filled⟩

theorem isRenderable_of_visit {content : Option RouteContent}
    {passed : RouteContent}
    (isPassed : content.bind visit? = some passed) :
    passed.isRenderable = true := by
  rcases content with _ | ⟨spec⟩ | ⟨spec⟩ | ⟨view⟩
  · cases isPassed
  · cases isPassed
    rfl
  · cases isPassed
  · cases isPassed

theorem SameHead.union {left right : RouteNode} (sameHead : SameHead left right)
    (source : RouteNode) :
    SameHead (RouteNode.union left source) (RouteNode.union right source) where
  path_eq := by rw [union_path, union_path, sameHead.path_eq]
  index_eq := by rw [union_index, union_index, sameHead.index_eq]
  dynamic_eq := by rw [union_dynamic, union_dynamic, sameHead.dynamic_eq]
  content_eq := by rw [union_content, union_content, sameHead.content_eq]
  error_eq := by rw [union_error, union_error, sameHead.error_eq]

/-- Other branches than those for unmatched paths are at the same paths, and
partway in their turn. -/
theorem Partway.branchAt {route : List String} {early late : RouteNode}
    (partway : Partway views route early late) {path : Option String}
    (other : path ≠ some catchAllPath) :
    (early.branchAt? path = none ∧ late.branchAt? path = none) ∨
      ∃ branch otherBranch, early.branchAt? path = some branch ∧
        late.branchAt? path = some otherBranch ∧
        Partway views (route ++ [path.getD ""]) branch otherBranch := by
  obtain ⟨_, _, _, _, same, deeper⟩ := partway
  cases isEarly : early.branchAt? path with
  | none => exact Or.inl ⟨rfl, (same path other).mp isEarly⟩
  | some branch =>
    cases isLate : late.branchAt? path with
    | none =>
      rw [(same path other).mpr isLate] at isEarly
      cases isEarly
    | some otherBranch =>
      exact Or.inr ⟨branch, otherBranch, rfl, rfl,
        deeper path branch otherBranch other isEarly isLate⟩

/-- What is held at a path is partway, too. -/
theorem Partway.heldAt {route : List String} {early late : RouteNode}
    (partway : Partway views route early late) {path : Option String}
    (other : path ≠ some catchAllPath) :
    Partway views (route ++ [path.getD ""]) (heldAt early.branches path)
      (heldAt late.branches path) := by
  rw [RouteNode.heldAt, RouteNode.heldAt, ← branchAt_eq_find_branches,
    ← branchAt_eq_find_branches]
  rcases partway.branchAt other with
    ⟨noEarly, noLate⟩ | ⟨branch, otherBranch, isEarly, isLate, below⟩
  · rw [noEarly, noLate]
    exact partway_bare views _ path
  · rw [isEarly, isLate]
    exact below

/-- A twig without the token for unmatched paths leaves the branch for them
alone. -/
theorem branchAt_union_twig_catchAll (target : RouteNode)
    (content : Option RouteContent) {head : RouteNode}
    (childless : head.children = []) {tokens : List String}
    (plain : catchAllPath ∉ tokens) :
    (union target (twig content head tokens)).branchAt? (some catchAllPath) =
      target.branchAt? (some catchAllPath) := by
  rw [branchAt_union_twig target content childless]
  cases tokens with
  | nil => rfl
  | cons token rest =>
    have other : catchAllPath ≠ token := List.ne_of_not_mem_cons plain
    exact if_neg fun same => other (Option.some.inj same)

/-- A file keeps a tree partway to another one when it comes to both. -/
theorem Partway.union_twig {route : List String} {early late head : RouteNode}
    (partway : Partway views route early late) (earlyTidy : early.Tidy)
    (lateTidy : late.Tidy) (content : Option RouteContent)
    (childless : head.children = []) {tokens : List String}
    (plain : catchAllPath ∉ tokens) :
    Partway views route (union early (twig content head tokens))
      (union late (twig content head tokens)) := by
  have parts := partway
  obtain ⟨sameHead, slot, catchAll, uncovered, same, deeper⟩ := parts
  have nonempty := children_union_twig_ne_nil lateTidy content childless tokens
  refine .intro (sameHead.union _) ?_ ?_ ?_ ?_ ?_
  · rw [slot_union_twig earlyTidy content childless]
    exact slot.settled (fun _ => isRenderable_of_visit) (union_path _ _)
      (lateTidy.union _) nonempty
      (slot_union_twig lateTidy content childless tokens)
  · rw [branchAt_union_twig_catchAll early content childless plain]
    exact catchAll.imp_right fun isCatchAll =>
      ⟨nonempty isCatchAll.1, isCatchAll.2⟩
  · rw [branchAt_union_twig_catchAll late content childless plain]
    exact uncovered
  · intro path other
    rw [branchAt_union_twig early content childless,
      branchAt_union_twig late content childless]
    cases tokens with
    | nil => exact same path other
    | cons token rest =>
      by_cases onTwig : path = some token
      · simp [onTwig]
      · simp only [if_neg onTwig]
        exact same path other
  · intro path branch otherBranch other isBranch isOther
    rw [branchAt_union_twig early content childless] at isBranch
    rw [branchAt_union_twig late content childless] at isOther
    match tokens with
    | [] => exact deeper path branch otherBranch other isBranch isOther
    | token :: rest =>
      by_cases onTwig : path = some token
      · simp only [if_pos onTwig] at isBranch isOther
        obtain rfl := Option.some.inj isBranch
        obtain rfl := Option.some.inj isOther
        exact (partway.heldAt other).union_twig
          (heldAt_tidy (fun _ member => earlyTidy.of_mem_branches member) path)
          (heldAt_tidy (fun _ member => lateTidy.of_mem_branches member) path)
            content rfl
          (List.not_mem_of_not_mem_cons plain)
      · simp only [if_neg onTwig] at isBranch isOther
        exact deeper path branch otherBranch other isBranch isOther
termination_by tokens

/-! ## Completing once more -/

theorem AlikeBelow.refl (node : Option RouteNode) : AlikeBelow node node := by
  cases node with
  | none => exact Or.inl ⟨rfl, rfl⟩
  | some node => exact Or.inr ⟨node, node, rfl, rfl, fun _ => rfl⟩

/-- A tree that was completed early has children at a node exactly if the other
one does. -/
theorem Partway.children_eq_nil_iff {route : List String}
    {early late : RouteNode} (partway : Partway views route early late)
    (earlyTidy : early.Tidy) (lateTidy : late.Tidy) :
    early.children = [] ↔ late.children = [] := by
  obtain ⟨_, slot, catchAll, uncovered, same, _⟩ := partway
  rw [earlyTidy.children_eq_nil_iff]
  constructor
  · rintro ⟨noSlot, noBranch⟩
    rw [lateTidy.children_eq_nil_iff]
    refine ⟨?_, fun path => ?_⟩
    · rcases slot with sameSlot | ⟨_, filled⟩
      · rw [← sameSlot, noSlot]
      · rw [noSlot] at filled
        cases filled
    · by_cases other : path = some catchAllPath
      · rw [other, uncovered]
      · exact (same path other).mp (noBranch path)
  · intro childless
    obtain ⟨noSlot, noBranch⟩ := lateTidy.children_eq_nil_iff.mp childless
    refine ⟨?_, fun path => ?_⟩
    · rcases slot with sameSlot | ⟨⟨_, hasChildren, _⟩, _⟩
      · rw [sameSlot, noSlot]
      · exact absurd childless hasChildren
    · by_cases other : path = some catchAllPath
      · rcases catchAll with missing | ⟨hasChildren, _⟩
        · rw [other, missing]
        · exact absurd childless hasChildren
      · exact (same path other).mpr (noBranch path)

/-- A tree that is partway to another one has the same slots when both are
completed. -/
theorem Partway.slot_finish {route : List String} {early late : RouteNode}
    (partway : Partway views route early late) (earlyTidy : early.Tidy)
    (lateTidy : late.Tidy) :
    (finish views route early).slot? = (finish views route late).slot? := by
  have sameChildren := partway.children_eq_nil_iff earlyTidy lateTidy
  obtain ⟨sameHead, slot, _, _, _, _⟩ := partway
  rw [RouteNode.slot_finish, RouteNode.slot_finish]
  simp only [ne_eq, sameChildren]
  rcases slot with sameSlot | ⟨gains, filled⟩
  · have sameNeed : early.needsIndex = late.needsIndex := by
      rw [needsIndex, needsIndex, hasPlainPath, hasPlainPath, sameHead.path_eq,
        earlyTidy.hasIndexChild_eq, lateTidy.hasIndexChild_eq, sameSlot]
    rw [sameNeed, sameSlot]
  · have indexed : ¬early.needsIndex = true := by
      intro lacking
      rw [slot_of_needsIndex lacking] at filled
      cases filled
    rw [if_pos gains, if_neg fun both => indexed both.2.2, filled]

/-- A tree that is partway to another one has the same nodes for unmatched paths
when both are completed. -/
theorem Partway.catchAll_finish {route : List String} {early late : RouteNode}
    (partway : Partway views route early late) (earlyTidy : early.Tidy)
    (lateTidy : late.Tidy) :
    (finish views route early).branchAt? (some catchAllPath) =
      (finish views route late).branchAt? (some catchAllPath) := by
  have sameChildren := partway.children_eq_nil_iff earlyTidy lateTidy
  obtain ⟨_, _, isCatchAll, uncovered, _, _⟩ := partway
  rw [branchAt_finish, branchAt_finish, uncovered, Option.map_none,
    Option.none_or]
  rcases isCatchAll with missing | ⟨hasChildren, present⟩
  · rw [missing, Option.map_none, Option.none_or]
    simp only [ne_eq, sameChildren]
  · -- The pass skips the node that it put there before.
    have skipped (view : View) :
        injectChild views route (catchAll view) = catchAll view :=
      if_pos rfl
    rw [present, Option.map_some, skipped, Option.some_or,
      if_pos ⟨rfl, Or.inr hasChildren⟩]

/-- A tree that is partway to another one looks like it when both are
completed. -/
theorem Partway.alike_finish {route : List String} {early late : RouteNode}
    (partway : Partway views route early late) (earlyTidy : early.Tidy)
    (lateTidy : late.Tidy) :
    Alike (finish views route early) (finish views route late) := by
  induction partway with
  | @intro route early late sameHead slot catchAll uncovered same deeper step =>
    have partway : Partway views route early late :=
      ⟨sameHead, slot, catchAll, uncovered, same, deeper⟩
    refine .of_branchAt ?_ fun path => ?_
    · have headsAgree : SameHead (finish views route early) late :=
        (sameHead_finish views route early).trans sameHead
      rw [face_of_sameHead headsAgree,
        face_of_sameHead (sameHead_finish views route late),
        partway.slot_finish earlyTidy lateTidy]
    · by_cases other : path = some catchAllPath
      · rw [other, partway.catchAll_finish earlyTidy lateTidy]
        exact .refl _
      · rw [branchAt_finish_of_ne views route early other,
          branchAt_finish_of_ne views route late other]
        rcases partway.branchAt other with
          ⟨noEarly, noLate⟩ | ⟨branch, otherBranch, isEarly, isLate, _⟩
        · rw [noEarly, noLate]
          exact Or.inl ⟨rfl, rfl⟩
        · rw [isEarly, isLate]
          exact Or.inr ⟨_, _, rfl, rfl,
            step path branch otherBranch other isEarly isLate
              (earlyTidy.of_branchAt isEarly) (lateTidy.of_branchAt isLate)⟩

end Twig

end RouteNode

namespace Contribution

open RouteNode Logged

variable {options : MergeOptions} {views : NotFoundViews}

/-- Files without a folder that is named like the nodes for unmatched paths make
no branch that is taken for one. -/
theorem grown_unstarred {files : List Contribution}
    (plain : ∀ file ∈ files, catchAllPath ∉ file.tokens) :
    (grown files).Unstarred := by
  intro route node reached
  obtain ⟨names, isNames⟩ := exists_names_of_reach_grown reached
  subst isNames
  rw [branchAt_eq_none_iff reached, covers_snoc]
  rintro ⟨file, member, begins⟩
  exact plain file member (begins.subset (by simp))

/-- Whether a file can be merged does not depend on whether the tree is
completed. -/
theorem mergeable_addNotFound_iff {files : List Contribution}
    {file : Contribution}
    (nonempty : (grown files).children ≠ [])
    (plain : catchAllPath ∉ file.tokens) :
    (∃ merged,
      (merge options ((grown files).addNotFound views) file.tree).Gives merged) ↔
      ∃ merged, (merge options (grown files) file.tree).Gives merged := by
  have tidy := grown_tidy files
  have isFinish := addNotFound_of_children views nonempty
  have finishedTidy := tidy.addNotFound views
  have finishedPath :
      ((grown files).addNotFound views).path = some rootPath := by
    rw [isFinish, (sameHead_finish views [] (grown files)).path_eq, grown_path]
  have sameLog :
      (merge .permissive ((grown files).addNotFound views) file.tree).log =
        (merge .permissive (grown files) file.tree).log := by
    rw [log_merge_tree, tree,
      log_merge_twig finishedTidy _ finishedPath rfl rfl rfl, isFinish,
      twigEvents_finish views [] (grown files) _ plain]
  have early :=
    gives_union finishedTidy file.tree (finishedPath.trans file.tree_path.symm)
      file.tree_index
  have late :=
    gives_union tidy file.tree ((grown_path files).trans file.tree_path.symm)
      file.tree_index
  simp only [gives_merge_iff options, sameLog]
  constructor
  · rintro ⟨_, _, allowed⟩
    exact ⟨_, late, allowed⟩
  · rintro ⟨_, _, allowed⟩
    exact ⟨_, early, allowed⟩

/-- A file that is united with a completed tree leads to the outline that it
leads to in the tree before. -/
theorem sorted_addNotFound_union {files : List Contribution}
    {file : Contribution} (nonempty : (grown files).children ≠ [])
    (unstarred : (grown files).Unstarred) (plain : catchAllPath ∉ file.tokens) :
    ((union ((grown files).addNotFound views) file.tree).addNotFound views).sketch =
      ((union (grown files) file.tree).addNotFound views).sketch := by
  have tidy := grown_tidy files
  have finishedTidy := tidy.addNotFound views
  have earlyTidy := finishedTidy.union file.tree
  have lateTidy := tidy.union file.tree
  have isFinish := addNotFound_of_children views nonempty
  have partway :
      Partway views [] ((grown files).addNotFound views) (grown files) := by
    rw [isFinish]
    exact tidy.partway_finish unstarred views [] fun _ => nonempty
  have merged :
      Partway views [] (union ((grown files).addNotFound views) file.tree)
        (union (grown files) file.tree) :=
    partway.union_twig finishedTidy tidy file.content? rfl plain
  have lateNonempty : (union (grown files) file.tree).children ≠ [] :=
    children_union_twig_ne_nil tidy file.content? rfl file.tokens nonempty
  have earlyNonempty :
      (union ((grown files).addNotFound views) file.tree).children ≠ [] :=
    fun childless =>
      lateNonempty ((merged.children_eq_nil_iff earlyTidy lateTidy).mp childless)
  apply Alike.same_sketch _ (earlyTidy.addNotFound views)
    (lateTidy.addNotFound views)
  rw [addNotFound_of_children views earlyNonempty,
    addNotFound_of_children views lateNonempty]
  exact merged.alike_finish earlyTidy lateTidy

/-- It makes no difference to a further file whether the tree of the files
before, which has children, is completed first, when no folder is named like the
nodes for unmatched paths: the file can be merged into both trees or into
neither, and completing the results gives the same tree up to the order of
siblings. -/
theorem merge_addNotFound {earlier : MergeOptions}
    {files : List (String × RenderSpec)} {tree : RouteNode}
    (gives : (mergeBranches earlier files).Gives tree)
    (nonempty : tree.children ≠ []) (file : String × RenderSpec)
    (plain : ∀ known ∈ file :: files,
      catchAllPath ∉ (ParsedFile.parse known.1 known.2.source).routeTokens)
    (options : MergeOptions) (views : NotFoundViews) :
    ((∃ early,
      (merge options (tree.addNotFound views) (branchOf file)).Gives early) ↔
      ∃ late, (merge options tree (branchOf file)).Gives late) ∧
    ∀ early late,
      (merge options (tree.addNotFound views) (branchOf file)).Gives early ->
      (merge options tree (branchOf file)).Gives late ->
      (early.addNotFound views).outline.sorted =
        (late.addNotFound views).outline.sorted := by
  have isGrown : tree = grown (files.map ofListed) :=
    eq_foldl_of_gives files .root gives
  subst isGrown
  simp only [← tokens_ofListed] at plain
  have filePlain := plain file List.mem_cons_self
  have unstarred : (grown (files.map ofListed)).Unstarred := by
    apply grown_unstarred
    intro known member
    obtain ⟨listed, isListed, rfl⟩ := List.mem_map.mp member
    exact plain listed (List.mem_cons_of_mem _ isListed)
  have tidy := grown_tidy (files.map ofListed)
  rw [branchOf_eq_tree]
  refine ⟨mergeable_addNotFound_iff nonempty filePlain, ?_⟩
  intro early late givesEarly givesLate
  rw [eq_union_of_gives (tidy.addNotFound views) givesEarly,
    eq_union_of_gives tidy givesLate, ← sketch, ← sketch]
  exact sorted_addNotFound_union nonempty unstarred filePlain

/-- A shop without a page of its own. -/
def stall : List (String × RenderSpec) :=
  listed "app" ["app/shop/cart/page", "app/shop/[id]/layout"]

/-- The page that the shop was lacking. -/
def counter : String × RenderSpec :=
  ("app", ⟨⟨"app/shop/page", .pages, 0⟩, .builtin .loading⟩)

theorem merge_addNotFound_counter :
    ∃ tree, (mergeBranches .strict stall).Gives tree ∧ tree.children ≠ [] ∧
      (∀ known ∈ counter :: stall,
        catchAllPath ∉ (ParsedFile.parse known.1 known.2.source).routeTokens) ∧
      ∃ early late,
        (merge .strict (tree.addNotFound {}) (branchOf counter)).Gives early ∧
        (merge .strict tree (branchOf counter)).Gives late ∧
        (early.addNotFound {}).outline.sorted =
          (late.addNotFound {}).outline.sorted := by
  have merges : (mergeBranches .strict stall).outcome.toOption.any (fun tree =>
      !tree.children.isEmpty &&
        (merge .strict tree (branchOf counter)).outcome.toOption.any fun _ =>
          true) =
      true := by
    decide +kernel
  have plain : ∀ known ∈ counter :: stall,
      catchAllPath ∉ (ParsedFile.parse known.1 known.2.source).routeTokens := by
    decide +kernel
  obtain ⟨tree, gives, passes⟩ := exists_gives_of_any merges
  rw [Bool.and_eq_true, Bool.not_eq_true', List.isEmpty_eq_false_iff] at passes
  obtain ⟨nonempty, mergesCounter⟩ := passes
  obtain ⟨late, givesLate, _⟩ := exists_gives_of_any mergesCounter
  obtain ⟨sameSuccess, sameOutline⟩ :=
    merge_addNotFound gives nonempty counter plain .strict {}
  obtain ⟨early, givesEarly⟩ := sameSuccess.mpr ⟨late, givesLate⟩
  exact ⟨tree, gives, nonempty, plain, early, late, givesEarly, givesLate,
    sameOutline early late givesEarly givesLate⟩

end Contribution
end FileRoutes
