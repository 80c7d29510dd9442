import FileRoutes.Proofs.Policy
import FileRoutes.Proofs.Tidy

/-!
# Merging as a union

Under the permissive policies the merge of any tree into a tidy one succeeds,
and its value is described without events and failures: contents settle at
their places, and branches with equal paths are united in turn.
-/

namespace FileRoutes
namespace RouteContent

/-- The content that stays when more content arrives.  Only a page or a layout
displaces what is there, and only a not-found view gives way. -/
def settle (holder incoming : RouteContent) : RouteContent :=
  if !holder.isRenderable && incoming.isRenderable then incoming else holder

/-- The content that stays at a place that may be empty. -/
def settled : Option RouteContent -> Option RouteContent -> Option RouteContent
  | none, incoming => incoming
  | some holder, none => some holder
  | some holder, some incoming => some (settle holder incoming)

/-- The content that a node keeps for itself: everything but a page. -/
def own? : RouteContent -> Option RouteContent
  | page _ => none
  | layout spec => some (layout spec)
  | notFound view => some (notFound view)

/-- The content that a node passes on to its index child: a page. -/
def visit? : RouteContent -> Option RouteContent
  | page spec => some (page spec)
  | layout _ => none
  | notFound _ => none

@[simp] theorem settled_none_left (incoming : Option RouteContent) :
    settled none incoming = incoming := rfl

@[simp] theorem settled_none_right (holder : Option RouteContent) :
    settled holder none = holder := by
  cases holder <;> rfl

/-- A settled slot keeps its holder or takes the incoming content. -/
theorem settled_eq_or (holder incoming : Option RouteContent) :
    settled holder incoming = holder ∨ settled holder incoming = incoming := by
  cases holder with
  | none => exact Or.inr rfl
  | some held =>
    cases incoming with
    | none => exact Or.inl rfl
    | some content =>
      simp only [settled, settle]
      split
      · exact Or.inr rfl
      · exact Or.inl rfl

end RouteContent

namespace RouteNode

open RouteContent Logged

/-- The content of an index child after the index nodes of a list made their
offers, one after the other. -/
def unionSlot (slot : Option RouteContent) (children : List RouteNode) :
    Option RouteContent :=
  children.foldl
    (fun slot child =>
      if child.index then settled slot child.content else slot) slot

/-- The node that a child with a path is united with: the branch that is there
or a bare node. -/
def heldAt (present : List RouteNode) (path : Option String) : RouteNode :=
  (present.find? (matchesPath path)).getD { path := path }

mutual

/-- The union of two trees; what the first one has at a place stays there. -/
def union (target : RouteNode) : RouteNode -> RouteNode
  | ⟨_, _, dynamic, content, error, children⟩ =>
    furnish
      { target.fillFrom dynamic error with
        content := settled target.content (content.bind own?) }
      (unionSlot (settled target.slot? (content.bind visit?)) children)
      (unionBranches target.branches children)

/-- Unite branches with further children, matched by their paths. -/
def unionBranches (present : List RouteNode) : List RouteNode -> List RouteNode
  | [] => present
  | child :: rest =>
    if child.index then
      unionBranches present rest
    else
      unionBranches
        (putAt child.path (union (heldAt present child.path) child) present) rest

end

/-- The union fills the target from the source, settles its content and its
slot, and unites the branches. -/
theorem union_eq (target source : RouteNode) :
    union target source =
      furnish
        { target.fillFrom source.dynamic source.error with
          content := settled target.content (source.content.bind own?) }
        (unionSlot (settled target.slot? (source.content.bind visit?))
          source.children)
        (unionBranches target.branches source.children) := by
  obtain ⟨path, index, dynamic, content, error, children⟩ := source
  rw [union]

@[simp] theorem union_path (target source : RouteNode) :
    (union target source).path = target.path := by
  rw [union_eq]
  rfl

@[simp] theorem union_index (target source : RouteNode) :
    (union target source).index = target.index := by
  rw [union_eq]
  rfl

@[simp] theorem union_dynamic (target source : RouteNode) :
    (union target source).dynamic = target.dynamic.or source.dynamic := by
  rw [union_eq]
  rfl

@[simp] theorem union_error (target source : RouteNode) :
    (union target source).error = target.error.or source.error := by
  rw [union_eq]
  rfl

@[simp] theorem union_content (target source : RouteNode) :
    (union target source).content =
      settled target.content (source.content.bind own?) := by
  rw [union_eq]
  rfl

/-! ## The union is tidy -/

theorem matchesPath_heldAt (present : List RouteNode) (path : Option String) :
    (heldAt present path).matchesPath path = true := by
  rw [heldAt]
  cases found : present.find? (matchesPath path) with
  | none => exact matchesPath_iff.mpr ⟨rfl, rfl⟩
  | some branch => exact List.find?_some found

theorem heldAt_tidy {present : List RouteNode}
    (tidy : ∀ branch ∈ present, branch.Tidy) (path : Option String) :
    (heldAt present path).Tidy := by
  rw [heldAt]
  cases found : present.find? (matchesPath path) with
  | none => exact .bare path none none
  | some branch => exact tidy branch (List.mem_of_find?_eq_some found)

/-- What is united with the node held at a path has that path. -/
theorem matchesPath_union_heldAt (present : List RouteNode)
    (path : Option String) (child : RouteNode) :
    (union (heldAt present path) child).matchesPath path = true := by
  rw [matchesPath_iff, union_path, union_index]
  exact matchesPath_iff.mp (matchesPath_heldAt present path)

theorem unionBranches_index {present rest : List RouteNode} {child : RouteNode}
    (index : child.index = true) :
    unionBranches present (child :: rest) = unionBranches present rest := by
  rw [unionBranches, if_pos index]

/-- Each branch of the source is united with the one under its path, which is
then put in its place. -/
theorem unionBranches_branch {present rest : List RouteNode} {child : RouteNode}
    (plain : child.index = false) :
    unionBranches present (child :: rest) =
      unionBranches
        (putAt child.path (union (heldAt present child.path) child) present)
          rest := by
  rw [unionBranches, if_neg (by simp [plain])]

theorem isPage_eq_false_iff {node : RouteNode} :
    node.isPage = false ↔ ∀ spec, node.content ≠ some (.page spec) := by
  rw [isPage, RouteNode.role?]
  cases node.content with
  | none => simp
  | some content => cases content <;> simp [RouteContent.role?]

/-- A union never puts a page on the node itself. -/
theorem union_isPage {target : RouteNode} (notPage : target.isPage = false)
    (source : RouteNode) : (union target source).isPage = false := by
  rw [isPage_eq_false_iff] at notPage ⊢
  intro spec
  rw [union_content]
  rcases settled_eq_or target.content (source.content.bind own?) with
    kept | taken
  · rw [kept]
    exact notPage spec
  · rw [taken]
    cases source.content with
    | none => simp
    | some content => cases content <;> simp [own?]

/-- Putting a united branch in its place keeps branches tidy and their paths
distinct. -/
theorem putAt_union_tidy {present : List RouteNode} {child : RouteNode}
    (tidy : ∀ branch ∈ present, branch.Tidy)
    (distinct : (present.map RouteNode.path).Nodup)
    (united : (union (heldAt present child.path) child).Tidy) :
    (∀ branch ∈ putAt child.path (union (heldAt present child.path) child) present,
        branch.Tidy) ∧
      ((putAt child.path (union (heldAt present child.path) child) present).map
        RouteNode.path).Nodup := by
  constructor
  · intro branch member
    rcases mem_putAt member with equal | old
    · exact equal ▸ united
    · exact tidy branch old
  · apply nodup_putAt
    · exact (matchesPath_iff.mp
        (matchesPath_union_heldAt present child.path child)).2
    · exact fun branch member => (tidy branch member).index_eq
    · exact distinct

mutual

/-- Whatever is united with a tidy tree, the union is tidy. -/
theorem Tidy.union {target : RouteNode} (tidy : target.Tidy)
    (source : RouteNode) :
    (union target source).Tidy := by
  have notPage := union_isPage tidy.arranged.notPage source
  obtain ⟨path, index, dynamic, content, error, children⟩ := source
  obtain ⟨branchesTidy, distinct⟩ := unionBranches_tidy children
    (fun _ member => tidy.of_mem_branches member) tidy.arranged.distinct
  rw [RouteNode.union]
  exact Tidy.furnish _ tidy.index_eq notPage branchesTidy distinct

theorem unionBranches_tidy {present : List RouteNode}
    (children : List RouteNode) (tidy : ∀ branch ∈ present, branch.Tidy)
    (distinct : (present.map RouteNode.path).Nodup) :
    (∀ branch ∈ unionBranches present children, branch.Tidy) ∧
      ((unionBranches present children).map RouteNode.path).Nodup := by
  match children with
  | [] =>
    rw [unionBranches]
    exact ⟨tidy, distinct⟩
  | child :: rest =>
    cases index : child.index with
    | true =>
      rw [unionBranches_index index]
      exact unionBranches_tidy rest tidy distinct
    | false =>
      rw [unionBranches_branch index]
      obtain ⟨putTidy, putDistinct⟩ := putAt_union_tidy tidy distinct
        ((heldAt_tidy tidy child.path).union child)
      exact unionBranches_tidy rest putTidy putDistinct

end

/-! ## Contents that arrive -/

/-- The conflict recorded when content is offered to a slot. -/
def slotEvents (path : String) (slot : Option RouteContent)
    (content : RouteContent) :
    List Event :=
  match slot.bind RouteContent.spec? with
  | some existing =>
    if content.isRenderable then
      [.conflictKept (.duplicateClaim path .index existing.source content.describe)]
    else []
  | none => []

/-- The conflict recorded when content arrives at a node. -/
def contentEvents (node : RouteNode) : RouteContent -> List Event
  | .layout spec =>
    match node.content with
    | some (.layout existing) =>
      [.conflictKept
        (.duplicateClaim node.displayPath .layout existing.source spec.source)]
    | _ => []
  | .page spec => slotEvents node.displayPath node.slot? (.page spec)
  | .notFound _ => []

/-- Under permissive policies a claim to a held slot is settled and recorded. -/
theorem claimSlot_permissive (path : String) (holder content : RouteContent) :
    claimSlot .permissive path (indexOf holder) content =
      ⟨slotEvents path (some holder) content,
        .ok (indexOf (settle holder content))⟩ := by
  have held : (indexOf holder).spec? = holder.spec? := rfl
  cases found : holder.spec? with
  | none =>
    have gives : holder.isRenderable = false := by simp [isRenderable, found]
    cases arrives : content.isRenderable <;>
      simp [claimSlot, held, found, settle, slotEvents, gives, arrives] <;> rfl
  | some existing =>
    have keeps : holder.isRenderable = true := by simp [isRenderable, found]
    cases arrives : content.isRenderable <;>
      simp [claimSlot, held, found, settle, slotEvents, keeps, arrives] <;> rfl

/-- Under permissive policies a claim to the index of arranged children settles
their slot. -/
theorem claimIndexAmong_permissive (path : String) (slot : Option RouteContent)
    {branches : List RouteNode}
    (plain : ∀ branch ∈ branches, branch.index = false)
    (content : RouteContent) :
    claimIndexAmong .permissive path content (arrange slot branches) =
      ⟨slotEvents path slot content,
        .ok (arrange (settled slot (some content)) branches)⟩ := by
  cases slot with
  | none =>
    have noIndex :
        (arrange none branches).dropWhile (fun child => !child.index) = [] := by
      rw [List.dropWhile_eq_nil_iff]
      intro branch member
      simp [plain branch member]
    rw [claimIndexAmong, noIndex]
    rfl
  | some holder =>
    have first :
        (arrange (some holder) branches).dropWhile (fun child => !child.index) =
          indexOf holder :: branches := rfl
    rw [claimIndexAmong, first]
    simp only [claimSlot_permissive]
    rw [bind_of_ok _ rfl]
    simp [arrange, settled]

/-- An offer to the index child of a node fills or settles its slot. -/
theorem claimIndex_permissive (node : RouteNode) (slot : Option RouteContent)
    {branches : List RouteNode}
    (plain : ∀ branch ∈ branches, branch.index = false)
    (content : RouteContent) :
    claimIndex .permissive (node.furnish slot branches) content =
      ⟨slotEvents node.displayPath slot content,
        .ok (node.furnish (settled slot (some content)) branches)⟩ := by
  have claimed := claimIndexAmong_permissive node.displayPath slot plain content
  rw [claimIndex, furnish_displayPath]
  simp only [furnish, claimed]
  rw [bind_of_ok _ rfl]
  simp

/-- Content that arrives at a node settles there or, if it is a page, in the
slot. -/
theorem mergeContent_permissive (node : RouteNode) (slot : Option RouteContent)
    {branches : List RouteNode}
    (plain : ∀ branch ∈ branches, branch.index = false)
    (notPage : node.isPage = false) (content : RouteContent) :
    mergeContent .permissive (node.furnish slot branches) content =
      ⟨contentEvents (node.furnish slot branches) content,
        .ok ({ node with content := settled node.content content.own? }.furnish
          (settled slot content.visit?) branches)⟩ := by
  rw [isPage_eq_false_iff] at notPage
  obtain ⟨path, index, dynamic, held, error, children⟩ := node
  cases content with
  | page spec =>
    rw [mergeContent, claimIndex_permissive _ slot plain]
    simp only [contentEvents, own?, visit?, slot_furnish _ slot plain,
      furnish_displayPath, settled_none_right]
  | layout spec =>
    simp only [own?, visit?, settled_none_right]
    rcases held with _ | ⟨existing⟩ | ⟨existing⟩ | ⟨view⟩
    · rfl
    · exact absurd rfl (notPage existing)
    · rfl
    · rfl
  | notFound view =>
    simp only [own?, visit?, settled_none_right]
    rcases held with _ | ⟨existing⟩ | ⟨existing⟩ | ⟨view⟩ <;> rfl

/-- A node after it took in what another node has besides its children. -/
def receive (target source : RouteNode) : RouteNode :=
  furnish
    { target.fillFrom source.dynamic source.error with
      content := settled target.content (source.content.bind own?) }
    (settled target.slot? (source.content.bind visit?)) target.branches

/-- The conflict recorded when content may arrive at a node. -/
def arrivalEvents (node : RouteNode) (content : Option RouteContent) :
    List Event :=
  (content.map (contentEvents node)).getD []

/-- Filling in a dynamic kind or an error view has no part in what arriving
content records. -/
theorem contentEvents_fillFrom (target : RouteNode)
    (dynamic : Option SegmentKind) (error : Option View)
    (content : RouteContent) :
    contentEvents (target.fillFrom dynamic error) content =
      contentEvents target content := by
  cases content <;> rfl

/-- Filling in a dynamic kind or an error view leaves slot and branches as they
are. -/
theorem Tidy.fillFrom_eq {target : RouteNode} (tidy : target.Tidy)
    (dynamic : Option SegmentKind) (error : Option View) :
    target.fillFrom dynamic error =
      (target.fillFrom dynamic error).furnish target.slot? target.branches := by
  rw [RouteNode.furnish, ← tidy.arranged.children_eq]
  rfl

/-- A tidy node takes in what the source itself has, then the children. -/
theorem merge_permissive {target source : RouteNode} (tidy : target.Tidy)
    (samePath : target.path = source.path) (notIndex : source.index = false) :
    merge .permissive target source =
      ⟨arrivalEvents target source.content ++
          (mergeForest .permissive (receive target source) source.children).log,
        (mergeForest .permissive (receive target source)
          source.children).outcome⟩ := by
  have notPage : (target.fillFrom source.dynamic source.error).isPage = false :=
    tidy.arranged.notPage
  have agree : ¬(target.path ≠ source.path ∨ target.index ≠ source.index) := by
    simp [samePath, notIndex, tidy.index_eq]
  have filled := tidy.fillFrom_eq source.dynamic source.error
  obtain ⟨path, index, dynamic, content, error, children⟩ := source
  rw [merge, if_neg agree]
  simp only [notPage, Bool.false_and, Bool.false_eq_true, if_false, pure_bind]
  cases content with
  | none =>
    simp only [receive, arrivalEvents, Option.bind_none, settled_none_right,
      Option.map_none, Option.getD_none, List.nil_append]
    rw [filled]
    rfl
  | some arriving =>
    have events := contentEvents_fillFrom target dynamic error arriving
    simp only [receive, arrivalEvents, Option.bind_some, Option.map_some,
      Option.getD_some, ← events]
    rw [filled, mergeContent_permissive _ _ tidy.plain notPage,
      bind_of_ok _ rfl]
    rfl

/-- An index child makes its offer to the slot. -/
theorem mergeForest_index {node child : RouteNode} (slot : Option RouteContent)
    {branches : List RouteNode}
    (plain : ∀ branch ∈ branches, branch.index = false)
    (index : child.index = true) (rest : List RouteNode) :
    (mergeForest .permissive (node.furnish slot branches) (child :: rest)).outcome =
      (mergeForest .permissive (node.furnish (settled slot child.content) branches)
        rest).outcome := by
  rw [mergeForest]
  simp only [index, if_true]
  cases content : child.content with
  | none => rw [pure_bind, settled_none_right]
  | some content =>
    simp only
    rw [claimIndex_permissive node slot plain, bind_of_ok _ rfl]

/-- Check a child against its dynamic siblings unless its path is known. -/
def checkUnknown (options : MergeOptions) (target child : RouteNode) :
    Logged Unit :=
  if (target.branchAt? child.path).isNone then
    checkSiblings options target child
  else pure ()

/-- A branch is united with the one at its path or with a bare node. -/
theorem mergeForest_branch (options : MergeOptions) {node child : RouteNode}
    (slot : Option RouteContent) {branches : List RouteNode}
    (plain : child.index = false) (rest : List RouteNode) :
    mergeForest options (node.furnish slot branches) (child :: rest) = (do
      checkUnknown options (node.furnish slot branches) child
      let merged ← merge options (heldAt branches child.path) child
      mergeForest options
        (node.furnish slot (putAt child.path merged branches)) rest) := by
  rw [mergeForest, checkUnknown, branchAt_furnish, heldAt,
    List.find?_eq_head?_dropWhile_not]
  simp only [plain, Bool.false_eq_true, if_false, furnish, dropWhile_arrange,
    takeWhile_arrange]
  cases reached : branches.dropWhile fun other =>
    !other.matchesPath child.path with
  | nil =>
    simp only [putAt_of_dropWhile_nil reached, pure_bind, List.head?_nil,
      Option.isNone_none, if_true, Option.getD_none]
    simp only [arrange, List.append_assoc]
  | cons existing after =>
    simp only [putAt_of_dropWhile_cons reached, pure_bind, List.head?_cons,
      Option.isNone_some, Bool.false_eq_true, if_false, Option.getD_some]
    simp only [arrange, List.append_assoc]

/-- Under permissive policies a new dynamic branch is never refused. -/
theorem gives_checkUnknown (target child : RouteNode) :
    (checkUnknown .permissive target child).Gives () := by
  unfold checkUnknown checkSiblings
  split
  · split <;> rfl
  · rfl

mutual

/-- Every merge into a tidy tree succeeds under the permissive policies, and
gives the union. -/
theorem gives_union {target : RouteNode} (tidy : target.Tidy)
    (source : RouteNode) (samePath : target.path = source.path)
    (notIndex : source.index = false) :
    (merge .permissive target source).Gives (union target source) := by
  -- The children of the source are taken one by one while the target grows, so
  -- the recursion is on the source.
  have merged := merge_permissive tidy samePath notIndex
  rw [union_eq, merged]
  obtain ⟨path, index, dynamic, content, error, children⟩ := source
  exact gives_unionBranches children _ _
    (fun _ member => tidy.of_mem_branches member)
    tidy.arranged.distinct

theorem gives_unionBranches (children : List RouteNode) (node : RouteNode)
    (slot : Option RouteContent) {branches : List RouteNode}
    (tidy : ∀ branch ∈ branches, branch.Tidy)
    (distinct : (branches.map RouteNode.path).Nodup) :
    (mergeForest .permissive (node.furnish slot branches) children).Gives
      (node.furnish (unionSlot slot children)
        (unionBranches branches children)) := by
  have plain : ∀ branch ∈ branches, branch.index = false :=
    fun branch member => (tidy branch member).index_eq
  match children with
  | [] =>
    rw [unionBranches]
    rfl
  | child :: rest =>
    cases index : child.index with
    | true =>
      have slotEq : unionSlot slot (child :: rest) =
          unionSlot (settled slot child.content) rest := by
        simp [unionSlot, index]
      rw [Gives, mergeForest_index slot plain index,
        unionBranches_index index, slotEq]
      exact gives_unionBranches rest node _ tidy distinct
    | false =>
      have slotEq : unionSlot slot (child :: rest) = unionSlot slot rest := by
        simp [unionSlot, index]
      have held := heldAt_tidy tidy child.path
      have heldPath :=
        (matchesPath_iff.mp (matchesPath_heldAt branches child.path)).2
      have united := gives_union held child heldPath index
      obtain ⟨putTidy, putDistinct⟩ := putAt_union_tidy tidy distinct
        (held.union child)
      rw [mergeForest_branch .permissive slot index,
        unionBranches_branch index, slotEq]
      refine (gives_checkUnknown _ child).bind (united.bind ?_)
      exact gives_unionBranches rest node slot putTidy putDistinct

end

/-- Only trees with the same root can be merged. -/
theorem roots_agree {options : MergeOptions} {target source merged : RouteNode}
    (gives : (merge options target source).Gives merged) :
    target.path = source.path ∧ target.index = source.index := by
  obtain ⟨path, index, dynamic, content, error, children⟩ := source
  rw [merge] at gives
  split at gives
  · cases gives
  · rename_i agree
    simpa using agree

/-- Under all policies, a merge into a tidy tree that succeeds gives the
union. -/
theorem eq_union_of_gives {options : MergeOptions}
    {target source merged : RouteNode} (tidy : target.Tidy)
    (gives : (merge options target source).Gives merged) :
    merged = union target source := by
  obtain ⟨samePath, sameIndex⟩ := roots_agree gives
  have permissive := ((gives_merge_iff options).mp gives).1
  exact permissive.unique
    (gives_union tidy source samePath (sameIndex.symm.trans tidy.index_eq))

end RouteNode
end FileRoutes
