import FileRoutes.Proofs.Inventory
import FileRoutes.Proofs.Pages

/-!
# Where pages and layouts end up

Each page or layout that is merged into a tree is rendered by one of its nodes,
or it is named as rejected by a warning about the place that it claims.
-/

namespace FileRoutes

/-- The identifier that a warning about a taken place names as rejected.  An
index is claimed by a page, which is announced as one. -/
def Event.rejected? : Event -> Option String
  | conflictKept (.duplicateClaim _ .layout _ incoming) => some incoming
  | conflictKept (.duplicateClaim _ .index _ incoming) =>
    some (String.ofList (incoming.toList.drop "page ".length))
  | _ => none

namespace RouteContent

/-- The identifier of the file that declares content, if it is a page or a
layout. -/
def declared (content : Option RouteContent) : List String :=
  ((content.bind spec?).map RenderSpec.source).toList

/-- The identifier that loses when content is offered to a place that may be
taken. -/
def lost (holder incoming : Option RouteContent) : List String :=
  if (declared holder).isEmpty then [] else declared incoming

theorem settled_of_renderable {holder : RouteContent}
    (renderable : holder.isRenderable = true)
    (incoming : Option RouteContent) :
    settled (some holder) incoming = some holder := by
  cases incoming with
  | none => rfl
  | some content =>
    rw [settled, settle, renderable, Bool.not_true, Bool.false_and,
      if_neg (by simp)]

theorem lost_none (holder : Option RouteContent) : lost holder none = [] :=
  ite_self []

/-- Of what is in a place and what is offered to it, one stays and the other is
lost. -/
theorem lost_append_settled_perm (holder incoming : Option RouteContent) :
    (lost holder incoming ++ declared (settled holder incoming)).Perm
      (declared holder ++ declared incoming) := by
  rcases holder with _ | ⟨spec⟩ | ⟨spec⟩ | ⟨view⟩
  · exact .refl _
  · rw [settled_of_renderable rfl]
    exact List.perm_append_comm
  · rw [settled_of_renderable rfl]
    exact List.perm_append_comm
  · rcases incoming with _ | ⟨spec⟩ | ⟨spec⟩ | ⟨view⟩ <;> exact .refl _

end RouteContent

namespace RouteNode

open RouteContent Logged

/-- The event of a rejected page names the file of the page. -/
theorem rejected_page (path existing : String) (spec : RenderSpec) :
    (Event.conflictKept
      (.duplicateClaim path .index existing (page spec).describe)).rejected? =
      some spec.source := by
  rw [Event.rejected?, describe, String.toList_append,
    List.drop_left' (by rfl), String.ofList_toList]

/-- The sources of a furnished node are its own, that of its index and those of
its branches. -/
theorem gather_source_furnish (node : RouteNode) (slot : Option RouteContent)
    (branches : List RouteNode) :
    (node.furnish slot branches).gather source? =
      declared node.content ++ declared slot ++ branches.flatMap
        (gather source?) := by
  have below : (node.furnish slot branches).children = arrange slot branches :=
    rfl
  have above : source? (node.furnish slot branches) =
      (node.content.bind RouteContent.spec?).map RenderSpec.source := rfl
  rw [gather_eq, below, above, arrange, List.flatMap_append, List.append_assoc]
  congr 2
  cases slot with
  | none => rfl
  | some content =>
    rw [Option.map_some, Option.toList_some, List.flatMap_singleton,
      gather_of_leaf rfl]
    rfl

/-! ## What is rejected -/

/-- A page that claims a slot is rejected exactly if a file holds the slot. -/
theorem rejected_slotEvents (path : String) (slot : Option RouteContent)
    (spec : RenderSpec) :
    (slotEvents path slot (page spec)).filterMap Event.rejected? =
      lost slot (some (page spec)) := by
  rcases slot with _ | ⟨existing⟩ | ⟨existing⟩ | ⟨view⟩
  · rfl
  · exact congrArg Option.toList (rejected_page path existing.source spec)
  · exact congrArg Option.toList (rejected_page path existing.source spec)
  · rfl

theorem rejected_layout {node : RouteNode} (notPage : node.isPage = false)
    (spec : RenderSpec) :
    (contentEvents node (layout spec)).filterMap Event.rejected? =
      lost node.content (some (layout spec)) := by
  rw [isPage_eq_false_iff] at notPage
  rw [contentEvents]
  rcases held : node.content with _ | ⟨existing⟩ | ⟨existing⟩ | ⟨view⟩
  · rfl
  · exact absurd held (notPage existing)
  · rfl
  · rfl

theorem rejected_siblingEvents (node : RouteNode) (token : String) :
    (siblingEvents node token).filterMap Event.rejected? = [] := by
  unfold siblingEvents
  split
  · split <;> rfl
  · rfl

theorem exists_conflict_of_mem_arrivalEvents {node : RouteNode}
    {content : Option RouteContent} {event : Event}
    (member : event ∈ arrivalEvents node content) :
    ∃ conflict, event = .conflictKept conflict := by
  rcases content with _ | ⟨spec⟩ | ⟨spec⟩ | ⟨view⟩
  · cases member
  · rw [arrivalEvents, Option.map_some, Option.getD_some, contentEvents,
      slotEvents] at member
    split at member
    · exact ⟨_, List.mem_singleton.mp member⟩
    · cases member
  · rw [arrivalEvents, Option.map_some, Option.getD_some, contentEvents]
      at member
    split at member
    · exact ⟨_, List.mem_singleton.mp member⟩
    · cases member
  · cases member

/-- Merging a twig records conflicts and nothing else. -/
theorem exists_conflict_of_mem_twigEvents {node : RouteNode}
    {content : Option RouteContent}
    {tokens : List String} {event : Event}
    (member : event ∈ twigEvents node content tokens) :
    ∃ conflict, event = .conflictKept conflict := by
  induction tokens generalizing node with
  | nil => exact exists_conflict_of_mem_arrivalEvents member
  | cons token rest step =>
    rcases List.mem_append.mp member with here | below
    · rw [siblingEvents] at here
      split at here
      · split at here
        · exact ⟨_, List.mem_singleton.mp here⟩
        · cases here
      · cases here
    · exact step below

/-- Content that arrives at a node stays in one of its two places or is
rejected. -/
theorem arrival_perm {node : RouteNode} (notPage : node.isPage = false)
    (content : Option RouteContent) :
    ((arrivalEvents node content).filterMap Event.rejected? ++
        (declared (settled node.content (content.bind own?)) ++
          declared (settled node.slot? (content.bind visit?)))).Perm
      (declared node.content ++ declared node.slot? ++ declared content) := by
  have own := lost_append_settled_perm node.content (content.bind own?)
  have visit := lost_append_settled_perm node.slot? (content.bind visit?)
  have rejects : (arrivalEvents node content).filterMap Event.rejected? =
      lost node.content (content.bind own?) ++ lost node.slot?
        (content.bind visit?) := by
    rcases content with _ | ⟨spec⟩ | ⟨spec⟩ | ⟨view⟩
    · rw [Option.bind_none, Option.bind_none, lost_none, lost_none]
      rfl
    · exact (rejected_slotEvents node.displayPath node.slot? spec).trans
        (congrArg (· ++ _) (lost_none node.content).symm)
    · exact (rejected_layout notPage spec).trans
        ((List.append_nil _).symm.trans
          (congrArg (_ ++ ·) (lost_none node.slot?).symm))
    · have nothing : lost node.content (some (.notFound view)) = [] :=
        ite_self []
      rw [Option.bind_some, Option.bind_some, own?, visit?, nothing, lost_none]
      rfl
  have parts : declared (content.bind own?) ++ declared (content.bind visit?) =
      declared content := by
    rcases content with _ | ⟨spec⟩ | ⟨spec⟩ | ⟨view⟩ <;> rfl
  rw [rejects, ← parts, List.perm_iff_count]
  rw [List.perm_iff_count] at own visit
  intro id
  have ownCount := own id
  have visitCount := visit id
  simp only [List.count_append] at ownCount visitCount ⊢
  omega

/-- What is merged into a tidy tree along a twig is rendered or rejected. -/
theorem twig_perm {target head : RouteNode} (tidy : target.Tidy)
    (content : Option RouteContent) (contentless : head.content = none)
    (childless : head.children = []) (tokens : List String) :
    ((twigEvents target content tokens).filterMap Event.rejected? ++
        (union target (twig content head tokens)).gather source?).Perm
      (target.gather source? ++ declared content) := by
  induction tokens generalizing target head with
  | nil =>
    have arrives := arrival_perm tidy.arranged.notPage content
    have whole := gather_source_furnish target target.slot? target.branches
    rw [tidy.furnish_eq] at whole
    have twigContent : (twig content head []).content = content := rfl
    have twigChildren : (twig content head []).children = [] := childless
    rw [union_eq, gather_source_furnish, twigContent, twigChildren,
      whole, twigEvents, ← List.append_assoc]
    have placed :=
      arrives.append_right (target.branches.flatMap (gather source?))
    rw [unionSlot, List.foldl_nil, unionBranches,
      List.append_assoc _ _ (List.flatMap _ _)]
    rw [List.perm_iff_count] at arrives ⊢
    intro id
    have arrivesCount := arrives id
    simp only [List.count_append] at arrivesCount ⊢
    omega
  | cons token rest step =>
    have budIndex : (twig content (bud token) rest).index = false :=
      twig_index content (bud token) rest
    have budPath : (twig content (bud token) rest).path = some token :=
      twig_path content (bud token) rest
    have twigContent : (twig content head (token :: rest)).content = none :=
      contentless
    have twigChildren : (twig content head (token :: rest)).children =
        [twig content (bud token) rest] := rfl
    have below :=
      step (heldAt_tidy (fun _ member => tidy.of_mem_branches member) (some token))
        (rfl : (bud token).content = none) (rfl : (bud token).children = [])
    have placed := flatMap_putAt_perm lasting_source (some token)
      (union (heldAt target.branches (some token)) (twig content (bud token) rest))
      target.branches
    have whole := gather_source_furnish target target.slot? target.branches
    rw [tidy.furnish_eq] at whole
    have sameSlot :
        unionSlot (settled target.slot? ((none : Option RouteContent).bind visit?))
          [twig content (bud token) rest] = target.slot? := by
      rw [Option.bind_none, settled_none_right, unionSlot, List.foldl_cons,
        List.foldl_nil, if_neg (by simp [budIndex])]
    have quiet := rejected_siblingEvents target token
    rw [union_eq, gather_source_furnish, twigContent, twigChildren,
      unionBranches_branch budIndex, budPath, unionBranches, whole, twigEvents,
      List.filterMap_append, sameSlot, quiet, Option.bind_none,
      settled_none_right]
    rw [List.perm_iff_count] at below placed ⊢
    intro id
    have belowCount := below id
    have placedCount := placed id
    simp only [List.count_append, List.count_nil] at belowCount placedCount ⊢
    omega

end RouteNode

/-! ## Listed pages and layouts -/

section AddPages

open Logged RouteNode RouteContent Contribution

variable (config : CompilerConfig) (loading : ViewIndex)

/-- A contribution declares its file if that is a page or a layout. -/
theorem declared_contribution (file : ListedFile) :
    declared (file.contribution config loading).content? =
      ([file].filter fun file =>
        (ParsedFile.parse config.routing.rootPrefix file.id).isRenderable).map
          ListedFile.id := by
  rw [content?, ListedFile.contribution_role, List.filter_singleton,
    ParsedFile.isRenderable]
  cases (ParsedFile.parse config.routing.rootPrefix file.id).role.bind
      FileRole.routeRole? with
  | none => rfl
  | some role => cases role <;> rfl

theorem rejected_announcements (file : ListedFile) :
    (announcements config loading file).filterMap Event.rejected? = [] := by
  unfold announcements
  simp only [List.filterMap_append]
  split <;> rfl

/-- Of the files that are merged, each page and layout is rendered or
rejected. -/
theorem addPages_perm (files : List ListedFile) :
    ((addPages config.permissive loading .root files).log.filterMap
      Event.rejected? ++
        (grown (files.map (ListedFile.contribution config loading))).gather
          source?).Perm
      ((files.filter fun file =>
        (ParsedFile.parse config.routing.rootPrefix file.id).isRenderable).map
          ListedFile.id) := by
  induction files using List.reverseRecOn with
  | nil => exact .refl _
  | append_singleton files file step =>
    have permissive : config.permissive.conflicts = .permissive := rfl
    have sameFile : file.contribution config.permissive loading =
        file.contribution config loading := rfl
    have merged :=
      twig_perm (grown_tidy (files.map (ListedFile.contribution config loading)))
        (file.contribution config loading).content?
        (rfl : RouteNode.root.content = none)
        (rfl : RouteNode.root.children = [])
          (file.contribution config loading).tokens
    have quiet := rejected_announcements config.permissive loading file
    rw [addPages_append, (gives_addPages config loading files).log_bind,
      addPage_eq, (gives_recordAll _).log_bind, permissive, sameFile,
      log_merge_tree, recordAll, List.filterMap_append, List.filterMap_append,
      quiet, List.map_append, List.map_singleton, grown_append,
      List.filter_append, List.map_append,
      ← declared_contribution config loading file]
    rw [List.perm_iff_count] at step merged ⊢
    intro id
    have stepCount := step id
    have mergedCount := merged id
    simp only [List.count_append, List.count_nil] at stepCount mergedCount ⊢
    rw [Contribution.tree]
    omega

/-- Merging pages and layouts records announcements and conflicts and nothing
else. -/
theorem filterMap_log_addPages {read : Event -> Option String}
    (noConflict : ∀ conflict, read (.conflictKept conflict) = none)
    (noChain : ∀ id, read (.plainChain id) = none)
    (noMerging : ∀ id key label, read (.merging id key label) = none)
    (files : List ListedFile) :
    (addPages config.permissive loading .root files).log.filterMap read =
      [] := by
  induction files using List.reverseRecOn with
  | nil => rfl
  | append_singleton files file step =>
    have permissive : config.permissive.conflicts = .permissive := rfl
    have announced :
        (announcements config.permissive loading file).filterMap read = [] := by
      unfold announcements
      simp only [List.filterMap_append]
      split <;> simp [noChain, noMerging]
    have merged :
        (twigEvents (grown (files.map (ListedFile.contribution config loading)))
          (file.contribution config.permissive loading).content?
          (file.contribution config.permissive loading).tokens).filterMap read =
          [] := by
      rw [List.filterMap_eq_nil_iff]
      intro event member
      obtain ⟨conflict, rfl⟩ := exists_conflict_of_mem_twigEvents member
      exact noConflict conflict
    rw [addPages_append, (gives_addPages config loading files).log_bind,
      addPage_eq, (gives_recordAll _).log_bind, permissive,
      log_merge_tree, recordAll, List.filterMap_append, List.filterMap_append,
      step, announced, merged]
    rfl

/-- When merging succeeds, whatever the policies, nothing that they forbid
happens under the permissive ones. -/
theorem addPages_eq_permissive {files : List ListedFile} {tree : RouteNode}
    (gives : (addPages config loading .root files).Gives tree) :
    addPages config loading .root files =
      addPages config.permissive loading .root files := by
  rw [← police_addPages] at gives ⊢
  exact police_of_none (gives_police_iff.mp gives).2

end AddPages
end FileRoutes
