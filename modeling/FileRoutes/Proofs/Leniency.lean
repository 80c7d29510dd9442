import FileRoutes.Proofs.Verdict

/-!
# Conflicts on the way

Under the permissive policies a merge of two trees with the same root never
fails, and it records the conflicts that it settles, in their order.  Other
policies stop this merge at the first of the conflicts that they forbid, so
whatever compiles under the strict policies compiles under all others, to the
same tree.
-/

namespace FileRoutes
namespace Logged

variable {α β : Type}

/-- Success with a value, after some conflicts were settled. -/
def settling (conflicts : List Conflict) (value : α) : Logged α :=
  { log := conflicts.map .conflictKept, outcome := .ok value }

/-- Failure with a conflict, after some others were settled. -/
def stopping (conflicts : List Conflict) (conflict : Conflict) : Logged α :=
  { log := conflicts.map .conflictKept, outcome := .error (.conflict conflict) }

/-- A computation that succeeds and records settled conflicts only. -/
def Lenient (computation : Logged α) : Prop :=
  ∃ conflicts value, computation = settling conflicts value

/-- A computation without events is lenient. -/
theorem lenient_pure (value : α) : (pure value : Logged α).Lenient :=
  ⟨[], value, rfl⟩

/-- Lenient computations in a row are lenient together. -/
theorem Lenient.bind {first : Logged α} {next : α -> Logged β}
    (lenient : first.Lenient) (lenientNext : ∀ value, (next value).Lenient) :
    (first >>= next).Lenient := by
  obtain ⟨conflicts, value, isFirst⟩ := lenient
  obtain ⟨later, result, isNext⟩ := lenientNext value
  refine ⟨conflicts ++ later, result, ?_⟩
  have succeeds : first.outcome = .ok value := by rw [isFirst, settling]
  rw [bind_of_ok next succeeds, isFirst, isNext, settling, settling, settling,
    List.map_append]

/-- Policies that allow every recorded conflict change nothing. -/
theorem police_settling {options : MergeOptions} {conflicts : List Conflict}
    (allowed : ∀ conflict ∈ conflicts, conflict.policy options = .firstWins)
    (value : α) :
    (settling conflicts value).police options = settling conflicts value := by
  apply police_of_none
  rw [settling, List.findSome?_map, List.findSome?_eq_none_iff]
  intro conflict member
  simp [Event.forbidden?, allowed conflict member]

/-- Policies stop at the first recorded conflict that they forbid. -/
theorem police_settling_append {options : MergeOptions}
    {before after : List Conflict} {first : Conflict}
    (allowed : ∀ conflict ∈ before, conflict.policy options = .firstWins)
    (forbidden : first.policy options = .error) (value : α) :
    (settling (before ++ first :: after) value).police options =
      stopping before first := by
  have passes : ∀ conflict ∈ before,
      (Event.conflictKept conflict).forbidden? options = none := by
    intro conflict member
    simp [Event.forbidden?, allowed conflict member]
  have stops : (Event.conflictKept first).forbidden? options = some first :=
    forbidden_eq_some_iff.mpr ⟨rfl, forbidden⟩
  have passed : (before.map Event.conflictKept).findSome?
      (Event.forbidden? options) = none := by
    rw [List.findSome?_eq_none_iff, List.forall_mem_map]
    exact passes
  have found : (settling (before ++ first :: after) value).log.findSome?
      (Event.forbidden? options) = some first := by
    simp [settling, List.findSome?_append, passed, stops]
  rw [police_of_some found, settling, stopping, List.map_append, List.map_cons,
    List.takeWhile_append_of_pos]
  · simp [stops]
  · simp only [List.forall_mem_map]
    intro conflict member
    simp [passes conflict member]

end Logged

namespace RouteNode

open Logged

/-! ## Every part of a merge is lenient -/

theorem lenient_resolveConflict (conflict : Conflict) :
    (resolveConflict .firstWins conflict).Lenient :=
  ⟨[conflict], (), rfl⟩

theorem lenient_claimSlot (parent : String) (slot : RouteNode)
    (content : RouteContent) :
    (claimSlot .permissive parent slot content).Lenient := by
  unfold claimSlot
  split <;> split
  · exact lenient_pure _
  · exact lenient_pure _
  · exact (lenient_resolveConflict _).bind fun _ => lenient_pure _
  · exact lenient_pure _

theorem lenient_claimIndex (target : RouteNode) (content : RouteContent) :
    (claimIndex .permissive target content).Lenient := by
  unfold claimIndex claimIndexAmong
  refine Lenient.bind ?_ fun _ => lenient_pure _
  split
  · exact lenient_pure _
  · exact (lenient_claimSlot _ _ _).bind fun _ => lenient_pure _

theorem lenient_demotePage (target : RouteNode) :
    (demotePage .permissive target).Lenient := by
  unfold demotePage
  split
  · exact lenient_claimIndex _ _
  · exact lenient_pure _

theorem lenient_mergeContent (target : RouteNode) (content : RouteContent) :
    (mergeContent .permissive target content).Lenient := by
  cases content with
  | page spec => exact lenient_claimIndex target _
  | layout spec =>
    simp only [mergeContent]
    split
    · exact (lenient_resolveConflict _).bind fun _ => lenient_pure _
    · exact lenient_pure _
  | notFound view =>
    simp only [mergeContent]
    split <;> exact lenient_pure _

theorem lenient_checkSiblings (target incoming : RouteNode) :
    (checkSiblings .permissive target incoming).Lenient := by
  unfold checkSiblings
  split
  · exact lenient_pure _
  · exact lenient_resolveConflict _

/-- Two trees that can be merged: their roots match the same path. -/
structure SameRoot (target source : RouteNode) : Prop where
  path_eq : target.path = source.path
  index_eq : target.index = source.index

instance (target source : RouteNode) : Decidable (SameRoot target source) :=
  decidable_of_iff (target.path = source.path ∧ target.index = source.index)
    ⟨fun same => ⟨same.1, same.2⟩, fun same => ⟨same.path_eq, same.index_eq⟩⟩

/-- Trees with different roots are not merged under any policies. -/
theorem merge_of_not_sameRoot (options : MergeOptions)
    {target source : RouteNode} (differ : ¬SameRoot target source) :
    merge options target source =
      .fail (.pathMismatch target.path source.path) := by
  obtain ⟨path, index, dynamic, content, error, children⟩ := source
  rw [merge, if_pos]
  by_contra agree
  rw [not_or, not_not, not_not] at agree
  exact differ ⟨agree.1, agree.2⟩

mutual

/-- A merge below one root is lenient, whatever the trees are. -/
theorem lenient_merge {target : RouteNode} (source : RouteNode)
    (same : SameRoot target source) :
    (merge .permissive target source).Lenient := by
  have agree : ¬(target.path ≠ source.path ∨ target.index ≠ source.index) := by
    simp [same.path_eq, same.index_eq]
  obtain ⟨path, index, dynamic, content, error, children⟩ := source
  rw [merge, if_neg agree]
  have merged (furnished : RouteNode) :
      (mergeForest .permissive furnished children).Lenient :=
    lenient_mergeForest furnished children
  cases content with
  | none =>
    have furnished (opened : RouteNode) := (lenient_pure opened).bind merged
    dsimp only
    split
    · exact (lenient_demotePage _).bind furnished
    · exact (lenient_pure _).bind furnished
  | some content =>
    have furnished (opened : RouteNode) :=
      (lenient_mergeContent opened content).bind merged
    dsimp only
    split
    · exact (lenient_demotePage _).bind furnished
    · exact (lenient_pure _).bind furnished

/-- Merging a list of children is lenient. -/
theorem lenient_mergeForest (target : RouteNode) (children : List RouteNode) :
    (mergeForest .permissive target children).Lenient := by
  match children with
  | [] => exact lenient_pure _
  | child :: rest =>
    rw [mergeForest]
    have later (merged : RouteNode) :
        (mergeForest .permissive merged rest).Lenient :=
      lenient_mergeForest merged rest
    cases index : child.index with
    | true =>
      simp only [if_true]
      split
      · exact (lenient_claimIndex _ _).bind later
      · exact (lenient_pure _).bind later
    | false =>
      simp only [Bool.false_eq_true, if_false]
      split
      · -- A child is merged with the branch that has its path, so the roots
        -- agree.
        rename_i existing after reached
        have matching : existing.matchesPath child.path = true := by
          have first := List.head?_dropWhile_not
            (fun other : RouteNode => !other.matchesPath child.path)
            target.children
          simpa [reached] using first
        obtain ⟨plain, samePath⟩ := matchesPath_iff.mp matching
        exact (lenient_merge child ⟨samePath, plain.trans index.symm⟩).bind
          fun _ => (lenient_pure _).bind later
      · have fresh : SameRoot { path := child.path } child := ⟨rfl, index.symm⟩
        exact (lenient_checkSiblings _ _).bind fun _ =>
          (lenient_merge child fresh).bind fun _ => (lenient_pure _).bind later

end

end RouteNode

namespace RouteFiles

open Logged

/-- What compiles under the strict policies compiles under all others, to the
same tree. -/
theorem gives_compile_of_strict {config : CompilerConfig} {files : RouteFiles}
    {tree : RouteNode} (gives : (compile config.strict files).Gives tree)
    (conflicts : MergeOptions) :
    (compile (config.withConflicts conflicts) files).Gives tree := by
  have strictPermitted := ((gives_compile_iff _ _).mp ⟨tree, gives⟩).1
  obtain ⟨distinct, unrivalled⟩ :=
    (permitted_contributions_iff _ _).mp strictPermitted
  have permitted :=
    (permitted_contributions_iff (config.withConflicts conflicts) files).mpr
      ⟨fun _ => distinct rfl, fun _ => unrivalled rfl⟩
  rw [Gives, outcome_compile_of_permitted _ _ strictPermitted] at gives
  rw [Gives, outcome_compile_of_permitted _ _ permitted]
  exact gives

end RouteFiles

namespace RouteNode

open Logged

/-- Strict merging is permissive merging, stopped.  Under the permissive
policies only the roots can keep two trees apart; otherwise the merge settles
some conflicts and gives a tree.  Other policies give the same tree after the
same warnings if they allow all of the conflicts, and otherwise they fail with
the first one that they forbid, after the warnings before it.  So a strict
compilation that succeeds gives the tree that all other policies give. -/
theorem merge_eq_permissive_stopped (target source : RouteNode) :
    (¬SameRoot target source ->
      merge .permissive target source =
        .fail (.pathMismatch target.path source.path)) ∧
    (SameRoot target source -> ∃ conflicts tree,
      merge .permissive target source = .settling conflicts tree ∧
      ∀ options,
        ((∀ conflict ∈ conflicts, conflict.policy options = .firstWins) ->
          merge options target source = .settling conflicts tree) ∧
        ∀ before first after, conflicts = before ++ first :: after ->
          (∀ conflict ∈ before, conflict.policy options = .firstWins) ->
          first.policy options = .error ->
            merge options target source = .stopping before first ∧
            (Event.conflictKept first).message =
              (RouteError.conflict first).message ++
                " (first registered wins)") ∧
    ∀ (config : CompilerConfig) (files : RouteFiles) (tree : RouteNode),
      (compile config.strict files).Gives tree ->
        ∀ conflicts,
          (compile (config.withConflicts conflicts) files).Gives tree := by
  refine ⟨merge_of_not_sameRoot .permissive, ?_, ?_⟩
  · intro same
    obtain ⟨conflicts, tree, permissive⟩ := lenient_merge source same
    refine ⟨conflicts, tree, permissive, fun options => ⟨?_, ?_⟩⟩
    · intro allowed
      rw [← police_merge options, permissive, police_settling allowed]
    · intro before first after split allowed forbidden
      refine ⟨?_, rfl⟩
      rw [← police_merge options, permissive, split,
        police_settling_append allowed forbidden]
  · intro config files tree gives conflicts
    exact RouteFiles.gives_compile_of_strict gives conflicts

/-- A root with a page and a dynamic segment. -/
def dynamicSite (parameter : String) : RouteNode :=
  { root with
    children :=
      [indexOf (.page default),
        { path := some ("[" ++ parameter ++ "]"),
          dynamic := some (.dynamic parameter) }] }

/-- Roots that differ are not merged, and a parameter next to another stops a
merge that forbids it. -/
theorem merge_eq_permissive_stopped_dynamicSite :
    (¬SameRoot root (ofPath "docs") ∧ merge .permissive root (ofPath "docs") =
      .fail (.pathMismatch (some "/") (some "docs"))) ∧
    (SameRoot (dynamicSite "id") (dynamicSite "slug") ∧
      ∃ kept forbidden tree,
        merge .permissive (dynamicSite "id") (dynamicSite "slug") =
          .settling [kept, forbidden] tree ∧
        merge { dynamicSegments := .error } (dynamicSite "id")
          (dynamicSite "slug") = .stopping [kept] forbidden) ∧
    ∃ tree,
      (compile (CompilerConfig.strict {}) { pages := ["app/page"] }).Gives tree ∧
      (compile (CompilerConfig.withConflicts {} .permissive)
        { pages := ["app/page"] }).Gives tree := by
  refine ⟨?_, ?_, ?_⟩
  · have differ : ¬SameRoot root (ofPath "docs") := by decide
    exact ⟨differ, (merge_eq_permissive_stopped root (ofPath "docs")).1 differ⟩
  · have same : SameRoot (dynamicSite "id") (dynamicSite "slug") := ⟨rfl, rfl⟩
    obtain ⟨conflicts, tree, permissive, stopped⟩ :=
      (merge_eq_permissive_stopped (dynamicSite "id") (dynamicSite "slug")).2.1 same
    have log : (merge .permissive (dynamicSite "id") (dynamicSite "slug")).log =
        [Conflict.duplicateClaim "/" .index "" "page ",
          Conflict.dynamicConflict "/" "[id]" "[slug]"].map
          Event.conflictKept := by
      decide +kernel
    have isConflicts :
        conflicts = [Conflict.duplicateClaim "/" .index "" "page ",
          Conflict.dynamicConflict "/" "[id]" "[slug]"] := by
      rw [permissive, settling] at log
      exact List.map_injective_iff.mpr (fun _ _ => Event.conflictKept.inj) log
    subst isConflicts
    have strict := (stopped { dynamicSegments := .error }).2
      [Conflict.duplicateClaim "/" .index "" "page "] _ [] rfl
      (by simp [Conflict.policy])
      rfl
    exact ⟨same, _, _, tree, permissive, strict.1⟩
  · have compiles : (compile (CompilerConfig.strict {})
        { pages := ["app/page"] }).outcome.toOption.any (fun _ =>
          true) = true := by
      decide +kernel
    obtain ⟨tree, gives, _⟩ := exists_gives_of_any compiles
    exact ⟨tree, gives,
      (merge_eq_permissive_stopped root root).2.2 _ _ _ gives _⟩

end RouteNode
end FileRoutes
