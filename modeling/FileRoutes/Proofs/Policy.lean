import FileRoutes.Merge
import FileRoutes.Proofs.Logged

/-!
# Policies and warnings

Under the permissive policies a merge records every conflict and keeps what
was registered first.  Any other policies only stop that same merge at the
first recorded conflict that they forbid.
-/

namespace FileRoutes

/-- The policies under which no conflict is an error. -/
def MergeOptions.permissive : MergeOptions :=
  { duplicates := .firstWins, dynamicSegments := .firstWins }

/-- The policy that decides about a conflict. -/
def Conflict.policy (options : MergeOptions) : Conflict -> ConflictPolicy
  | duplicateClaim _ _ _ _ => options.duplicates
  | dynamicConflict _ _ _ => options.dynamicSegments

/-- The conflict that an event records, when the policies forbid it. -/
def Event.forbidden? (options : MergeOptions) : Event -> Option Conflict
  | conflictKept conflict =>
    if conflict.policy options = .error then some conflict else none
  | _ => none

namespace Logged

variable {α β : Type}

/-- Stop a computation at the first event that the policies forbid. -/
def police (options : MergeOptions) (computation : Logged α) : Logged α :=
  match computation.log.findSome? (Event.forbidden? options) with
  | none => computation
  | some conflict =>
    { log := computation.log.takeWhile fun event =>
        (event.forbidden? options).isNone
      outcome := .error (.conflict conflict) }

/-- A computation that records nothing forbidden passes as it is. -/
theorem police_of_none {options : MergeOptions} {computation : Logged α}
    (allowed : computation.log.findSome? (Event.forbidden? options) = none) :
    computation.police options = computation := by
  rw [police, allowed]

/-- A computation is stopped at the first forbidden conflict that it records,
and fails with it. -/
theorem police_of_some {options : MergeOptions} {computation : Logged α}
    {conflict : Conflict}
    (forbidden : computation.log.findSome? (Event.forbidden? options) =
      some conflict) :
    computation.police options =
      { log := computation.log.takeWhile fun event =>
          (event.forbidden? options).isNone
        outcome := .error (.conflict conflict) } := by
  rw [police, forbidden]

@[simp] theorem police_pure (options : MergeOptions) (value : α) :
    (pure value : Logged α).police options = pure value :=
  police_of_none rfl

/-- An event that records no conflict passes every policy. -/
theorem police_record {options : MergeOptions} {event : Event}
    (allowed : event.forbidden? options = none) :
    (record event).police options = record event := by
  apply police_of_none
  simp [record, allowed]

/-- What comes later does not count once something forbidden was recorded. -/
theorem takeWhile_append_of_findSome_some {options : MergeOptions}
    {log : List Event} (later : List Event) {conflict : Conflict}
    (forbidden : log.findSome? (Event.forbidden? options) = some conflict) :
    (log ++ later).takeWhile (fun event => (event.forbidden? options).isNone) =
      log.takeWhile fun event => (event.forbidden? options).isNone := by
  obtain ⟨event, member, found⟩ := List.exists_of_findSome?_eq_some forbidden
  induction log with
  | nil => cases member
  | cons first rest step =>
    cases allowed : (first.forbidden? options) with
    | none =>
      simp only [List.findSome?_cons, allowed] at forbidden
      have deeper : event ∈ rest := by
        rcases List.mem_cons.mp member with equal | deeper
        · rw [equal, allowed] at found
          cases found
        · exact deeper
      simp only [List.cons_append, List.takeWhile_cons, allowed,
        Option.isNone_none, if_true, step forbidden deeper]
    | some _ => simp [allowed]

/-- Policies act on each part of a sequence alone. -/
theorem police_bind (options : MergeOptions) (first : Logged α)
    (next : α -> Logged β) :
    (first >>= next).police options =
      first.police options >>= fun value => (next value).police options := by
  cases found : first.log.findSome? (Event.forbidden? options) with
  | some conflict =>
    have stopped : (first.police options).outcome =
        .error (.conflict conflict) := by
      rw [police_of_some found]
    rw [bind_of_error _ stopped, police_of_some found]
    cases outcome : first.outcome with
    | error error =>
      rw [bind_of_error next outcome]
      exact police_of_some found
    | ok value =>
      have joined : (first.log ++ (next value).log).findSome?
          (Event.forbidden? options) = some conflict := by
        simp [List.findSome?_append, found]
      rw [bind_of_ok next outcome, police_of_some joined,
        takeWhile_append_of_findSome_some _ found]
  | none =>
    rw [police_of_none found]
    cases outcome : first.outcome with
    | error error =>
      rw [bind_of_error next outcome, bind_of_error _ outcome]
      exact police_of_none found
    | ok value =>
      rw [bind_of_ok next outcome, bind_of_ok _ outcome]
      cases later : (next value).log.findSome? (Event.forbidden? options) with
      | none =>
        rw [police_of_none later]
        apply police_of_none
        simp [List.findSome?_append, found, later]
      | some conflict =>
        have joined : (first.log ++ (next value).log).findSome?
            (Event.forbidden? options) = some conflict := by
          simp [List.findSome?_append, found, later]
        rw [police_of_some later, police_of_some joined,
          List.takeWhile_append_of_pos]
        intro event member
        simp [List.findSome?_eq_none_iff.mp found event member]

/-- A policed computation succeeds when the computation does and nothing that
it records is forbidden. -/
theorem gives_police_iff {options : MergeOptions} {computation : Logged α}
    {value : α} :
    (computation.police options).Gives value ↔
      computation.Gives value ∧
        computation.log.findSome? (Event.forbidden? options) = none := by
  cases found : computation.log.findSome? (Event.forbidden? options) with
  | none => simp [police_of_none found]
  | some conflict => simp [police_of_some found, Gives]

end Logged

/-- Under a policy a single conflict is resolved as that policy says. -/
theorem police_resolveConflict (options : MergeOptions) (conflict : Conflict) :
    (resolveConflict .firstWins conflict).police options =
      resolveConflict (conflict.policy options) conflict := by
  cases policy : conflict.policy options with
  | firstWins =>
    rw [resolveConflict, Logged.police_record]
    simp [Event.forbidden?, policy]
  | error =>
    have forbidden : (Logged.record (.conflictKept conflict)).log.findSome?
        (Event.forbidden? options) = some conflict := by
      simp [Logged.record, Event.forbidden?, policy]
    rw [resolveConflict, resolveConflict, Logged.police_of_some forbidden]
    simp [Logged.record, Logged.fail, Event.forbidden?, policy]

@[simp] theorem police_duplicateClaim (options : MergeOptions) (path : String)
    (slot : ContentSlot) (existing incoming : String) :
    (resolveConflict MergeOptions.permissive.duplicates
        (.duplicateClaim path slot existing incoming)).police options =
      resolveConflict options.duplicates
        (.duplicateClaim path slot existing incoming) :=
  police_resolveConflict options (.duplicateClaim path slot existing incoming)

@[simp] theorem police_dynamicConflict (options : MergeOptions)
    (parent existing incoming : String) :
    (resolveConflict MergeOptions.permissive.dynamicSegments
        (.dynamicConflict parent existing incoming)).police options =
      resolveConflict options.dynamicSegments
        (.dynamicConflict parent existing incoming) :=
  police_resolveConflict options (.dynamicConflict parent existing incoming)

namespace RouteNode

open Logged

variable (options : MergeOptions)

/-- Claiming a slot is the permissive claim, stopped at its conflict. -/
@[simp] theorem police_claimSlot (parent : String) (slot : RouteNode)
    (content : RouteContent) :
    (claimSlot .permissive parent slot content).police options =
      claimSlot options parent slot content := by
  unfold claimSlot
  split <;> split <;>
    simp only [police_bind, police_pure, police_duplicateClaim]

@[simp] theorem police_claimIndex (target : RouteNode)
    (content : RouteContent) :
    (claimIndex .permissive target content).police options =
      claimIndex options target content := by
  unfold claimIndex claimIndexAmong
  rw [police_bind]
  split <;> simp only [police_bind, police_pure, police_claimSlot]

@[simp] theorem police_demotePage (target : RouteNode) :
    (demotePage .permissive target).police options =
      demotePage options target := by
  unfold demotePage
  split
  · exact police_claimIndex options _ _
  · exact police_pure options _

/-- Merging content is the permissive merge of content, stopped at its
conflicts. -/
@[simp] theorem police_mergeContent (target : RouteNode)
    (content : RouteContent) :
    (mergeContent .permissive target content).police options =
      mergeContent options target content := by
  cases content with
  | page spec => exact police_claimIndex options target _
  | layout spec =>
    simp only [mergeContent]
    split <;> simp only [police_bind, police_pure, police_duplicateClaim]
  | notFound view =>
    simp only [mergeContent]
    split <;> exact police_pure options _

@[simp] theorem police_checkSiblings (target incoming : RouteNode) :
    (checkSiblings .permissive target incoming).police options =
      checkSiblings options target incoming := by
  unfold checkSiblings
  split
  · exact police_pure options _
  · exact police_dynamicConflict options _ _ _

mutual

/-- Any policies turn the permissive merge into their own by stopping it. -/
theorem police_merge (target source : RouteNode) :
    (merge .permissive target source).police options =
      merge options target source := by
  obtain ⟨path, index, dynamic, content, error, children⟩ := source
  rw [merge, merge]
  by_cases mismatch : target.path ≠ path ∨ target.index ≠ index
  · rw [if_pos mismatch, if_pos mismatch]
    exact police_of_none rfl
  · rw [if_neg mismatch, if_neg mismatch]
    cases content with
    | none =>
      simp only [police_bind, police_pure, apply_ite (police options),
        police_demotePage, police_mergeForest _ children]
    | some content =>
      simp only [police_bind, apply_ite (police options), police_pure,
        police_demotePage, police_mergeContent, police_mergeForest _ children]

theorem police_mergeForest (target : RouteNode) (children : List RouteNode) :
    (mergeForest .permissive target children).police options =
      mergeForest options target children := by
  match children with
  | [] => exact police_pure options target
  | child :: rest =>
    rw [mergeForest, mergeForest]
    by_cases index : child.index
    · simp only [index, if_true]
      split <;>
        simp only [police_bind, police_pure, police_claimIndex,
          police_mergeForest _ rest]
    · simp only [index, Bool.false_eq_true, if_false]
      split <;>
        simp only [police_bind, police_pure, police_checkSiblings,
          police_merge _ child, police_mergeForest _ rest]

end

/-- Whatever a merge gives under some policies, it gives under the permissive
ones. -/
theorem gives_merge_iff {target source merged : RouteNode} :
    (merge options target source).Gives merged ↔
      (merge .permissive target source).Gives merged ∧
        (merge .permissive target source).log.findSome?
          (Event.forbidden? options) = none := by
  rw [← police_merge options target source]
  exact gives_police_iff

end RouteNode
end FileRoutes
