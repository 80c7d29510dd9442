import FileRoutes.Proofs.Ledger
import FileRoutes.Proofs.Settling

/-!
# One-shot resolution

However the calls of a route are started, polled and dropped, at most one import
fills its cell, and the middleware is called for that import only.
-/

namespace FileRoutes
namespace Lazy

variable {μ α : Type}

/-- The call of an import is importing, failed, dropped or successful. -/
theorem Phase.Answers.kinds {finish : μ -> α} {outcome : Except String μ}
    {phase : Phase μ α} (answered : phase.Answers finish outcome) :
    (if phase.isImporting = true then 1 else 0) +
      (if phase.hasFailed = true then 1 else 0) +
      (if phase.isDropped = true then 1 else 0) +
      (if phase.hasSucceeded = true then 1 else 0) = 1 := by
  cases phase with
  | started => exact answered.elim
  | waiting => exact answered.elim
  | importing delay expected => rfl
  | finished result => cases result <;> rfl
  | dropped => rfl

namespace Cell

variable {source : Source μ α} {tried : List Nat} {cell after : Cell μ α}
  {call : Nat}

/-! ## Cells with content -/

/-- In a cell with content nothing is imported any more and the content
stays. -/
theorem Change.filled {calls : List Nat}
    (change : Change source calls cell after)
    (permit : cell.Permit) {content : α}
    (filled : cell.content = some content) :
    calls = [] ∧ after.content = some content := by
  have free : cell.holder = none := permit.spent (by simp [filled])
  cases change with
  | begun admitted empty => exact absurd (empty.symm.trans filled) (by simp)
  | succeeded imports => exact absurd imports (permit.not_importing free _ _ _)
  | failed imports => exact absurd imports (permit.not_importing free _ _ _)
  | resigned pending holds => exact absurd (free.symm.trans holds) (by simp)
  | _ => exact ⟨rfl, filled⟩

theorem run_filled (permit : cell.Permit) {content : α}
    (filled : cell.content = some content) (moves : List Move) :
    (cell.run source moves).content = some content ∧
      (cell.run source moves).imports = cell.imports := by
  have kept := run_induction
    (fun (_ : List Nat) (after : Cell μ α) =>
      after.Permit ∧ after.content = some content ∧
      after.imports = cell.imports)
    (fun {_ calls before after} known
        (change : Change source calls before after) => by
      obtain ⟨permit, filled, sameImports⟩ := known
      obtain ⟨noCalls, stays⟩ := change.filled permit filled
      refine ⟨permit.change change, stays, ?_⟩
      rw [change.imports_eq, noCalls, sameImports]
      rfl)
    ⟨permit, filled, rfl⟩ moves
  exact kept.2

theorem resolve_filled {content : α} (filled : cell.content = some content) :
    (cell.resolve source).1 = .done (.ok content) := by
  have asks : cell.start.phase? cell.calls.length = some .started :=
    phase_start _ |>.trans (if_pos rfl)
  have unfinished : cell.start.isFinished cell.calls.length = false :=
    isFinished_of_phase asks (by simp)
  have filledStart : cell.start.content = some content := filled
  have replies :
      (cell.start.poll source cell.calls.length).reply cell.calls.length =
        .done (.ok content) := by
    rw [poll_filled filledStart (.inl asks)]
    exact reply_move asks _
  rw [resolve, roundsFor,
    settle_unfinished (List.mem_singleton_self _) unfinished, settle_finished]
  · exact replies
  · intro call member
    rw [List.mem_singleton] at member
    rw [member]
    show (cell.start.poll source _).isFinished _ = true
    rw [isFinished, replies]

/-! ## Moves that leave a cell empty -/

/-- An import that fails leaves the cell empty. -/
theorem content_advance_failed (empty : cell.content = none)
    {before : Phase μ α}
    (known : cell.phase? call = some before) {delay : Nat}
    {outcome : Except String μ} {cause : String}
    (fails : (cell.advance source call delay outcome).reply call =
      .done (.error cause)) :
    (cell.advance source call delay outcome).content = none := by
  cases delay with
  | succ remaining => exact empty
  | zero =>
    cases outcome with
    | ok imported =>
      have succeeds := reply_move known (.ok (source.finish imported))
      cases succeeds.symm.trans fails
    | error cause =>
      rw [advance, complete, release_eq]
      exact empty

/-- A poll that finishes a call with a failure leaves the cell empty. -/
theorem content_poll_failed (permit : cell.Permit)
    (unfinished : cell.isFinished call = false)
    {cause : String}
    (fails : (cell.poll source call).reply call = .done (.error cause)) :
    (cell.poll source call).content = none := by
  revert fails
  rw [poll]
  split
  · rename_i content asks filled
    rw [reply_move asks]
    intro fails
    cases fails
  · rename_i content waits filled
    rw [reply_move waits]
    intro fails
    cases fails
  · rename_i asks empty
    split
    · rw [begin]
      exact content_advance_failed (by exact empty) (by exact asks)
    · exact fun _ => empty
  · rename_i waits empty
    split
    · rw [begin]
      exact content_advance_failed (by exact empty) (by exact waits)
    · exact fun _ => empty
  · rename_i delay outcome imports
    exact content_advance_failed
      (permit.content_eq_none (permit.importing imports)) imports
  · intro fails
    rw [isFinished, fails] at unfinished
    cases unfinished

theorem content_drop (call : Nat) :
    (cell.drop call).content = cell.content := by
  rw [drop]
  split
  · rfl
  · dsimp only
    split
    · rw [release_eq]
      rfl
    · rfl
  · dsimp only
    split
    · rw [release_eq]
      rfl
    · rfl
  · rfl

/-! ## What the ledger says -/

/-- How many of the calls stand in phases of a kind. -/
def tally (cell : Cell μ α) (calls : List Nat) (kind : Phase μ α -> Bool) :
    Nat :=
  calls.countP fun call => (cell.phase? call).any kind

/-- No attempt is under way when no call imports. -/
theorem tally_importing
    (quiet : ∀ call delay outcome, cell.phase? call ≠
      some (.importing delay outcome))
    (calls : List Nat) : cell.tally calls Phase.isImporting = 0 := by
  rw [tally, List.countP_eq_zero]
  intro call _ imports
  obtain ⟨phase, known, isImporting⟩ := (Option.any_eq_true _ _).mp imports
  cases phase with
  | importing delay outcome => exact quiet call delay outcome known
  | _ => cases isImporting

namespace Ledger

/-- The content is what some import gave to the call it was made for. -/
theorem imported (ledger : Ledger source tried cell) {content : α}
    (filled : cell.content = some content) :
    ∃ number call imported, tried[number]? = some call ∧
      (source.importer number).outcome = .ok imported ∧
      cell.phase? call = some (.finished (.ok content)) ∧
      content = source.finish imported := by
  obtain ⟨winner, isWinner⟩ := ledger.winner filled
  obtain ⟨member, succeeded⟩ := (isWinner winner).mpr rfl
  obtain ⟨number, found⟩ := List.mem_iff_getElem?.mp member
  obtain ⟨phase, known, answered⟩ := ledger.answers found
  rw [succeeded] at known
  cases known
  cases given : (source.importer number).outcome with
  | error cause => rw [given] at answered; cases answered
  | ok imported =>
    rw [given] at answered
    exact ⟨number, winner, imported, found, given, succeeded,
      Except.ok.inj answered⟩

/-- A cell has content when an import has succeeded. -/
theorem resolved_of_completed (ledger : Ledger source tried cell) {number : Nat}
    {imported : μ} (found : tried[number]? = some call)
    (succeeds : (source.importer number).outcome = .ok imported)
    (finished : cell.isFinished call = true) :
    cell.content = some (source.finish imported) := by
  obtain ⟨result, known⟩ := isFinished_iff.mp finished
  obtain ⟨phase, alsoKnown, answered⟩ := ledger.answers found
  rw [known] at alsoKnown
  cases alsoKnown
  rw [succeeds] at answered
  exact ledger.agreed (known.trans (congrArg (some ∘ Phase.finished) answered))

/-- A failure is that of the one import that was made for the call. -/
theorem failed_alone (ledger : Ledger source tried cell) {cause : String}
    (failed : cell.phase? call = some (.finished (.error cause))) :
    ∃! number, tried[number]? = some call ∧
      (source.importer number).outcome = .error cause := by
  have member : call ∈ tried := ledger.own failed (.inr rfl)
  obtain ⟨number, found⟩ := List.mem_iff_getElem?.mp member
  obtain ⟨phase, known, answered⟩ := ledger.answers found
  rw [failed] at known
  cases known
  cases given : (source.importer number).outcome with
  | ok imported => rw [given] at answered; cases answered
  | error reason =>
    rw [given] at answered
    cases answered
    refine ⟨number, ⟨found, given⟩, fun other both => ?_⟩
    have inside : number < tried.length :=
      (List.getElem?_eq_some_iff.mp found).1
    exact ((List.getElem?_inj inside ledger.nodup).mp
      (found.trans both.1.symm)).symm

/-! ## Counting attempts -/

/-- Every attempt is under way, has failed, was dropped or has succeeded. -/
theorem length_eq_tallies (source : Source μ α) {calls : List Nat}
    (begun : ∀ call ∈ calls, ∃ phase outcome, cell.phase? call = some phase ∧
      phase.Answers source.finish outcome) :
    calls.length = cell.tally calls Phase.isImporting +
      cell.tally calls Phase.hasFailed +
      cell.tally calls Phase.isDropped +
        cell.tally calls Phase.hasSucceeded := by
  induction calls with
  | nil => rfl
  | cons call rest step =>
    obtain ⟨⟨phase, outcome, known, answered⟩, restBegun⟩ :=
      List.forall_mem_cons.mp begun
    have one := answered.kinds
    simp only [tally] at step ⊢
    simp only [List.countP_cons, known, Option.any_some, List.length_cons,
      step restBegun]
    omega

/-- One attempt has succeeded when the cell has content, and none otherwise. -/
theorem tally_succeeded (ledger : Ledger source tried cell) :
    cell.tally tried Phase.hasSucceeded =
      if cell.isResolved = true then 1 else 0 := by
  have succeeded_iff (call : Nat) :
      (cell.phase? call).any Phase.hasSucceeded = true ↔
        ∃ content, cell.content = some content ∧
          cell.phase? call = some (.finished (.ok content)) := by
    rw [Option.any_eq_true]
    constructor
    · rintro ⟨phase, known, succeeds⟩
      match phase, succeeds with
      | .finished (.ok content), _ =>
        exact ⟨content, ledger.agreed known, known⟩
    · rintro ⟨content, _, known⟩
      exact ⟨_, known, rfl⟩
  cases filled : cell.content with
  | none =>
    have unresolved : cell.isResolved = false := by rw [isResolved, filled]; rfl
    rw [unresolved, tally, List.countP_eq_zero.mpr]
    · rfl
    · intro call _ succeeds
      obtain ⟨content, isContent, _⟩ := (succeeded_iff call).mp succeeds
      cases filled.symm.trans isContent
  | some content =>
    have resolved : cell.isResolved = true := by rw [isResolved, filled]; rfl
    obtain ⟨winner, isWinner⟩ := ledger.winner filled
    have member : winner ∈ tried := ((isWinner winner).mpr rfl).1
    rw [resolved, if_pos rfl, ← List.count_eq_one_of_mem ledger.nodup member,
      List.count, tally]
    apply List.countP_congr
    intro call isTried
    rw [succeeded_iff, beq_iff_eq, ← isWinner, filled]
    constructor
    · rintro ⟨other, same, known⟩
      cases same
      exact ⟨isTried, known⟩
    · rintro ⟨_, known⟩
      exact ⟨content, rfl, known⟩

/-- Attempts are under way, failed, dropped or the one that filled the cell. -/
theorem balance (ledger : Ledger source tried cell) :
    cell.imports = cell.tally tried Phase.isImporting +
      cell.tally tried Phase.hasFailed +
      cell.tally tried Phase.isDropped + if cell.isResolved = true then 1
                                         else 0 := by
  rw [← ledger.tally_succeeded, ledger.imports]
  apply length_eq_tallies source
  intro call member
  obtain ⟨number, found⟩ := List.mem_iff_getElem?.mp member
  obtain ⟨phase, known, answered⟩ := ledger.answers found
  exact ⟨phase, _, known, answered⟩

end Ledger
end Cell

/-! ## Routes -/

namespace LazyRoute

/-- The calls for which the importer of a route is called in a run, in order. -/
def attempts (route : LazyRoute) (moves : List Move) : List Nat :=
  Cell.attempts route.source route.cell moves

/-- The import with the given number completes in a run, with the given outcome:
the call that it was made for is polled until it finishes. -/
def Completes (route : LazyRoute) (moves : List Move) (number : Nat)
    (outcome : Except String PageModule) : Prop :=
  (route.importer number).outcome = outcome ∧ ∃ call,
    (route.attempts moves)[number]? = some call ∧
      (route.after moves).cell.isFinished call = true

/-- How many of the attempts of a run end up in phases of a kind. -/
def tally (route : LazyRoute) (moves : List Move)
    (kind : Phase PageModule ResolvedRoute -> Bool) : Nat :=
  (route.after moves).cell.tally (route.attempts moves) kind

/-- A route is resolved once: what holds of it and its clones after a run. -/
structure OneShot (route : LazyRoute) (moves : List Move) : Prop where
  /-- The cell is resolved when some import has completed successfully, and only
  then. -/
  resolved_iff : (route.after moves).cell.isResolved = true ↔
    ∃ number exports, route.Completes moves number (.ok exports)
  /-- The loader of the imported module, or the null loader, is wrapped, and its
  action is not. -/
  served : ∀ {resolved}, (route.after moves).cell.content = some resolved ->
    ∃ number exports, route.Completes moves number (.ok exports) ∧
      resolved.component = exports.component ∧
      resolved.loader = route.middleware (exports.loader.getD Handler.null) ∧
      resolved.action = exports.action
  /-- The middleware was called once if the cell is resolved, and never
  otherwise. -/
  wraps : (route.after moves).cell.finishes =
    if (route.after moves).cell.isResolved = true then 1 else 0
  /-- A resolved cell stays as it is and calls no importer again, -/
  stays : ∀ {resolved}, (route.after moves).cell.content =
    some resolved -> ∀ later,
    (route.after (moves ++ later)).cell.content = some resolved ∧
      (route.after (moves ++ later)).cell.imports =
        (route.after moves).cell.imports
  /-- and every poll of a call that has not finished gives what the cell
  holds, -/
  answers : ∀ {resolved},
    (route.after moves).cell.content = some resolved -> ∀ {call},
    (route.after moves).cell.phase? call = some .started ∨
      (route.after moves).cell.phase? call = some .waiting ->
    (route.after (moves ++ [.poll call])).cell.reply call = .done (.ok resolved)
  /-- as does every call that is made from then on. -/
  resolves : ∀ {resolved}, (route.after moves).cell.content = some resolved ->
    (route.after moves).resolve.1 = some (.ok resolved)
  /-- A call fails by an import that was made for it, and by one only. -/
  fails : ∀ {call cause},
    (route.after moves).cell.phase? call = some (.finished (.error cause)) ->
    ∃! number, (route.attempts moves)[number]? = some call ∧
      (route.importer number).outcome = .error cause
  /-- An attempt that fails leaves the cell empty. -/
  failed : ∀ {call cause}, (route.after moves).cell.isFinished call = false ->
    (route.after (moves ++ [.poll call])).cell.reply call =
      .done (.error cause) ->
    (route.after (moves ++ [.poll call])).cell.content = none
  /-- An attempt that is dropped leaves the cell empty. -/
  dropped : ∀ {call delay outcome},
    (route.after moves).cell.phase? call = some (.importing delay outcome) ->
    (route.after (moves ++ [.drop call])).cell.content = none
  /-- Where a call stands is changed by its own polls and its own drop only. -/
  apart : ∀ {call move}, call < (route.after moves).cell.calls.length ->
    move.call? ≠ some call ->
    (route.after (moves ++ [move])).cell.phase? call =
      (route.after moves).cell.phase? call
  /-- When nothing is being imported, the imports are the failed and the dropped
  attempts and the one that filled the cell. -/
  balance : (∀ call delay outcome,
      (route.after moves).cell.phase? call ≠ some (.importing delay outcome)) ->
    (route.after moves).cell.imports =
      route.tally moves Phase.hasFailed + route.tally moves Phase.isDropped +
        if (route.after moves).cell.isResolved = true then 1 else 0

theorem cell_after_append (route : LazyRoute) (moves later : List Move) :
    (route.after (moves ++ later)).cell =
      (route.after moves).cell.run route.source later :=
  Cell.run_append route.source route.cell moves later

/-- The content of a route is the module that some completed import gave. -/
theorem served_by_import {route : LazyRoute} {moves : List Move}
    (ledger : Cell.Ledger route.source (route.attempts moves)
      (route.after moves).cell)
    {content : ResolvedRoute}
    (filled : (route.after moves).cell.content = some content) :
    ∃ number exports, route.Completes moves number (.ok exports) ∧
      content = .ofModule route.middleware exports := by
  obtain ⟨number, call, exports, found, given, succeeded, isContent⟩ :=
    ledger.imported filled
  have finished := Cell.isFinished_iff.mpr ⟨_, succeeded⟩
  exact ⟨number, exports, ⟨given, call, found, finished⟩, isContent⟩

/-- Every route that starts empty is resolved once, over all importers,
middlewares and runs. -/
theorem one_shot (id : String) (importer : Nat -> Import PageModule)
    (middleware : Middleware) (moves : List Move) :
    OneShot { id := id, importer := importer,
              middleware := middleware } moves := by
  generalize isRoute :
    ({ id := id, importer := importer, middleware := middleware } : LazyRoute) =
      route
  have ledger :
      Cell.Ledger route.source (route.attempts moves)
        (route.after moves).cell := by
    subst isRoute
    exact Cell.Ledger.run _ moves
  have last (move : Move) : (route.after (moves ++ [move])).cell =
      (route.after moves).cell.act route.source move :=
    route.cell_after_append moves [move]
  constructor
  case resolved_iff =>
    rw [Cell.isResolved, Option.isSome_iff_exists]
    constructor
    · rintro ⟨content, filled⟩
      obtain ⟨number, exports, isCompleted, _⟩ := served_by_import ledger filled
      exact ⟨number, exports, isCompleted⟩
    · rintro ⟨number, exports, given, call, found, finished⟩
      exact ⟨_, ledger.resolved_of_completed found given finished⟩
  case served =>
    intro resolved filled
    obtain ⟨number, exports, isCompleted, rfl⟩ := served_by_import ledger filled
    exact ⟨number, exports, isCompleted, rfl, rfl, rfl⟩
  case wraps => exact ledger.finishes
  case stays =>
    intro resolved filled later
    rw [cell_after_append]
    exact Cell.run_filled ledger.permit filled later
  case answers =>
    intro resolved filled call asks
    rw [last, Cell.act, Cell.poll_filled filled asks]
    rcases asks with asks | waits
    · exact Cell.reply_move asks _
    · exact Cell.reply_move waits _
  case resolves =>
    intro resolved filled
    exact congrArg (Reply.forFile route.id) (Cell.resolve_filled filled)
  case fails =>
    intro call cause failed
    exact ledger.failed_alone failed
  case failed =>
    intro call cause unfinished fails
    rw [last] at fails ⊢
    exact Cell.content_poll_failed ledger.permit unfinished fails
  case dropped =>
    intro call delay outcome imports
    rw [last, Cell.act, Cell.content_drop]
    exact ledger.permit.content_eq_none (ledger.permit.importing imports)
  case apart =>
    intro call move made different
    rw [last]
    exact Cell.phase_act_other made different
  case balance =>
    intro quiet
    have balance := ledger.balance
    rw [Cell.tally_importing quiet, Nat.zero_add] at balance
    exact balance

/-- The first of three calls fails, the second is dropped while it imports, and
the third fills the cell. -/
example :
    let exports : PageModule := { component := Component.placeholder "shop" }
    let importer : Nat -> Import PageModule :=
      Import.following (.immediate exports)
        [{ outcome := .error "offline" },
          { delay := 1, outcome := .ok exports }]
    let route : LazyRoute :=
      { id := "shop/page.rs", importer := importer,
        middleware := Middleware.identity }
    let moves : List Move :=
      [.start, .start, .start, .poll 0, .poll 1, .poll 2, .drop 1,
        .poll 2, .poll 2]
    let cell := (route.after moves).cell
    (cell.imports, route.tally moves Phase.hasFailed,
      route.tally moves Phase.isDropped, cell.finishes, cell.isResolved) =
      (3, 1, 1, 1, true) := by
  rfl

end LazyRoute
end Lazy
end FileRoutes
