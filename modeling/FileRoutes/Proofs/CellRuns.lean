import FileRoutes.Lazy.Resolution
import Mathlib.Data.List.Induction

/-!
# Runs of a cell

The calls of a cell are started, polled and dropped in any order.  Whatever is
done to a cell amounts to a few changes, each of which moves one call to another
phase; what a change can be is said once, and everything else about runs follows
from it.
-/

namespace FileRoutes
namespace Lazy

/-- What is done to a cell from outside. -/
inductive Move
  | start
  | poll (call : Nat)
  | drop (call : Nat)
deriving DecidableEq, Repr

/-- Whether a call waits for the permit or for its import. -/
def Phase.isPending {μ α : Type} : Phase μ α -> Bool
  | waiting | importing _ _ => true
  | started | finished _ | dropped => false

/-- The call that a move is about, unless it makes a new one. -/
def Move.call? : Move -> Option Nat
  | start => none
  | poll call | drop call => some call

namespace Cell

variable {μ α : Type} (source : Source μ α) (cell : Cell μ α)

/-- Where a call stands; calls that were not made stand nowhere. -/
def phase? (call : Nat) : Option (Phase μ α) :=
  cell.calls[call]?

/-- The cell after a move. -/
def act : Move -> Cell μ α
  | .start => cell.start
  | .poll call => cell.poll source call
  | .drop call => cell.drop call

/-- The cell after moves, one after the other. -/
def run (moves : List Move) : Cell μ α :=
  moves.foldl (act source) cell

/-- The call on whose behalf the importer is called in a move, if it is. -/
def attempt (move : Move) : List Nat :=
  if (cell.act source move).imports = cell.imports then []
  else move.call?.toList

/-- The calls on whose behalf the importer is called, in the order of the
imports. -/
def attempts (cell : Cell μ α) : List Move -> List Nat
  | [] => []
  | move :: rest =>
      cell.attempt source move ++ attempts (cell.act source move) rest

/-- A run of moves in two parts goes on where the first part ends. -/
theorem run_append (moves later : List Move) :
    cell.run source (moves ++ later) =
      (cell.run source moves).run source later :=
  List.foldl_append

theorem attempts_append (moves later : List Move) :
    attempts source cell (moves ++ later) =
      attempts source cell moves ++ attempts source
        (cell.run source moves) later := by
  induction moves generalizing cell with
  | nil => rfl
  | cons move rest step =>
    rw [List.cons_append, attempts, attempts, step, List.append_assoc]
    rfl

/-! ## Phases -/

section Phases

variable {cell : Cell μ α} {call other : Nat}

/-- Moving a call sets its phase and no other one. -/
theorem phase_move {before : Phase μ α} (known : cell.phase? call = some before)
    (phase : Phase μ α) (other : Nat) :
    (cell.move call phase).phase? other =
      if other = call then some phase else cell.phase? other := by
  have inside : call < cell.calls.length :=
    (List.getElem?_eq_some_iff.mp known).1
  rw [phase?, move, List.getElem?_set]
  by_cases same : call = other
  · rw [if_pos same, if_pos inside, if_pos same.symm]
  · rw [if_neg same, if_neg fun equal => same equal.symm, phase?]

theorem phase_start (other : Nat) :
    cell.start.phase? other =
      if other = cell.calls.length then some .started
      else cell.phase? other := by
  rw [phase?, start, List.getElem?_append, phase?]
  rcases Nat.lt_trichotomy other cell.calls.length with before | equal | behind
  · rw [if_pos before, if_neg (Nat.ne_of_lt before)]
  · simp [equal]
  · have nothing :
        ([.started] : List (Phase μ α))[other - cell.calls.length]? = none := by
      rw [List.getElem?_eq_none_iff, List.length_singleton]
      omega
    rw [if_neg (by omega), if_neg (by omega), nothing,
      List.getElem?_eq_none_iff.mpr (by omega)]

theorem phase_length : cell.phase? cell.calls.length = none :=
  List.getElem?_eq_none_iff.mpr (Nat.le_refl _)

/-- A released permit goes to the first call in line. -/
theorem release_eq :
    cell.release = { cell with
      holder := cell.line.head?, line := cell.line.tail } := by
  obtain ⟨content, holder, line, calls, imports, finishes, log⟩ := cell
  cases line <;> rfl

end Phases

/-! ## Changes -/

/-- Give the permit to a call, which begins its import. -/
def enter (call : Nat) : Cell μ α :=
  { cell.move call (.importing (source.importer cell.imports).delay
      (source.importer cell.imports).outcome) with
    holder := some call
    imports := cell.imports + 1
    log := cell.log ++ source.announcement }

/-- Take a call out of the line. -/
def leave (call : Nat) : Cell μ α :=
  { cell.move call .dropped with line := cell.line.filter (· ≠ call) }

/-- What can happen to a cell at once, with the calls on whose behalf the
importer is called. -/
inductive Change : List Nat -> Cell μ α -> Cell μ α -> Prop
  /-- A call is made. -/
  | started (cell : Cell μ α) : Change [] cell cell.start
  /-- A call finds the permit taken and waits in line. -/
  | queued {cell : Cell μ α} {call : Nat}
      (asks : cell.phase? call = some .started) (empty : cell.content = none)
      (taken : cell.holder ≠ none) :
      Change [] cell { cell.move call .waiting with
        line := cell.line ++ [call] }
  /-- A call finds the content. -/
  | served {cell : Cell μ α} {call : Nat} {content : α}
      (asks : cell.phase? call = some .started ∨
        cell.phase? call = some .waiting)
      (filled : cell.content = some content) :
      Change [] cell (cell.move call (.finished (.ok content)))
  /-- A call begins its import, because nobody holds the permit or because it
  does. -/
  | begun {cell : Cell μ α} {call : Nat}
      (admitted : cell.phase? call = some .started ∧ cell.holder = none ∨
        cell.phase? call = some .waiting ∧ cell.holder = some call)
      (empty : cell.content = none) :
      Change [call] cell (cell.enter source call)
  /-- An import is one poll further. -/
  | proceeded {cell : Cell μ α} {call delay : Nat} {outcome : Except String μ}
      (imports : cell.phase? call = some (.importing (delay + 1) outcome)) :
      Change [] cell (cell.move call (.importing delay outcome))
  /-- An import succeeds and fills the cell. -/
  | succeeded {cell : Cell μ α} {call : Nat} {imported : μ}
      (imports : cell.phase? call = some (.importing 0 (.ok imported))) :
      Change [] cell
        { cell.move call (.finished (.ok (source.finish imported))) with
          content := some (source.finish imported)
          holder := none
          line := []
          finishes := cell.finishes + 1 }
  /-- An import fails, and the permit is handed on. -/
  | failed {cell : Cell μ α} {call : Nat} {cause : String}
      (imports : cell.phase? call = some (.importing 0 (.error cause))) :
      Change [] cell (cell.move call (.finished (.error cause))).release
  /-- A call is dropped before its first poll. -/
  | cancelled {cell : Cell μ α} {call : Nat}
      (asks : cell.phase? call = some .started) :
      Change [] cell (cell.move call .dropped)
  /-- A call that does not hold the permit is dropped. -/
  | left {cell : Cell μ α} {call : Nat}
      (pending : (cell.phase? call).any Phase.isPending = true)
      (other : cell.holder ≠ some call) :
      Change [] cell (cell.leave call)
  /-- A call that holds the permit is dropped, and the permit is handed on. -/
  | resigned {cell : Cell μ α} {call : Nat}
      (pending : (cell.phase? call).any Phase.isPending = true)
      (holds : cell.holder = some call) :
      Change [] cell (cell.leave call).release

/-- Changes one after the other. -/
inductive Changes : List Nat -> Cell μ α -> Cell μ α -> Prop
  | none (cell : Cell μ α) : Changes [] cell cell
  | next {calls later : List Nat} {cell between after : Cell μ α}
      (first : Change source calls cell between)
      (rest : Changes later between after) :
      Changes (calls ++ later) cell after

section Changes

variable {source} {cell : Cell μ α} {call : Nat}

theorem Change.changes {calls : List Nat} {after : Cell μ α}
    (change : Change source calls cell after) :
    Changes source calls cell after := by
  have alone := Changes.next change (.none after)
  rwa [List.append_nil] at alone

/-- A change calls the importer once for each call that it names. -/
theorem Change.imports_eq {calls : List Nat} {after : Cell μ α}
    (change : Change source calls cell after) :
    after.imports = cell.imports + calls.length := by
  cases change with
  | begun admitted empty => rfl
  | failed imports => rw [release_eq]; rfl
  | resigned pending holds => rw [release_eq]; rfl
  | _ => rfl

/-- A sequence of changes counts an import for every call that it imports
for. -/
theorem Changes.imports_eq {calls : List Nat} {after : Cell μ α}
    (changes : Changes source calls cell after) :
    after.imports = cell.imports + calls.length := by
  induction changes with
  | none cell => rfl
  | next first rest step =>
    rw [step, first.imports_eq, List.length_append, Nat.add_assoc]

theorem change_advance {delay : Nat} {outcome : Except String μ}
    (imports : cell.phase? call = some (.importing delay outcome)) :
    Change source [] cell (cell.advance source call delay outcome) := by
  cases delay with
  | succ remaining => exact .proceeded imports
  | zero =>
    cases outcome with
    | ok imported => exact .succeeded imports
    | error cause => exact .failed imports

/-- Beginning an import is being admitted and polled. -/
theorem begin_eq (source : Source μ α) (cell : Cell μ α) (call : Nat) :
    cell.begin source call =
      (cell.enter source call).advance source call
        (source.importer cell.imports).delay
        (source.importer cell.imports).outcome := by
  rw [begin, enter]
  cases (source.importer cell.imports).delay with
  | succ remaining => simp [advance, move]
  | zero =>
    cases (source.importer cell.imports).outcome with
    | ok imported => simp [advance, complete, move]
    | error cause => simp [advance, complete, move, release_eq]

/-- A call that is admitted to an empty cell imports. -/
theorem changes_begin
    (admitted : cell.phase? call = some .started ∧ cell.holder = none ∨
      cell.phase? call = some .waiting ∧ cell.holder = some call)
    (empty : cell.content = none) :
    Changes source [call] cell (cell.begin source call) := by
  obtain ⟨before, known⟩ : ∃ before, cell.phase? call = some before := by
    rcases admitted with ⟨asks, _⟩ | ⟨waits, _⟩
    · exact ⟨_, asks⟩
    · exact ⟨_, waits⟩
  have imports : (cell.enter source call).phase? call =
      some (.importing (source.importer cell.imports).delay
        (source.importer cell.imports).outcome) :=
    (phase_move known _ call).trans (if_pos rfl)
  rw [begin_eq]
  exact .next (.begun admitted empty) (change_advance imports).changes

/-- A poll is a few changes, and the importer is called for the polled call at
most. -/
theorem changes_poll (source : Source μ α) (cell : Cell μ α) (call : Nat) :
    ∃ calls, Changes source calls cell (cell.poll source call) ∧
      (calls = [] ∨ calls = [call]) := by
  rw [poll]
  split
  · rename_i content asks filled
    exact ⟨[], (Change.served (.inl asks) filled).changes, .inl rfl⟩
  · rename_i content waits filled
    exact ⟨[], (Change.served (.inr waits) filled).changes, .inl rfl⟩
  · rename_i asks empty
    split
    · rename_i free
      exact ⟨[call], changes_begin (.inl ⟨asks, free⟩) empty, .inr rfl⟩
    · rename_i holder taken
      have isTaken : cell.holder ≠ none := by simp [taken]
      exact ⟨[], (Change.queued asks empty isTaken).changes, .inl rfl⟩
  · rename_i waits empty
    split
    · rename_i holds
      exact ⟨[call], changes_begin (.inr ⟨waits, holds⟩) empty, .inr rfl⟩
    · exact ⟨[], .none cell, .inl rfl⟩
  · rename_i delay outcome imports
    exact ⟨[], (change_advance imports).changes, .inl rfl⟩
  · exact ⟨[], .none cell, .inl rfl⟩

theorem changes_drop (source : Source μ α) (cell : Cell μ α) (call : Nat) :
    Changes source [] cell (cell.drop call) := by
  have leaves (pending : (cell.phase? call).any Phase.isPending = true) :
      Changes source [] cell
        (if cell.holder = some call then (cell.leave call).release
         else cell.leave call) := by
    split
    · rename_i holds
      exact (Change.resigned pending holds).changes
    · rename_i other
      exact (Change.left pending other).changes
  rw [drop]
  split
  · rename_i asks
    exact (Change.cancelled asks).changes
  · rename_i waits
    exact leaves (by rw [phase?, waits]; rfl)
  · rename_i delay outcome imports
    exact leaves (by rw [phase?, imports]; rfl)
  · exact .none cell

/-- Every move is a few changes. -/
theorem changes_act (source : Source μ α) (cell : Cell μ α) (move : Move) :
    Changes source (cell.attempt source move) cell (cell.act source move) := by
  have named {calls : List Nat}
      (changes : Changes source calls cell (cell.act source move))
      (isNamed : calls = [] ∨ calls = move.call?.toList) :
      cell.attempt source move = calls := by
    rw [attempt, changes.imports_eq]
    cases calls with
    | nil => rw [List.length_nil, Nat.add_zero, if_pos rfl]
    | cons first rest =>
      have isCall := isNamed.resolve_left (List.cons_ne_nil first rest)
      rw [List.length_cons, if_neg (by omega), isCall]
  cases move with
  | start =>
    have changes := (Change.started cell : Change source _ _ _).changes
    rw [named changes (.inl rfl)]
    exact changes
  | poll call =>
    obtain ⟨calls, changes, isNamed⟩ := changes_poll source cell call
    rw [named changes isNamed]
    exact changes
  | drop call =>
    have changes := changes_drop source cell call
    rw [named changes (.inl rfl)]
    exact changes

/-- What is kept by each change is kept by changes one after the other. -/
theorem Changes.induction {holds : List Nat -> Cell μ α -> Prop}
    (step : ∀ {tried calls : List Nat} {cell after : Cell μ α},
      holds tried cell ->
      Change source calls cell after -> holds (tried ++ calls) after)
    {tried calls : List Nat} {cell after : Cell μ α}
    (changes : Changes source calls cell after) (start : holds tried cell) :
    holds (tried ++ calls) after := by
  induction changes generalizing tried with
  | none cell => rwa [List.append_nil]
  | next first rest later =>
    rw [← List.append_assoc]
    exact later (step start first)

/-- What holds at the start and is kept by each change holds after every run,
with the calls for which the importer was called so far. -/
theorem run_induction (holds : List Nat -> Cell μ α -> Prop)
    (step : ∀ {tried calls : List Nat} {cell after : Cell μ α},
      holds tried cell ->
      Change source calls cell after -> holds (tried ++ calls) after)
    {cell : Cell μ α} (start : holds [] cell) (moves : List Move) :
    holds (attempts source cell moves) (cell.run source moves) := by
  induction moves using List.reverseRecOn with
  | nil => exact start
  | append_singleton moves move soFar =>
    have last : attempts source (cell.run source moves) [move] =
        (cell.run source moves).attempt source move := List.append_nil _
    rw [attempts_append, run_append, last]
    exact (changes_act source (cell.run source moves) move).induction step soFar

end Changes

/-! ## Other calls -/

section Others

variable {source} {cell : Cell μ α} {call : Nat}

theorem phase_move_other {other : Nat} (different : other ≠ call)
    (phase : Phase μ α) :
    (cell.move call phase).phase? other = cell.phase? other :=
  List.getElem?_set_ne (Ne.symm different)

theorem phase_advance_other {other : Nat} (different : other ≠ call)
    (delay : Nat) (outcome : Except String μ) :
    (cell.advance source call delay outcome).phase? other =
      cell.phase? other := by
  cases delay with
  | succ remaining => exact phase_move_other different _
  | zero =>
    cases outcome with
    | ok imported => exact phase_move_other different _
    | error cause =>
      rw [advance, complete, release_eq]
      exact phase_move_other different _

/-- A poll is of no consequence for where other calls stand. -/
theorem phase_poll_other {other : Nat} (different : other ≠ call) :
    (cell.poll source call).phase? other = cell.phase? other := by
  rw [poll]
  split
  · exact phase_move_other different _
  · exact phase_move_other different _
  · split
    · exact phase_advance_other different _ _
    · exact phase_move_other different _
  · split
    · exact phase_advance_other different _ _
    · rfl
  · exact phase_advance_other different _ _
  · rfl

theorem phase_leave_other {other : Nat} (different : other ≠ call) :
    (if cell.holder = some call then (cell.leave call).release
      else cell.leave call).phase? other = cell.phase? other := by
  split
  · rw [release_eq]
    exact phase_move_other different _
  · exact phase_move_other different _

/-- A drop is of no consequence for where other calls stand. -/
theorem phase_drop_other {other : Nat} (different : other ≠ call) :
    (cell.drop call).phase? other = cell.phase? other := by
  rw [drop]
  split
  · exact phase_move_other different _
  · exact phase_leave_other different
  · exact phase_leave_other different
  · rfl

/-- A move is of no consequence for where the calls stand that it is not
about. -/
theorem phase_act_other {move : Move} {other : Nat}
    (made : other < cell.calls.length) (different : move.call? ≠ some other) :
    (cell.act source move).phase? other = cell.phase? other := by
  cases move with
  | start => exact (phase_start other).trans (if_neg (Nat.ne_of_lt made))
  | poll call =>
    exact phase_poll_other fun same => different (congrArg some same.symm)
  | drop call =>
    exact phase_drop_other fun same => different (congrArg some same.symm)

end Others
end Cell

/-! ## Routes and views -/

/-- A route after moves on its calls, whichever of its clones they are made
on. -/
def LazyRoute.after (route : LazyRoute) (moves : List Move) : LazyRoute :=
  { route with cell := route.cell.run route.source moves }

/-- A view after moves on its calls, whichever of its clones they are made
on. -/
def LazyView.after (view : LazyView) (moves : List Move) : LazyView :=
  { view with cell := view.cell.run view.source moves }

end Lazy
end FileRoutes
