import FileRoutes.Proofs.Permit
import FileRoutes.Proofs.Settling

/-!
# Joined calls

Several calls of an idle cell that are polled together, round after round, end
as if each had been awaited before the next one was made: calls take their turn
in order, and a call whose import is pending holds up those behind it.
-/

namespace FileRoutes
namespace Lazy

/-- Do something several times, one after the other, and list what it gives. -/
def inTurn {σ ρ : Type} (act : σ -> ρ × σ) : Nat -> σ -> List ρ × σ
  | 0, state => ([], state)
  | count + 1, state =>
    let first := act state
    let others := inTurn act count first.2
    (first.1 :: others.1, others.2)

/-- What is done in turn can be renamed and done on another kind of state. -/
theorem inTurn_map {σ τ ρ π : Type} (act : σ -> ρ × σ) (other : τ -> π × τ)
    (rename : ρ -> π) (embed : σ -> τ)
    (same : ∀ state, other (embed state) =
      (rename (act state).1, embed (act state).2))
    (count : Nat) (state : σ) :
    inTurn other count (embed state) =
      ((inTurn act count state).1.map rename,
        embed (inTurn act count state).2) := by
  induction count generalizing state with
  | zero => rfl
  | succ count step =>
    rw [inTurn, same, inTurn, step]
    rfl

namespace Cell

variable {μ α : Type} (source : Source μ α) (cell : Cell μ α)

/-- How many polls find the next import pending; with content there is no
import. -/
def wait : Nat :=
  match cell.content with
  | some _ => 0
  | none => (source.importer cell.imports).delay

/-- Make one more call and finish it at once. -/
def serve : Cell μ α :=
  match cell.content with
  | some content =>
    { cell with calls := cell.calls ++ [.finished (.ok content)] }
  | none =>
    let outcome := (source.importer cell.imports).outcome.map source.finish
    { cell with
      content := outcome.toOption
      calls := cell.calls ++ [.finished outcome]
      imports := cell.imports + 1
      finishes :=
        cell.finishes + if outcome.toOption.isSome = true then 1 else 0
      log := cell.log ++ source.announcement }

/-- Make several calls and finish each at once. -/
def serveMany : Nat -> Cell μ α -> Cell μ α
  | 0, cell => cell
  | count + 1, cell => serveMany count (cell.serve source)

/-- Nobody holds the permit or waits for it. -/
structure Idle : Prop where
  free : cell.holder = none
  alone : cell.line = []

/-- A cell with more calls, the first of which is next; those in line wait for
the permit unless the cell has its content. -/
def behind (line : List Nat) (phases : List (Phase μ α)) : Cell μ α :=
  release
    { cell with
      line := if cell.isResolved = true then [] else line
      calls := cell.calls ++ phases }

/-- A cell with more calls, the first of which imports. -/
def held (delay : Nat) (line : List Nat) (phases : List (Phase μ α)) :
    Cell μ α :=
  { cell with
    holder := some cell.calls.length
    line := line
    calls := cell.calls ++
      .importing delay (source.importer cell.imports).outcome :: phases
    imports := cell.imports + 1
    log := cell.log ++ source.announcement }

/-- What a poll makes of the next call when its import stays pending for a
while. -/
def resumed (line : List Nat) (phases : List (Phase μ α)) : Nat -> Cell μ α
  | 0 => (cell.serve source).behind line phases
  | delay + 1 => cell.held source delay line phases

/-- A cell after a round over new calls: calls are served until an import is
pending, and those behind it wait. -/
def catchUp : Nat -> Cell μ α -> Cell μ α
  | 0, cell => cell
  | count + 1, cell =>
    match cell.wait source with
    | 0 => catchUp count (cell.serve source)
    | delay + 1 =>
      cell.held source delay (List.range' (cell.calls.length + 1) count)
        (List.replicate count .waiting)

/-- Rounds that suffice for a number of imports. -/
def budget : Nat -> Nat -> Nat
  | 0, _ => 0
  | count + 1, imports =>
    (source.importer imports).delay + 1 + budget count (imports + 1)

section Turns

variable {source} {cell : Cell μ α}

/-! ## Serving -/

/-- Serving one more call appends a finished call and changes no other one. -/
theorem calls_serve (source : Source μ α) (cell : Cell μ α) : ∃ result,
    (cell.serve source).calls = cell.calls ++ [.finished result] := by
  rw [serve]
  split
  · exact ⟨_, rfl⟩
  · exact ⟨_, rfl⟩

theorem length_calls_serve (source : Source μ α) (cell : Cell μ α) :
    (cell.serve source).calls.length = cell.calls.length + 1 := by
  obtain ⟨result, isCalls⟩ := calls_serve source cell
  rw [isCalls, List.length_append, List.length_singleton]

/-- A cell that serves a call from beginning to end is idle again. -/
theorem Idle.serve (idle : cell.Idle) (source : Source μ α) :
    (cell.serve source).Idle := by
  rw [Cell.serve]
  split
  · exact ⟨idle.free, idle.alone⟩
  · exact ⟨idle.free, idle.alone⟩

theorem isFinished_of_calls {after : Cell μ α} {phases : List (Phase μ α)}
    (isCalls : after.calls = cell.calls ++ phases) {call : Nat}
    (finished : cell.isFinished call = true) :
    after.isFinished call = true := by
  obtain ⟨result, known⟩ := isFinished_iff.mp finished
  refine isFinished_iff.mpr ⟨result, ?_⟩
  rw [phase?, isCalls]
  exact List.getElem?_append_left (List.getElem?_eq_some_iff.mp known).1
    |>.trans known

/-! ## Taking turns -/

theorem content_eq_none_of_wait {delay : Nat}
    (waits : cell.wait source = delay + 1) :
    cell.content = none := by
  cases filled : cell.content with
  | none => rfl
  | some content =>
    rw [wait, filled] at waits
    cases waits

theorem phase_next (calls rest : List (Phase μ α)) (phase : Phase μ α) :
    (calls ++ phase :: rest)[calls.length]? = some phase := by
  rw [List.getElem?_append_right (Nat.le_refl _), Nat.sub_self]
  rfl

/-- The permit of a cell with calls in line goes to the first of them, unless
the cell is filled. -/
theorem behind_eq (line : List Nat) (phases : List (Phase μ α)) :
    cell.behind line phases =
      { cell with
        holder := (if cell.isResolved = true then [] else line).head?
        line := (if cell.isResolved = true then [] else line).tail
        calls := cell.calls ++ phases } := by
  rw [behind, release_eq]

/-- The import of the next call ends, and the next one behind it gets the
permit. -/
theorem complete_next (empty : cell.content = none) (holder : Option Nat)
    (line : List Nat) (before : Phase μ α) (phases : List (Phase μ α)) :
    complete source cell.calls.length
        { cell with
          holder := holder
          line := line
          calls := cell.calls ++ before :: phases
          imports := cell.imports + 1
          log := cell.log ++ source.announcement }
        (source.importer cell.imports).outcome =
      (cell.serve source).behind line phases := by
  rw [behind_eq, serve, empty]
  cases outcome : (source.importer cell.imports).outcome with
  | ok imported =>
    simp [complete, move, isResolved, Except.map, Except.toOption]
  | error cause =>
    simp [complete, move, release_eq, isResolved, Except.map, Except.toOption]

/-- A poll of the next call while it imports. -/
theorem poll_held (empty : cell.content = none) (delay : Nat) (line : List Nat)
    (phases : List (Phase μ α)) :
    (cell.held source delay line phases).poll source cell.calls.length =
      cell.resumed source line phases delay := by
  rw [poll, held]
  simp only [phase_next]
  cases delay with
  | zero => exact complete_next empty (some cell.calls.length) line _ phases
  | succ delay => simp [advance, move, resumed, held]

/-- A poll of the next call when it comes to its turn. -/
theorem poll_behind (line : List Nat) (phase : Phase μ α)
    (phases : List (Phase μ α))
    (turn : phase = .started ∧ line = [] ∨
      phase = .waiting ∧ line.head? = some cell.calls.length) :
    (cell.behind line (phase :: phases)).poll source cell.calls.length =
      cell.resumed source line.tail phases (cell.wait source) := by
  have known : (cell.behind line (phase :: phases)).phase? cell.calls.length =
      some phase := by
    rw [behind_eq]
    exact phase_next cell.calls phases phase
  cases filled : cell.content with
  | some content =>
    have filledBehind :
        (cell.behind line (phase :: phases)).content = some content := by
      rw [behind_eq]
      exact filled
    rw [poll_filled filledBehind, behind_eq, wait, filled, resumed, behind_eq,
      serve, filled]
    · simp [move, isResolved, filled]
    · rw [known]
      exact turn.imp (congrArg some ·.1) (congrArg some ·.1)
  | none =>
    have waits : cell.wait source = (source.importer cell.imports).delay := by
      rw [wait, filled]
    have isBehind : cell.behind line (phase :: phases) =
        { cell with
          holder := line.head?
          line := line.tail
          calls := cell.calls ++ phase :: phases } := by
      rw [behind_eq, isResolved, filled]
      rfl
    have begins :
        (cell.behind line (phase :: phases)).poll source cell.calls.length =
          (cell.behind line (phase :: phases)).begin source
            cell.calls.length := by
      rw [poll, isBehind, phase_next, filled]
      rcases turn with ⟨rfl, rfl⟩ | ⟨rfl, isFirst⟩
      · rfl
      · exact if_pos isFirst
    rw [begins, begin, isBehind, waits]
    cases (source.importer cell.imports).delay with
    | zero =>
      exact complete_next filled (some cell.calls.length) line.tail phase phases
    | succ delay => simp [advance, move, resumed, held]

/-! ## Rounds -/

theorem behind_nil (idle : cell.Idle) (line : List Nat)
    (none : cell.isResolved = true ∨ line = []) :
    cell.behind line [] = cell := by
  have noLine : (if cell.isResolved = true then [] else line) = [] := by
    rcases none with resolved | rfl
    · exact if_pos resolved
    · exact ite_self []
  obtain ⟨content, holder, line, calls, imports, finishes, log⟩ := cell
  obtain ⟨rfl, rfl⟩ := idle
  rw [behind_eq, noLine, List.append_nil]
  rfl

/-- Calls that find the permit taken get in line. -/
theorem pollAll_held_started (empty : cell.content = none) (delay count : Nat) :
    ∀ line phases,
      (cell.held source delay line
        (phases ++ List.replicate count .started)).pollAll
        source (List.range' (cell.calls.length + 1 + phases.length) count) =
      cell.held source delay
        (line ++ List.range' (cell.calls.length + 1 + phases.length) count)
        (phases ++ List.replicate count .waiting) := by
  induction count with
  | zero => intro line phases; simp [pollAll]
  | succ count step =>
    intro line phases
    have queues : (cell.held source delay line
          (phases ++ List.replicate (count + 1) .started)).poll source
          (cell.calls.length + 1 + phases.length) =
        cell.held source delay (line ++ [cell.calls.length + 1 + phases.length])
          (phases ++ [.waiting] ++ List.replicate count .started) := by
      have place : cell.calls.length + 1 + phases.length = (cell.calls ++
          .importing delay (source.importer cell.imports).outcome ::
            phases).length := by
        rw [List.length_append, List.length_cons]
        omega
      have isCalls :
          (cell.calls ++ .importing delay (source.importer cell.imports).outcome ::
              (phases ++ List.replicate (count + 1) .started)) =
          (cell.calls ++ .importing delay
            (source.importer cell.imports).outcome :: phases) ++
            .started :: List.replicate count .started := by
        rw [List.append_assoc, List.cons_append, List.replicate_succ]
      rw [held, place, isCalls, poll]
      simp only [phase_next, empty]
      simp [move, held, empty]
    have later :=
      step (line ++ [cell.calls.length + 1 + phases.length])
        (phases ++ [.waiting])
    rw [List.length_append, List.length_singleton, ← Nat.add_assoc] at later
    rw [List.range'_succ, pollAll, List.foldl_cons, queues]
    refine later.trans ?_
    simp [List.replicate_succ]

/-- Calls that wait for the permit keep waiting. -/
theorem pollAll_held_waiting (empty : cell.content = none) (delay count : Nat)
    (line : List Nat) :
    (cell.held source delay line (List.replicate count .waiting)).pollAll source
        (List.range' (cell.calls.length + 1) count) =
      cell.held source delay line (List.replicate count .waiting) := by
  apply pollAll_eq_self
  intro call member
  obtain ⟨index, inside, rfl⟩ := List.mem_range'.mp member
  have known :
      (cell.held source delay line (List.replicate count .waiting)).calls[
        cell.calls.length + 1 + 1 * index]? = some .waiting := by
    rw [held, List.getElem?_append_right (by omega)]
    have place : cell.calls.length + 1 + 1 * index - cell.calls.length =
        index + 1 := by omega
    rw [place, List.getElem?_cons_succ, List.getElem?_replicate_of_lt inside]
  have isEmpty :
      (cell.held source delay line (List.replicate count .waiting)).content =
        none :=
    empty
  rw [poll, known, isEmpty]
  apply if_neg
  intro holds
  have same := Option.some.inj holds
  omega

/-- Polling calls that were only started catches up with serving them in
turn. -/
theorem pollAll_started (idle : cell.Idle) (count : Nat) :
    (cell.behind [] (List.replicate count .started)).pollAll source
        (List.range' cell.calls.length count) = catchUp source count cell := by
  induction count generalizing cell with
  | zero => exact behind_nil idle [] (.inr rfl)
  | succ count step =>
    rw [List.range'_succ, pollAll, List.foldl_cons, List.replicate_succ,
      poll_behind [] .started _ (.inl ⟨rfl, rfl⟩), catchUp]
    cases waits : cell.wait source with
    | zero =>
      have later := step (idle.serve source)
      rwa [length_calls_serve] at later
    | succ delay =>
      have empty := content_eq_none_of_wait waits
      exact pollAll_held_started empty delay count [] []

theorem pollAll_waiting (idle : cell.Idle) (count : Nat) :
    (cell.behind (List.range' cell.calls.length count)
        (List.replicate count .waiting)).pollAll source
        (List.range' cell.calls.length count) = catchUp source count cell := by
  induction count generalizing cell with
  | zero => exact behind_nil idle [] (.inr rfl)
  | succ count step =>
    rw [List.range'_succ, pollAll, List.foldl_cons, List.replicate_succ,
      poll_behind _ .waiting _ (.inr ⟨rfl, rfl⟩), catchUp]
    cases waits : cell.wait source with
    | zero =>
      have later := step (idle.serve source)
      rwa [length_calls_serve] at later
    | succ delay =>
      have empty := content_eq_none_of_wait waits
      exact pollAll_held_waiting empty delay count _

/-! ## Settling -/

theorem isFinished_serve :
    (cell.serve source).isFinished cell.calls.length = true := by
  obtain ⟨result, isCalls⟩ := calls_serve source cell
  refine isFinished_iff.mpr ⟨result, ?_⟩
  rw [phase?, isCalls]
  exact phase_next cell.calls [] _

theorem calls_serveMany (source : Source μ α) (count : Nat) (cell : Cell μ α) :
    ∃ phases, (serveMany source count cell).calls = cell.calls ++ phases := by
  induction count generalizing cell with
  | zero => exact ⟨[], (List.append_nil _).symm⟩
  | succ count step =>
    obtain ⟨phases, isRest⟩ := step (cell.serve source)
    obtain ⟨result, isCalls⟩ := calls_serve source cell
    refine ⟨.finished result :: phases, ?_⟩
    rw [serveMany, isRest, isCalls, List.append_assoc]
    rfl

theorem budget_le_succ (count imports : Nat) :
    budget source count imports ≤ budget source (count + 1) imports := by
  induction count generalizing imports with
  | zero => exact Nat.zero_le _
  | succ count step => exact Nat.add_le_add_left (step (imports + 1)) _

theorem imports_serve_of_none (empty : cell.content = none) :
    (cell.serve source).imports = cell.imports + 1 := by
  rw [serve, empty]

/-- A served call uses up no more rounds than were planned for it. -/
theorem budget_serve (count : Nat) :
    budget source count (cell.serve source).imports ≤
      budget source (count + 1) cell.imports := by
  cases filled : cell.content with
  | some content =>
    rw [serve, filled]
    exact budget_le_succ count cell.imports
  | none =>
    rw [imports_serve_of_none filled]
    exact Nat.le_add_left _ _

/-- Polls of calls that have finished may be left out. -/
theorem pollAll_front {front : List Nat}
    (finished : ∀ call ∈ front, cell.isFinished call = true)
    (calls : List Nat) :
    cell.pollAll source (front ++ calls) = cell.pollAll source calls := by
  rw [pollAll_append, pollAll_eq_self fun call member =>
    poll_finished (finished call member)]

/-- A round while the first of the new calls imports. -/
theorem pollAll_held (idle : cell.Idle) (empty : cell.content = none)
    {front : List Nat}
    (finished : ∀ call ∈ front, cell.isFinished call = true)
    (count delay : Nat) :
    (cell.held source delay (List.range' (cell.calls.length + 1) count)
        (List.replicate count .waiting)).pollAll source
        (front ++ List.range' cell.calls.length (count + 1)) =
      match delay with
      | 0 => catchUp source count (cell.serve source)
      | delay + 1 =>
          cell.held source delay (List.range' (cell.calls.length + 1) count)
          (List.replicate count .waiting) := by
  rw [pollAll_front fun call member =>
    isFinished_of_calls rfl (finished call member),
    List.range'_succ, pollAll, List.foldl_cons, poll_held empty]
  cases delay with
  | zero =>
    have round := @pollAll_waiting μ α source _ (idle.serve source) count
    rwa [length_calls_serve] at round
  | succ delay => exact pollAll_held_waiting empty delay count _

/-- A pending import is polled until it ends, and then the calls behind it go
on. -/
theorem settle_held (idle : cell.Idle) (empty : cell.content = none)
    {front : List Nat} (finished : ∀ call ∈ front, cell.isFinished call = true)
    (count : Nat)
    (later : ∀ rounds, budget source count (cell.imports + 1) ≤ rounds ->
      (catchUp source count (cell.serve source)).settle source
          (front ++ List.range' cell.calls.length (count + 1)) rounds =
        serveMany source count (cell.serve source)) (delay : Nat) :
    ∀ rounds, delay + 1 + budget source count (cell.imports + 1) ≤ rounds ->
      (cell.held source delay (List.range' (cell.calls.length + 1) count)
          (List.replicate count .waiting)).settle source
          (front ++ List.range' cell.calls.length (count + 1)) rounds =
        serveMany source count (cell.serve source) := by
  have member :
      cell.calls.length ∈ front ++ List.range' cell.calls.length (count + 1) :=
    List.mem_append_right front (List.mem_range'_1.mpr (by omega))
  have unfinished (delay : Nat) (line : List Nat) (phases : List (Phase μ α)) :
      (cell.held source delay line phases).isFinished cell.calls.length =
        false :=
    isFinished_of_phase (phase_next cell.calls phases _) (by simp)
  induction delay with
  | zero =>
    intro rounds enough
    obtain ⟨rounds, rfl⟩ : ∃ fewer, rounds = fewer + 1 := ⟨rounds - 1, by omega⟩
    rw [settle_unfinished member (unfinished _ _ _),
      pollAll_held idle empty finished]
    exact later rounds (by omega)
  | succ delay step =>
    intro rounds enough
    obtain ⟨rounds, rfl⟩ : ∃ fewer, rounds = fewer + 1 := ⟨rounds - 1, by omega⟩
    rw [settle_unfinished member (unfinished _ _ _),
      pollAll_held idle empty finished]
    exact step rounds (by omega)

/-- Rounds go on until every new call has been served. -/
theorem settle_catchUp (idle : cell.Idle) {front : List Nat}
    (finished : ∀ call ∈ front, cell.isFinished call = true) (count : Nat) :
    ∀ rounds, budget source count cell.imports ≤ rounds ->
      (catchUp source count cell).settle source
          (front ++ List.range' cell.calls.length count) rounds =
        serveMany source count cell := by
  induction count generalizing cell front with
  | zero =>
    intro rounds _
    rw [List.range'_zero, List.append_nil]
    exact settle_finished finished rounds
  | succ count step =>
    have finishedServe : ∀ call ∈ front ++ [cell.calls.length],
        (cell.serve source).isFinished call = true := by
      intro call member
      obtain ⟨result, isCalls⟩ := calls_serve source cell
      rcases List.mem_append.mp member with inFront | isLast
      · exact isFinished_of_calls isCalls (finished call inFront)
      · rw [List.mem_singleton.mp isLast]
        exact isFinished_serve
    have later := step (idle.serve source) finishedServe
    rw [length_calls_serve, List.append_assoc, List.singleton_append,
      ← List.range'_succ]
      at later
    intro rounds enough
    rw [catchUp]
    cases waits : cell.wait source with
    | zero => exact later rounds (Nat.le_trans (budget_serve count) enough)
    | succ delay =>
      have empty := content_eq_none_of_wait waits
      rw [imports_serve_of_none empty] at later
      apply settle_held idle empty finished count later delay rounds
      have isDelay : (source.importer cell.imports).delay = delay + 1 := by
        rwa [wait, empty] at waits
      rw [budget, isDelay] at enough
      omega

/-! ## Joining and resolving in turn -/

/-- The rounds that are run are enough to serve every call, and one more. -/
theorem roundsFor_eq (count : Nat) :
    cell.roundsFor source count = budget source count cell.imports + 1 := by
  have sums : ∀ (count imports : Nat), ((List.range count).map fun index =>
      (source.importer (imports + index)).delay + 1).foldr (· + ·) 0 =
        budget source count imports := by
    intro count
    induction count with
    | zero => exact fun _ => rfl
    | succ count step =>
      intro imports
      rw [List.range_succ_eq_map, List.map_cons, List.map_map,
        List.foldr_cons, budget, ← step (imports + 1)]
      simp only [Function.comp_def, Nat.succ_eq_add_one, Nat.add_assoc,
        Nat.add_comm 1, Nat.add_zero]
  rw [roundsFor, sums]

theorem startMany_eq (idle : cell.Idle) (count : Nat) :
    cell.startMany count = cell.behind [] (List.replicate count .started) := by
  rw [behind_eq, ite_self, List.head?_nil, List.tail_nil, startMany]
  obtain ⟨content, holder, line, calls, imports, finishes, log⟩ := cell
  obtain ⟨rfl, rfl⟩ := idle
  rfl

/-- Calls that are started together and polled in rounds leave the cell as if
they were served in turn. -/
theorem settle_startMany (idle : cell.Idle) (count : Nat) :
    (cell.startMany count).settle source (List.range' cell.calls.length count)
        (cell.roundsFor source count) = serveMany source count cell := by
  cases count with
  | zero =>
    rw [startMany_eq idle, List.replicate_zero, behind_nil idle [] (.inr rfl)]
    exact settle_finished (List.forall_mem_nil _) _
  | succ count =>
    have member :
        cell.calls.length ∈ List.range' cell.calls.length (count + 1) :=
      List.mem_range'_1.mpr (by omega)
    have unfinished :
        (cell.startMany (count + 1)).isFinished cell.calls.length = false :=
      isFinished_of_phase
        (phase_next cell.calls (List.replicate count .started) .started)
        (by simp)
    rw [roundsFor_eq, settle_unfinished member unfinished, startMany_eq idle,
      pollAll_started idle]
    exact settle_catchUp idle (List.forall_mem_nil _) (count + 1) _
      (Nat.le_refl _)

/-- Joined calls of an idle cell are served one after the other. -/
theorem join_eq (idle : cell.Idle) (count : Nat) :
    cell.join source count =
      ((List.range' cell.calls.length count).map
        (serveMany source count cell).reply, serveMany source count cell) := by
  rw [join, ← List.range'_eq_map_range, settle_startMany idle]

/-- A call of an idle cell is served. -/
theorem resolve_eq (idle : cell.Idle) :
    cell.resolve source =
      ((cell.serve source).reply cell.calls.length, cell.serve source) := by
  have settled : _ = serveMany source 1 cell := settle_startMany idle 1
  exact congrArg (fun settled : Cell μ α =>
    (settled.reply cell.calls.length, settled)) settled

theorem reply_of_calls {after : Cell μ α} {phases : List (Phase μ α)}
    (isCalls : after.calls = cell.calls ++ phases) {call : Nat}
    (made : call < cell.calls.length) : after.reply call = cell.reply call := by
  rw [reply, isCalls, List.getElem?_append_left made, reply]

/-- Calls that are resolved in turn are served in turn. -/
theorem inTurn_resolve_eq (idle : cell.Idle) (count : Nat) :
    inTurn (Cell.resolve source) count cell =
      ((List.range' cell.calls.length count).map
        (serveMany source count cell).reply, serveMany source count cell) := by
  induction count generalizing cell with
  | zero => rfl
  | succ count step =>
    obtain ⟨phases, isCalls⟩ := calls_serveMany source count (cell.serve source)
    have sameReply :
        (serveMany source count (cell.serve source)).reply cell.calls.length =
          (cell.serve source).reply cell.calls.length :=
      reply_of_calls isCalls (by rw [length_calls_serve]; omega)
    simp only [inTurn, resolve_eq idle, step (idle.serve source),
      length_calls_serve, List.range'_succ, List.map_cons, serveMany, sameReply]

/-- Every joined call of an idle cell finishes. -/
theorem isFinished_serveMany (source : Source μ α) (count : Nat) {call : Nat}
    (isNew : call ∈ List.range' cell.calls.length count) :
    (serveMany source count cell).isFinished call = true := by
  induction count generalizing cell with
  | zero => cases isNew
  | succ count step =>
    rw [List.range'_succ, ← length_calls_serve source cell] at isNew
    rcases List.mem_cons.mp isNew with rfl | later
    · obtain ⟨phases, isCalls⟩ :=
        calls_serveMany source count (cell.serve source)
      exact isFinished_of_calls isCalls isFinished_serve
    · exact step later

/-! ## Blocked cells -/

/-- An earlier call has the permit and is not polled: no new call finishes, one
alone or several together, however often they are polled. -/
structure Blocked (source : Source μ α) (cell : Cell μ α) (caller : Nat) :
    Prop where
  pending : (cell.phase? caller).any Phase.isPending = true
  stuck : ∀ count rounds, ∀ call ∈ List.range' cell.calls.length count,
    ((cell.startMany count).settle source (List.range' cell.calls.length count)
      rounds).isFinished call = false

/-- Some calls ask for content while another call has the permit. -/
structure Taken (caller : Nat) (calls : List Nat) (cell : Cell μ α) : Prop where
  empty : cell.content = none
  taken : cell.holder = some caller
  ask : ∀ call ∈ calls, cell.phase? call = some .started ∨
    cell.phase? call = some .waiting

namespace Taken

variable {caller : Nat} {calls : List Nat}

theorem isFinished_eq (isTaken : cell.Taken caller calls) {call : Nat}
    (member : call ∈ calls) :
    cell.isFinished call = false := by
  rcases isTaken.ask call member with asks | waits
  · exact isFinished_of_phase asks (by simp)
  · exact isFinished_of_phase waits (by simp)

theorem poll (isTaken : cell.Taken caller calls) (apart : caller ∉ calls)
    {call : Nat} (member : call ∈ calls) :
    (cell.poll source call).Taken caller calls := by
  have notHolder : cell.holder ≠ some call := by
    rw [isTaken.taken]
    rintro ⟨⟩
    exact apart member
  rcases isTaken.ask call member with asks | waits
  · have queues : cell.poll source call =
        { cell.move call .waiting with line := cell.line ++ [call] } := by
      rw [phase?] at asks
      rw [Cell.poll, asks, isTaken.empty]
      simp only [isTaken.taken]
    rw [queues]
    refine ⟨isTaken.empty, isTaken.taken, fun other isOther => ?_⟩
    have phases : ∀ other, _ = if other = call then _ else cell.phase? other :=
      phase_move asks .waiting
    by_cases same : other = call
    · exact .inr ((phases other).trans (if_pos same))
    · have kept := (phases other).trans (if_neg same)
      exact (isTaken.ask other isOther).imp kept.trans kept.trans
  · have idles : cell.poll source call = cell := by
      rw [phase?] at waits
      rw [Cell.poll, waits, isTaken.empty]
      exact if_neg notHolder
    rw [idles]
    exact isTaken

/-- No polling of the calls in line takes the permit from its holder. -/
theorem pollAll (isTaken : cell.Taken caller calls) (apart : caller ∉ calls)
    {polled : List Nat} (members : ∀ call ∈ polled, call ∈ calls) :
    (cell.pollAll source polled).Taken caller calls := by
  induction polled generalizing cell with
  | nil => exact isTaken
  | cons call rest step =>
    obtain ⟨member, others⟩ := List.forall_mem_cons.mp members
    exact step (isTaken.poll apart member) others

/-- No number of rounds takes the permit from its holder. -/
theorem settle (isTaken : cell.Taken caller calls) (apart : caller ∉ calls)
    (rounds : Nat) :
    (cell.settle source calls rounds).Taken caller calls := by
  induction rounds generalizing cell with
  | zero => exact isTaken
  | succ rounds step =>
    rw [Cell.settle]
    split
    · exact isTaken
    · exact step (isTaken.pollAll apart fun _ => id)

end Taken

theorem Permit.idle (permit : cell.Permit) (free : cell.holder = none) :
    cell.Idle :=
  ⟨free, permit.free free⟩

/-- While a call holds the permit and is not polled, all later calls stay
pending. -/
theorem Permit.blocked (permit : cell.Permit) {caller : Nat}
    (taken : cell.holder = some caller) : cell.Blocked source caller := by
  have pending := permit.live (.inl taken)
  obtain ⟨before, known, _⟩ := (Option.any_eq_true _ _).mp pending
  have made : caller < cell.calls.length :=
    (List.getElem?_eq_some_iff.mp known).1
  refine ⟨pending, fun count rounds call member => ?_⟩
  have apart : caller ∉ List.range' cell.calls.length count := by
    rw [List.mem_range'_1]
    omega
  have isTaken :
      (cell.startMany count).Taken caller
        (List.range' cell.calls.length count) := by
    refine ⟨permit.content_eq_none taken, taken, fun call member => .inl ?_⟩
    obtain ⟨index, inside, rfl⟩ := List.mem_range'.mp member
    rw [phase?, startMany, List.getElem?_append_right (by omega), Nat.one_mul,
      Nat.add_sub_cancel_left, List.getElem?_replicate_of_lt inside]
  exact (isTaken.settle apart rounds).isFinished_eq member

/-- Joining agrees with resolving in turn, and all calls finish. -/
theorem join_eq_inTurn (source : Source μ α) (idle : cell.Idle) (count : Nat) :
    cell.join source count = inTurn (Cell.resolve source) count cell ∧
      ∀ reply ∈ (cell.join source count).1, ∃ result, reply = .done result := by
  refine ⟨(join_eq idle count).trans (inTurn_resolve_eq idle count).symm, ?_⟩
  intro reply member
  rw [join_eq idle] at member
  obtain ⟨call, isNew, rfl⟩ := List.mem_map.mp member
  obtain ⟨result, known⟩ :=
    isFinished_iff.mp (isFinished_serveMany source count isNew)
  exact ⟨result, reply_finished known⟩

end Turns
end Cell

/-! ## Routes and views -/

theorem Reply.isSome_forFile {α : Type} {reply : Reply α}
    (done : ∃ result, reply = .done result) (id : String) :
    (reply.forFile id).isSome = true := by
  obtain ⟨result, rfl⟩ := done
  cases result <;> rfl

/-- Routes: calls joined at an idle cell end like calls awaited in turn, and all
of them end. -/
theorem LazyRoute.join_eq_inTurn {route : LazyRoute} (idle : route.cell.Idle)
    (count : Nat) :
    route.join count = inTurn LazyRoute.resolve count route ∧
      ∀ result ∈ (route.join count).1, result.isSome = true := by
  obtain ⟨agree, done⟩ := Cell.join_eq_inTurn route.source idle count
  have renamed := inTurn_map (Cell.resolve route.source) LazyRoute.resolve
    (Reply.forFile route.id) (fun cell => { route with cell := cell })
    (fun _ => rfl) count route.cell
  constructor
  · refine Eq.trans ?_ renamed.symm
    rw [← agree]
    rfl
  · intro result member
    obtain ⟨reply, isReply, rfl⟩ := List.mem_map.mp member
    exact Reply.isSome_forFile (done reply isReply) route.id

/-- Views: calls joined at an idle cell end like calls awaited in turn, and all
of them end. -/
theorem LazyView.join_eq_inTurn {view : LazyView} (idle : view.cell.Idle)
    (count : Nat) :
    view.join count = inTurn LazyView.resolve count view ∧
      ∀ result ∈ (view.join count).1, result.isSome = true := by
  obtain ⟨agree, done⟩ := Cell.join_eq_inTurn view.source idle count
  have renamed := inTurn_map (Cell.resolve view.source) LazyView.resolve
    (Reply.forFile view.label) (fun cell => { view with cell := cell })
    (fun _ => rfl) count view.cell
  constructor
  · refine Eq.trans ?_ renamed.symm
    rw [← agree]
    rfl
  · intro result member
    obtain ⟨reply, isReply, rfl⟩ := List.mem_map.mp member
    exact Reply.isSome_forFile (done reply isReply) view.label

/-- Joining calls of a route or view that was used in any way before gives the
same results and leaves it in the same state as awaiting as many calls one after
the other; all of them finish, unless an earlier call that nobody polls keeps
the permit, and then none of them does. -/
theorem joined_eq_awaited :
    (∀ (id : String) (importer : Nat -> Import PageModule) (middleware : Middleware)
      (moves : List Move) (count : Nat),
      let route := LazyRoute.after
        { id := id, importer := importer, middleware := middleware } moves
      match route.cell.holder with
      | none =>
        route.join count = inTurn LazyRoute.resolve count route ∧
          ∀ result ∈ (route.join count).1, result.isSome = true
      | some caller => route.cell.Blocked route.source caller) ∧
    ∀ (origin : ViewSource) (moves : List Move) (count : Nat),
      let view := LazyView.after { origin := origin } moves
      match view.cell.holder with
      | none =>
        view.join count = inTurn LazyView.resolve count view ∧
          ∀ result ∈ (view.join count).1, result.isSome = true
      | some caller => view.cell.Blocked view.source caller := by
  constructor
  · intro id importer middleware moves count route
    have permit : route.cell.Permit := Cell.Permit.run _ moves
    split
    · rename_i free
      exact LazyRoute.join_eq_inTurn (permit.idle free) count
    · rename_i caller taken
      exact permit.blocked taken
  · intro origin moves count view
    have permit : view.cell.Permit := Cell.Permit.run _ moves
    split
    · rename_i free
      exact LazyView.join_eq_inTurn (permit.idle free) count
    · rename_i caller taken
      exact permit.blocked taken

/-- The second of three joined calls fills the cell for the third. -/
example :
    let exports : PageModule := { component := Component.placeholder "shop" }
    let importer : Nat -> Import PageModule :=
      Import.following (.immediate exports)
        [{ delay := 1, outcome := .error "offline" },
          { delay := 1, outcome := .ok exports }]
    let route : LazyRoute :=
      { id := "shop/page.rs", importer := importer,
        middleware := Middleware.identity }
    let joined := route.join 3
    (joined.1.map fun result => result.map Except.toBool,
      joined.2.cell.imports) = ([some false, some true, some true], 2) := by
  rfl

end Lazy
end FileRoutes
