import FileRoutes.Proofs.CellRuns

/-!
# Polling until calls have finished

A call that has finished is not changed by further polls, and polling stops when
all calls have finished.  A cell with content finishes every call that is
polled.
-/

namespace FileRoutes
namespace Lazy
namespace Cell

variable {μ α : Type} {source : Source μ α} {cell : Cell μ α} {call : Nat}

theorem isFinished_iff :
    cell.isFinished call = true ↔
      ∃ result, cell.phase? call = some (.finished result) := by
  rw [isFinished, reply, phase?]
  cases cell.calls[call]? with
  | none => simp
  | some phase => cases phase <;> simp

/-- The reply of a finished call is its result. -/
theorem reply_finished {result : Except String α}
    (finished : cell.phase? call = some (.finished result)) :
    cell.reply call = .done result := by
  rw [phase?] at finished
  rw [reply, finished]

theorem reply_move {before : Phase μ α} (known : cell.phase? call = some before)
    (result : Except String α) :
    (cell.move call (.finished result)).reply call = .done result :=
  reply_finished ((phase_move known _ call).trans (if_pos rfl))

/-- A call that has finished is not changed by polls. -/
theorem poll_finished (finished : cell.isFinished call = true) :
    cell.poll source call = cell := by
  obtain ⟨result, known⟩ := isFinished_iff.mp finished
  rw [phase?] at known
  rw [poll, known]

/-- Polling one list of calls after another polls all of them in turn. -/
theorem pollAll_append (first second : List Nat) :
    cell.pollAll source (first ++ second) =
      (cell.pollAll source first).pollAll source second :=
  List.foldl_append

/-- Polls that change nothing may be left out. -/
theorem pollAll_eq_self {calls : List Nat}
    (idle : ∀ call ∈ calls, cell.poll source call = cell) :
    cell.pollAll source calls = cell := by
  induction calls with
  | nil => rfl
  | cons first rest step =>
    obtain ⟨firstIdle, restIdle⟩ := List.forall_mem_cons.mp idle
    rw [pollAll, List.foldl_cons, firstIdle]
    exact step restIdle

/-- Polling stops when all calls have finished. -/
theorem settle_finished {calls : List Nat}
    (finished : ∀ call ∈ calls, cell.isFinished call = true) (rounds : Nat) :
    cell.settle source calls rounds = cell := by
  cases rounds with
  | zero => rfl
  | succ rounds => rw [settle, if_pos (List.all_eq_true.mpr finished)]

/-- As long as a call has not finished there is another round. -/
theorem settle_unfinished {calls : List Nat} (member : call ∈ calls)
    (unfinished : cell.isFinished call = false) (rounds : Nat) :
    cell.settle source calls (rounds + 1) =
      (cell.pollAll source calls).settle source calls rounds := by
  rw [settle, if_neg]
  intro all
  rw [List.all_eq_true.mp all call member] at unfinished
  cases unfinished

/-- A call that finds content finishes with it. -/
theorem poll_filled {content : α} (filled : cell.content = some content)
    (asks : cell.phase? call = some .started ∨
      cell.phase? call = some .waiting) :
    cell.poll source call = cell.move call (.finished (.ok content)) := by
  rw [phase?] at asks
  rw [poll, filled]
  rcases asks with asks | waits
  · rw [asks]
  · rw [waits]

theorem isFinished_of_phase {phase : Phase μ α}
    (known : cell.phase? call = some phase)
    (unfinished : ∀ result, phase ≠ .finished result) :
    cell.isFinished call = false := by
  rw [Bool.eq_false_iff, Ne, isFinished_iff]
  rintro ⟨result, finished⟩
  exact unfinished result (Option.some.inj (known.symm.trans finished))

end Cell
end Lazy
end FileRoutes
