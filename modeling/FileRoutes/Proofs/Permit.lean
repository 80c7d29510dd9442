import FileRoutes.Proofs.CellRuns
import Mathlib.Data.List.Nodup

/-!
# The permit of a cell

At most one call holds the permit, and only that call imports.  The calls in
line are waiting, each is in line once, and the permit is free only when nobody
waits for it.  A cell with content has no use for the permit.
-/

namespace FileRoutes
namespace Lazy
namespace Cell

variable {μ α : Type}

/-- What holds of the permit of a cell at any time. -/
structure Permit (cell : Cell μ α) : Prop where
  /-- The permit is free only when nobody waits for it. -/
  free : cell.holder = none -> cell.line = []
  /-- When there is content the permit is free. -/
  spent : cell.content ≠ none -> cell.holder = none
  /-- A call that imports holds the permit. -/
  importing : ∀ {call delay outcome},
    cell.phase? call = some (.importing delay outcome) ->
      cell.holder = some call
  /-- The calls with the permit and in line are neither finished nor dropped. -/
  live : ∀ {call}, cell.holder = some call ∨ call ∈ cell.line ->
    (cell.phase? call).any Phase.isPending = true
  /-- No call is in line twice, and the one with the permit is not in line. -/
  nodup : (cell.holder.toList ++ cell.line).Nodup

namespace Permit

variable {cell after : Cell μ α} {call : Nat}

theorem fresh : ({} : Cell μ α).Permit where
  free := fun _ => rfl
  spent := fun _ => rfl
  importing := by simp [phase?]
  live := by simp
  nodup := List.nodup_nil

/-- A call that is not pending neither holds the permit nor waits for it. -/
theorem absent (permit : cell.Permit)
    (idle : (cell.phase? call).any Phase.isPending = false) :
    cell.holder ≠ some call ∧ call ∉ cell.line := by
  constructor
  · intro holds
    rw [permit.live (.inl holds)] at idle
    cases idle
  · intro inLine
    rw [permit.live (.inr inLine)] at idle
    cases idle

theorem content_eq_none (permit : cell.Permit)
    (holds : cell.holder = some call) :
    cell.content = none := by
  by_contra filled
  rw [permit.spent filled] at holds
  cases holds

/-- In a cell with content nobody imports. -/
theorem not_importing (permit : cell.Permit) (free : cell.holder = none)
    (call delay : Nat)
    (outcome : Except String μ) :
    cell.phase? call ≠ some (.importing delay outcome) := by
  intro imports
  rw [permit.importing imports] at free
  cases free

/-- A permit that nobody holds, waits for or imports with. -/
theorem vacant (free : cell.holder = none) (alone : cell.line = [])
    (quiet : ∀ call delay outcome, cell.phase? call ≠
      some (.importing delay outcome)) :
    cell.Permit where
  free := fun _ => alone
  spent := fun _ => free
  importing := fun imports => absurd imports (quiet _ _ _)
  live := by simp [free, alone]
  nodup := by simp [free, alone]

theorem start (permit : cell.Permit) : cell.start.Permit := by
  have idle : (cell.phase? cell.calls.length).any Phase.isPending = false := by
    rw [phase_length]
    rfl
  obtain ⟨notHolder, notInLine⟩ := permit.absent idle
  refine ⟨permit.free, permit.spent, ?_, ?_, permit.nodup⟩
  · intro call delay outcome imports
    rw [phase_start] at imports
    split at imports
    · cases imports
    · exact permit.importing imports
  · intro call member
    rw [phase_start, if_neg]
    · exact permit.live member
    · rintro rfl
      exact member.elim notHolder notInLine

/-- A call may line up while another one holds the permit. -/
theorem queue (permit : cell.Permit) (asks : cell.phase? call = some .started)
    (empty : cell.content = none) (taken : cell.holder ≠ none) :
    Permit { cell.move call .waiting with line := cell.line ++ [call] } := by
  have idle : (cell.phase? call).any Phase.isPending = false := by
    rw [asks]; rfl
  obtain ⟨notHolder, notInLine⟩ := permit.absent idle
  have phases := phase_move asks .waiting
  refine ⟨fun free => absurd free taken, fun filled => absurd empty filled, ?_,
    ?_, ?_⟩
  · intro other delay outcome imports
    have before := (phases other).symm.trans imports
    split at before
    · cases before
    · exact permit.importing before
  · intro other member
    refine (congrArg _ (phases other)).trans ?_
    split
    · rfl
    · rename_i different
      apply permit.live
      refine member.imp_right fun inLine => ?_
      exact (List.mem_append.mp inLine).resolve_right
        (mt List.mem_singleton.mp different)
  · rw [← List.append_assoc]
    refine permit.nodup.append (List.nodup_singleton call) ?_
    rw [List.disjoint_singleton, List.mem_append, Option.mem_toList]
    exact not_or.mpr ⟨notHolder, notInLine⟩

theorem serve (permit : cell.Permit) {content : α}
    (asks : cell.phase? call = some .started ∨ cell.phase? call = some .waiting)
    (filled : cell.content = some content) :
    (cell.move call (.finished (.ok content))).Permit := by
  have free := permit.spent (by simp [filled])
  have freeAfter : (cell.move call (.finished (.ok content))).holder = none :=
    free
  apply vacant freeAfter (permit.free free)
  intro other delay outcome
  obtain ⟨before, known⟩ : ∃ before, cell.phase? call = some before :=
    asks.elim (fun known => ⟨_, known⟩) (fun known => ⟨_, known⟩)
  rw [phase_move known]
  split
  · exact fun imports => nomatch imports
  · exact permit.not_importing free other delay outcome

/-- A call that is admitted takes the permit and imports. -/
theorem enter (permit : cell.Permit) (source : Source μ α)
    (admitted : cell.phase? call = some .started ∧ cell.holder = none ∨
      cell.phase? call = some .waiting ∧ cell.holder = some call)
    (empty : cell.content = none) : (cell.enter source call).Permit := by
  obtain ⟨before, known⟩ : ∃ before, cell.phase? call = some before :=
    admitted.elim (fun asks => ⟨_, asks.1⟩) (fun waits => ⟨_, waits.1⟩)
  have phases :=
    phase_move known (.importing (source.importer cell.imports).delay
      (source.importer cell.imports).outcome)
  -- Whoever held the permit before was the admitted call.
  have onlyHolder {other : Nat} (holds : cell.holder = some other) :
      other = call := by
    rcases admitted with ⟨_, free⟩ | ⟨_, held⟩
    · rw [free] at holds
      cases holds
    · exact Option.some.inj (holds.symm.trans held)
  have noDuplicates : (call :: cell.line).Nodup := by
    rcases admitted with ⟨_, free⟩ | ⟨_, held⟩
    · rw [permit.free free]
      exact List.nodup_singleton call
    · have nodup := permit.nodup
      rwa [held] at nodup
  refine ⟨fun free => (nomatch free), fun filled => absurd empty filled, ?_, ?_,
    noDuplicates⟩
  · intro other delay outcome imports
    have before := (phases other).symm.trans imports
    split at before
    · rename_i same
      exact congrArg some same.symm
    · exact congrArg some (onlyHolder (permit.importing before)).symm
  · intro other member
    refine (congrArg _ (phases other)).trans ?_
    split
    · rfl
    · rename_i different
      apply permit.live
      refine .inr (member.resolve_left fun holds => different ?_)
      exact (Option.some.inj holds).symm

theorem proceed (permit : cell.Permit) {delay : Nat} {outcome : Except String μ}
    (imports : cell.phase? call = some (.importing (delay + 1) outcome)) :
    (cell.move call (.importing delay outcome)).Permit := by
  have phases := phase_move imports (.importing delay outcome)
  have holds := permit.importing imports
  refine ⟨permit.free, permit.spent, ?_, ?_, permit.nodup⟩
  · intro other otherDelay otherOutcome otherImports
    rw [phases] at otherImports
    split at otherImports
    · rename_i same
      exact same ▸ holds
    · exact permit.importing otherImports
  · intro other member
    rw [phases]
    split
    · rfl
    · exact permit.live member

/-- An import that succeeds fills the cell and gives the permit up. -/
theorem succeed (permit : cell.Permit) (source : Source μ α) {imported : μ}
    (imports : cell.phase? call = some (.importing 0 (.ok imported))) :
    Permit
      { cell.move call (.finished (.ok (source.finish imported))) with
        content := some (source.finish imported)
        holder := none
        line := []
        finishes := cell.finishes + 1 } := by
  have phases := phase_move imports (.finished (.ok (source.finish imported)))
  have holds := permit.importing imports
  apply vacant rfl rfl
  intro other delay outcome otherImports
  have before := (phases other).symm.trans otherImports
  split at before
  · cases before
  · rename_i different
    exact different
      (Option.some.inj ((permit.importing before).symm.trans holds))

/-- The permit goes to the next call in line when the call that holds it
ends. -/
theorem handOn (permit : cell.Permit) (holds : cell.holder = some call)
    {phase : Phase μ α} (ended : phase.isPending = false) :
    (cell.move call phase).release.Permit := by
  obtain ⟨before, known⟩ : ∃ before, cell.phase? call = some before := by
    have live := permit.live (.inl holds)
    exact (Option.any_eq_true _ _).mp live |>.imp fun _ both => both.1
  have phases := phase_move known phase
  have noDuplicates : call ∉ cell.line ∧ cell.line.Nodup := by
    have nodup := permit.nodup
    rw [holds] at nodup
    exact List.nodup_cons.mp nodup
  have empty := permit.content_eq_none holds
  rw [release_eq]
  refine ⟨?_, fun filled => absurd empty filled, ?_, ?_, ?_⟩
  · intro free
    have noLine : cell.line = [] := List.head?_eq_none_iff.mp free
    exact congrArg List.tail noLine
  · intro other delay outcome imports
    have otherBefore := (phases other).symm.trans imports
    split at otherBefore
    · cases otherBefore
      cases ended
    · rename_i different
      have otherHolds := permit.importing otherBefore
      exact absurd (Option.some.inj (otherHolds.symm.trans holds)) different
  · intro other member
    have inLine : other ∈ cell.line :=
      member.elim List.mem_of_head? List.mem_of_mem_tail
    have different : other ≠ call := by
      rintro rfl
      exact noDuplicates.1 inLine
    refine (congrArg _ (phases other)).trans ?_
    rw [if_neg different]
    exact permit.live (.inr inLine)
  · have whole : cell.line.head?.toList ++ cell.line.tail = cell.line := by
      cases cell.line <;> rfl
    exact (congrArg List.Nodup whole).mpr noDuplicates.2

/-- A call that is dropped before its first poll has no permit to give up. -/
theorem cancel (permit : cell.Permit)
    (asks : cell.phase? call = some .started) :
    (cell.move call .dropped).Permit := by
  have phases := phase_move asks .dropped
  have idle : (cell.phase? call).any Phase.isPending = false := by
    rw [asks]; rfl
  obtain ⟨notHolder, notInLine⟩ := permit.absent idle
  refine ⟨permit.free, permit.spent, ?_, ?_, permit.nodup⟩
  · intro other delay outcome imports
    rw [phases] at imports
    split at imports
    · cases imports
    · exact permit.importing imports
  · intro other member
    rw [phases, if_neg]
    · exact permit.live member
    · rintro rfl
      exact member.elim notHolder notInLine

theorem leave (permit : cell.Permit)
    (pending : (cell.phase? call).any Phase.isPending = true)
    (notHolder : cell.holder ≠ some call) : (cell.leave call).Permit := by
  obtain ⟨before, known, _⟩ := (Option.any_eq_true _ _).mp pending
  have phases := phase_move known .dropped
  refine ⟨?_, permit.spent, ?_, ?_, ?_⟩
  · intro free
    exact congrArg (List.filter (· ≠ call)) (permit.free free)
  · intro other delay outcome imports
    have otherBefore := (phases other).symm.trans imports
    split at otherBefore
    · cases otherBefore
    · exact permit.importing otherBefore
  · intro other member
    have kept : (cell.holder = some other ∨ other ∈ cell.line) ∧
        other ≠ call := by
      rcases member with holds | inLine
      · refine ⟨.inl holds, ?_⟩
        rintro rfl
        exact notHolder holds
      · have both := List.mem_filter.mp inLine
        exact ⟨.inr both.1, by simpa using both.2⟩
    refine (congrArg _ (phases other)).trans ?_
    rw [if_neg kept.2]
    exact permit.live kept.1
  · exact permit.nodup.sublist
      (List.filter_sublist.append_left cell.holder.toList)

/-- A call that holds the permit is not in line, so it only has to hand the
permit on. -/
theorem leave_eq_move (permit : cell.Permit) (holds : cell.holder = some call) :
    cell.leave call = cell.move call .dropped := by
  have notInLine : call ∉ cell.line := by
    have nodup := permit.nodup
    rw [holds] at nodup
    exact (List.nodup_cons.mp nodup).1
  have sameLine : cell.line.filter (· ≠ call) = cell.line := by
    rw [List.filter_eq_self]
    intro other inLine
    simpa using fun same : other = call => notInLine (same ▸ inLine)
  rw [Cell.leave, sameLine]
  rfl

/-- Every change keeps the permit in order. -/
theorem change (permit : cell.Permit) {source : Source μ α} {calls : List Nat}
    (change : Change source calls cell after) : after.Permit := by
  cases change with
  | started => exact permit.start
  | queued asks empty taken => exact permit.queue asks empty taken
  | served asks filled => exact permit.serve asks filled
  | begun admitted empty => exact permit.enter source admitted empty
  | proceeded imports => exact permit.proceed imports
  | succeeded imports => exact permit.succeed source imports
  | failed imports => exact permit.handOn (permit.importing imports) rfl
  | cancelled asks => exact permit.cancel asks
  | left pending notHolder => exact permit.leave pending notHolder
  | resigned pending holds =>
    rw [permit.leave_eq_move holds]
    exact permit.handOn holds rfl

/-- The permit is in order after every run. -/
theorem run (source : Source μ α) (moves : List Move) :
    (Cell.run source {} moves).Permit :=
  run_induction (fun _ cell => cell.Permit)
    (fun permit isChange => permit.change isChange) fresh moves

end Permit
end Cell
end Lazy
end FileRoutes
