import FileRoutes.Proofs.Permit
import Mathlib.Tactic.Common

/-!
# The attempts of a cell

The importer is called at most once for a call, and what becomes of the call is
decided by what that import does.  The ledger of a cell lists the calls for
which the importer was called; every change keeps it in balance.
-/

namespace FileRoutes
namespace Lazy

variable {μ α : Type}

namespace Phase

/-- Where a call can stand once the importer was called for it. -/
def Answers (finish : μ -> α) (outcome : Except String μ) : Phase μ α -> Prop
  | started | waiting => False
  | importing _ expected => expected = outcome
  | finished result => result = outcome.map finish
  | dropped => True

/-- Whether the import of a call is under way. -/
def isImporting : Phase μ α -> Bool
  | importing _ _ => true
  | started | waiting | finished _ | dropped => false

/-- Whether a call was dropped before it finished. -/
def isDropped : Phase μ α -> Bool
  | dropped => true
  | started | waiting | importing _ _ | finished _ => false

/-- Whether a call finished with the cause of a failure. -/
def hasFailed : Phase μ α -> Bool
  | finished (.error _) => true
  | started | waiting | importing _ _ | finished (.ok _) | dropped => false

/-- Whether a call finished with content. -/
def hasSucceeded : Phase μ α -> Bool
  | finished (.ok _) => true
  | started | waiting | importing _ _ | finished (.error _) | dropped => false

theorem hasSucceeded_of_isPending {phase : Phase μ α}
    (isPending : phase.isPending = true) :
    phase.hasSucceeded = false := by
  cases phase with
  | finished result => cases isPending
  | _ => rfl

end Phase

namespace Cell

/-- What holds at any time of a cell and of the calls for which the importer was
called so far. -/
structure Ledger (source : Source μ α) (tried : List Nat) (cell : Cell μ α) :
    Prop where
  permit : cell.Permit
  imports : cell.imports = tried.length
  /-- The importer is called once for a call at most. -/
  nodup : tried.Nodup
  /-- What an import does decides about the call it was made for. -/
  answers : ∀ {number call : Nat}, tried[number]? = some call ->
    ∃ phase, cell.phase? call = some phase ∧
      phase.Answers source.finish (source.importer number).outcome
  /-- A call imports and fails only by an import of its own. -/
  own : ∀ {call phase}, cell.phase? call = some phase ->
    phase.isImporting = true ∨ phase.hasFailed = true -> call ∈ tried
  /-- All calls that succeed get the content. -/
  agreed : ∀ {call content}, cell.phase? call =
    some (.finished (.ok content)) ->
    cell.content = some content
  /-- The content was imported by one call. -/
  winner : ∀ {content}, cell.content = some content -> ∃ winner, ∀ call,
    call ∈ tried ∧ cell.phase? call = some (.finished (.ok content)) ↔
      call = winner
  /-- Only the import that filled the cell was turned into content. -/
  finishes : cell.finishes = if cell.isResolved = true then 1 else 0

namespace Ledger

variable {source : Source μ α} {tried : List Nat} {cell after : Cell μ α}
  {call : Nat}

theorem fresh (source : Source μ α) : Ledger source [] {} where
  permit := Permit.fresh
  imports := rfl
  nodup := List.nodup_nil
  answers := by simp
  own := by simp [phase?]
  agreed := by simp [phase?]
  winner := by simp
  finishes := rfl

/-- No import was made for a call that has not come to its turn. -/
theorem not_mem_tried (ledger : Ledger source tried cell) {phase : Phase μ α}
    (known : cell.phase? call = some phase)
    (early : ∀ outcome, ¬ phase.Answers source.finish outcome) :
    call ∉ tried := by
  intro member
  obtain ⟨number, found⟩ := List.mem_iff_getElem?.mp member
  obtain ⟨other, otherKnown, answered⟩ := ledger.answers found
  rw [known] at otherKnown
  exact early _ (Option.some.inj otherKnown ▸ answered)

end Ledger

/-! ## Calls that pass from one phase to another -/

/-- What becomes of a call while the importer is not called and nothing is
imported. -/
inductive Passes (cell : Cell μ α) : Phase μ α -> Phase μ α -> Prop
  | queued : cell.Passes .started .waiting
  | served {before : Phase μ α} {content : α}
      (early : before = .started ∨ before = .waiting)
      (filled : cell.content = some content) :
      cell.Passes before (.finished (.ok content))
  | proceeded (delay : Nat) (outcome : Except String μ) :
      cell.Passes (.importing (delay + 1) outcome) (.importing delay outcome)
  | failed (cause : String) :
      cell.Passes (.importing 0 (.error cause)) (.finished (.error cause))
  | dropped {before : Phase μ α} (unfinished : before.hasSucceeded = false) :
      cell.Passes before .dropped

namespace Passes

variable {cell : Cell μ α} {before phase : Phase μ α}

/-- A phase that a call passes to answers with the outcome of the import, if the
one before did. -/
theorem answers (passes : cell.Passes before phase) (finish : μ -> α)
    {outcome : Except String μ} (answered : before.Answers finish outcome) :
    phase.Answers finish outcome := by
  cases passes with
  | queued => exact answered
  | served early filled => rcases early with rfl | rfl <;> exact answered.elim
  | proceeded delay outcome => exact answered
  | failed cause => exact congrArg (Except.map finish) answered
  | dropped unfinished => trivial

/-- A call that imports or fails was importing before. -/
theorem own (passes : cell.Passes before phase)
    (isOwn : phase.isImporting = true ∨ phase.hasFailed = true) :
    before.isImporting = true := by
  cases passes with
  | proceeded delay outcome => rfl
  | failed cause => rfl
  | _ => simp [Phase.isImporting, Phase.hasFailed] at isOwn

/-- A call that is served returns the content of the cell. -/
theorem agreed (passes : cell.Passes before phase) {content : α}
    (succeeds : phase = .finished (.ok content)) :
    cell.content = some content := by
  cases passes with
  | served early filled => cases succeeds; exact filled
  | _ => cases succeeds

/-- A call that succeeds without an import had not come to its turn. -/
theorem early (passes : cell.Passes before phase) {content : α}
    (succeeds : phase = .finished (.ok content)) (finish : μ -> α)
    (outcome : Except String μ) : ¬ before.Answers finish outcome := by
  cases passes with
  | served early filled => rcases early with rfl | rfl <;> exact id
  | _ => cases succeeds

theorem unfinished (passes : cell.Passes before phase) :
    before.hasSucceeded = false := by
  cases passes with
  | served early filled => rcases early with rfl | rfl <;> rfl
  | dropped unfinished => exact unfinished
  | _ => rfl

end Passes

namespace Ledger

variable {source : Source μ α} {tried : List Nat} {cell after : Cell μ α}
  {call : Nat}

/-- A call that passes from one phase to another keeps the ledger, whatever
becomes of the permit. -/
theorem pass (ledger : Ledger source tried cell) {before phase : Phase μ α}
    (known : cell.phase? call = some before) (passes : cell.Passes before phase)
    (permit : after.Permit)
    (sameCalls : after.calls = (cell.move call phase).calls)
    (sameContent : after.content = cell.content)
    (sameImports : after.imports = cell.imports)
    (sameFinishes : after.finishes = cell.finishes) :
    Ledger source tried after := by
  have phases (other : Nat) :
      after.phase? other =
        if other = call then some phase else cell.phase? other := by
    rw [phase?, sameCalls]
    exact phase_move known phase other
  refine ⟨permit, sameImports.trans ledger.imports, ledger.nodup, ?_,
    ?_, ?_, ?_, ?_⟩
  · intro number other found
    obtain ⟨old, oldKnown, answered⟩ := ledger.answers found
    rw [phases]
    split
    · rename_i same
      rw [same, known] at oldKnown
      cases oldKnown
      exact ⟨phase, rfl, passes.answers source.finish answered⟩
    · exact ⟨old, oldKnown, answered⟩
  · intro other stands isNow isOwn
    rw [phases] at isNow
    split at isNow
    · rename_i same
      cases isNow
      rw [same]
      exact ledger.own known (.inl (passes.own isOwn))
    · exact ledger.own isNow isOwn
  · intro other content isNow
    rw [phases] at isNow
    rw [sameContent]
    split at isNow
    · exact passes.agreed (Option.some.inj isNow)
    · exact ledger.agreed isNow
  · intro content filled
    obtain ⟨winner, isWinner⟩ := ledger.winner (sameContent ▸ filled)
    refine ⟨winner, fun other => ?_⟩
    rw [phases, ← isWinner]
    split
    · -- The moved call won neither before nor now.
      rename_i same
      rw [same, known]
      refine iff_of_false ?_ ?_
      · rintro ⟨member, succeeds⟩
        exact ledger.not_mem_tried known
          (passes.early (Option.some.inj succeeds) source.finish) member
      · rintro ⟨_, succeeded⟩
        have unfinished := passes.unfinished
        rw [Option.some.inj succeeded] at unfinished
        cases unfinished
    · rfl
  · rw [sameFinishes, ledger.finishes, isResolved, isResolved, sameContent]

theorem start (ledger : Ledger source tried cell) :
    Ledger source tried cell.start := by
  have phases : ∀ other, cell.start.phase? other = _ := phase_start
  have unknown : cell.phase? cell.calls.length = none := phase_length
  -- The new call was unknown before, so whatever was known is known still.
  have kept {other : Nat} {phase : Phase μ α}
      (known : cell.phase? other = some phase) :
      cell.start.phase? other = some phase := by
    rw [phases, if_neg]
    · exact known
    · rintro rfl
      rw [unknown] at known
      cases known
  have earlier {other : Nat} {phase : Phase μ α}
      (known : cell.start.phase? other = some phase)
      (isOld : phase ≠ .started) :
      cell.phase? other = some phase := by
    rw [phases] at known
    split at known
    · exact absurd (Option.some.inj known).symm isOld
    · exact known
  refine ⟨ledger.permit.start, ledger.imports, ledger.nodup, ?_, ?_, ?_, ?_,
    ledger.finishes⟩
  · intro number other found
    obtain ⟨phase, known, answered⟩ := ledger.answers found
    exact ⟨phase, kept known, answered⟩
  · intro other phase known isOwn
    refine ledger.own (earlier known ?_) isOwn
    rintro rfl
    simp [Phase.isImporting, Phase.hasFailed] at isOwn
  · intro other content known
    exact ledger.agreed (earlier known (by simp))
  · intro content filled
    obtain ⟨winner, isWinner⟩ := ledger.winner filled
    refine ⟨winner, fun other => ?_⟩
    rw [← isWinner]
    exact and_congr_right fun _ => ⟨fun known => earlier known (by simp), kept⟩

/-- A call on whose behalf the importer is called was not among those that
tried. -/
theorem enter (ledger : Ledger source tried cell)
    (admitted : cell.phase? call = some .started ∧ cell.holder = none ∨
      cell.phase? call = some .waiting ∧ cell.holder = some call)
    (empty : cell.content = none) :
    Ledger source (tried ++ [call]) (cell.enter source call) := by
  obtain ⟨before, known, early⟩ : ∃ before, cell.phase? call = some before ∧
      ∀ outcome, ¬ before.Answers source.finish outcome := by
    rcases admitted with ⟨asks, _⟩ | ⟨waits, _⟩
    · exact ⟨_, asks, fun _ => id⟩
    · exact ⟨_, waits, fun _ => id⟩
  have untried : call ∉ tried := ledger.not_mem_tried known early
  have phases : ∀ other, (cell.enter source call).phase? other = _ :=
    phase_move known (.importing (source.importer cell.imports).delay
      (source.importer cell.imports).outcome)
  refine ⟨ledger.permit.enter source admitted empty, ?_, ?_, ?_, ?_, ?_, ?_,
    ledger.finishes⟩
  · rw [List.length_append, ← ledger.imports]
    rfl
  · rw [← List.concat_eq_append]
    exact ledger.nodup.concat untried
  · intro number other found
    rw [phases]
    rw [List.getElem?_append] at found
    split at found
    · obtain ⟨phase, otherKnown, answered⟩ := ledger.answers found
      rw [if_neg]
      · exact ⟨phase, otherKnown, answered⟩
      · rintro rfl
        exact untried (List.mem_of_getElem? found)
    · obtain ⟨isLast, isCall⟩ := List.getElem?_eq_some_iff.mp found
      rw [List.length_singleton] at isLast
      rw [List.getElem_singleton] at isCall
      have isNumber : number = cell.imports := by
        rw [ledger.imports]
        omega
      rw [if_pos isCall.symm, isNumber]
      exact ⟨_, rfl, rfl⟩
  · intro other phase otherKnown isOwn
    rw [phases] at otherKnown
    split at otherKnown
    · rename_i same
      rw [same]
      exact List.mem_append_right tried (List.mem_singleton_self call)
    · exact List.mem_append_left [call] (ledger.own otherKnown isOwn)
  · intro other content otherKnown
    rw [phases] at otherKnown
    split at otherKnown
    · cases otherKnown
    · exact ledger.agreed otherKnown
  · intro content filled
    exact absurd (empty.symm.trans filled) (by simp)

/-- The import that succeeds makes its call the winner. -/
theorem succeed (ledger : Ledger source tried cell) {imported : μ}
    (imports : cell.phase? call = some (.importing 0 (.ok imported))) :
    Ledger source tried
      { cell.move call (.finished (.ok (source.finish imported))) with
        content := some (source.finish imported)
        holder := none
        line := []
        finishes := cell.finishes + 1 } := by
  have empty : cell.content = none :=
    ledger.permit.content_eq_none (ledger.permit.importing imports)
  have notBefore {other : Nat} {content : α} :
      cell.phase? other ≠ some (.finished (.ok content)) := by
    intro succeeded
    exact absurd (empty.symm.trans (ledger.agreed succeeded)) (by simp)
  have tries : call ∈ tried := ledger.own imports (.inl rfl)
  have phases : ∀ other, _ = if other = call then _ else cell.phase? other :=
    phase_move imports (.finished (.ok (source.finish imported)))
  refine ⟨ledger.permit.succeed source imports, ledger.imports, ledger.nodup,
    ?_, ?_, ?_, ?_, ?_⟩
  · intro number other found
    obtain ⟨old, oldKnown, answered⟩ := ledger.answers found
    refine (exists_congr fun _ =>
      and_congr_left' (Eq.congr_left (phases other))).mpr ?_
    split
    · rename_i same
      rw [same, imports] at oldKnown
      cases oldKnown
      exact ⟨_, rfl, congrArg (Except.map source.finish) answered⟩
    · exact ⟨old, oldKnown, answered⟩
  · intro other stands isNow isOwn
    have known := (phases other).symm.trans isNow
    split at known
    · rename_i same
      exact same ▸ tries
    · exact ledger.own known isOwn
  · intro other content isNow
    have known := (phases other).symm.trans isNow
    split at known
    · cases known
      rfl
    · exact absurd known notBefore
  · intro content filled
    cases filled
    refine ⟨call, fun other => ?_⟩
    refine (and_congr_right fun _ => Eq.congr_left (phases other)).trans ?_
    split
    · rename_i same
      exact iff_of_true ⟨same ▸ tries, rfl⟩ same
    · rename_i different
      exact iff_of_false (fun both => notBefore both.2) different
  · have before := ledger.finishes
    rw [isResolved, empty] at before
    exact congrArg (· + 1) before

/-- Every change keeps the ledger, with the calls for which it calls the
importer. -/
theorem change (ledger : Ledger source tried cell) {calls : List Nat}
    (change : Change source calls cell after) :
    Ledger source (tried ++ calls) after := by
  have permit := ledger.permit.change change
  cases change with
  | started =>
    rw [List.append_nil]
    exact ledger.start
  | queued asks empty taken =>
    rw [List.append_nil]
    exact ledger.pass asks .queued permit rfl rfl rfl rfl
  | served asks filled =>
    rw [List.append_nil]
    rcases asks with asks | waits
    · exact ledger.pass asks (.served (.inl rfl) filled) permit rfl rfl rfl rfl
    · exact ledger.pass waits (.served (.inr rfl) filled) permit rfl rfl rfl rfl
  | begun admitted empty => exact ledger.enter admitted empty
  | proceeded imports =>
    rw [List.append_nil]
    exact ledger.pass imports (.proceeded _ _) permit rfl rfl rfl rfl
  | succeeded imports =>
    rw [List.append_nil]
    exact ledger.succeed imports
  | failed imports =>
    rw [List.append_nil]
    rw [release_eq] at permit ⊢
    exact ledger.pass imports (.failed _) permit rfl rfl rfl rfl
  | cancelled asks =>
    rw [List.append_nil]
    exact ledger.pass asks (.dropped rfl) permit rfl rfl rfl rfl
  | left pending other =>
    rw [List.append_nil]
    obtain ⟨before, known, isPending⟩ := (Option.any_eq_true _ _).mp pending
    exact ledger.pass known
      (.dropped (Phase.hasSucceeded_of_isPending isPending)) permit
      rfl rfl rfl rfl
  | resigned pending holds =>
    rw [List.append_nil]
    obtain ⟨before, known, isPending⟩ := (Option.any_eq_true _ _).mp pending
    rw [release_eq] at permit ⊢
    exact ledger.pass known
      (.dropped (Phase.hasSucceeded_of_isPending isPending)) permit
      rfl rfl rfl rfl

/-- The ledger is kept over every run, with the calls for which the importer was
called. -/
theorem run (source : Source μ α) (moves : List Move) :
    Ledger source (attempts source {} moves) (Cell.run source {} moves) :=
  run_induction (Ledger source) (fun ledger isChange => ledger.change isChange)
    (fresh source) moves

end Ledger
end Cell
end Lazy
end FileRoutes
