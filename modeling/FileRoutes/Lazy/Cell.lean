import FileRoutes.Event

/-!
# Cells

A cell imports its content on the first call that asks for it and keeps it.
Calls are started, polled until they finish, and may be dropped before that.
One permit lets one call import at a time; calls that find it taken wait in
line.  A call that fails or is dropped hands the permit to the next one, and a
call that succeeds fills the cell for all of them.
-/

namespace FileRoutes
namespace Lazy

/-- What one call of an importer does. -/
structure Import (μ : Type) where
  /-- How often a poll finds it pending before it completes. -/
  delay : Nat := 0
  outcome : Except String μ

namespace Import

/-- An import that completes at once. -/
def immediate {μ : Type} (content : μ) : Import μ :=
  { outcome := .ok content }

/-- An importer that follows a list, the last element of which is repeated;
for an empty list every call is the same. -/
def following {μ : Type} (otherwise : Import μ) (imports : List (Import μ))
    (call : Nat) : Import μ :=
  match imports[call]? with
  | some found => found
  | none => imports.getLast?.getD otherwise

end Import

/-- Where the content of a cell comes from. -/
structure Source (μ α : Type) where
  /-- What the importer does, call by call. -/
  importer : Nat -> Import μ
  /-- Turn what was imported into what is kept. -/
  finish : μ -> α
  /-- What is recorded whenever an import begins. -/
  announcement : List Event

/-- Where a call of a cell stands. -/
inductive Phase (μ α : Type)
  /-- Started and not polled yet. -/
  | started
  /-- In line for the permit, or holding it since the last poll. -/
  | waiting
  /-- Importing; the import is still pending for some polls. -/
  | importing (delay : Nat) (outcome : Except String μ)
  /-- Finished with the content or with the cause of a failure. -/
  | finished (result : Except String α)
  /-- Dropped before it finished. -/
  | dropped

/-- A cell with all calls made to it so far. -/
structure Cell (μ α : Type) where
  content : Option α := none
  /-- The call that holds the permit. -/
  holder : Option Nat := none
  /-- The calls that wait for the permit, the next one first. -/
  line : List Nat := []
  /-- The calls by number. -/
  calls : List (Phase μ α) := []
  /-- How often the importer was called. -/
  imports : Nat := 0
  /-- How often an import was turned into content. -/
  finishes : Nat := 0
  log : List Event := []

/-- What a poll of a call gives. -/
inductive Reply (α : Type)
  | pending
  | done (result : Except String α)

namespace Cell

variable {μ α : Type}

/-- Whether the cell has its content. -/
def isResolved (cell : Cell μ α) : Bool :=
  cell.content.isSome

/-- Start a call; its number is the number of calls before it. -/
def start (cell : Cell μ α) : Cell μ α :=
  { cell with calls := cell.calls ++ [.started] }

/-- Move a call to another phase. -/
def move (cell : Cell μ α) (call : Nat) (phase : Phase μ α) : Cell μ α :=
  { cell with calls := cell.calls.set call phase }

/-- Hand the permit to the next call in line. -/
def release (cell : Cell μ α) : Cell μ α :=
  match cell.line with
  | [] => { cell with holder := none }
  | next :: rest => { cell with holder := some next, line := rest }

/-- End the import of a call. -/
def complete (source : Source μ α) (call : Nat) (cell : Cell μ α) :
    Except String μ -> Cell μ α
  | .ok imported =>
    let content := source.finish imported
    { cell.move call (.finished (.ok content)) with
      content := some content
      holder := none
      line := []
      finishes := cell.finishes + 1 }
  | .error cause => (cell.move call (.finished (.error cause))).release

/-- Poll the import of a call. -/
def advance (source : Source μ α) (call : Nat) (delay : Nat)
    (outcome : Except String μ) (cell : Cell μ α) : Cell μ α :=
  match delay with
  | 0 => cell.complete source call outcome
  | remaining + 1 => cell.move call (.importing remaining outcome)

/-- Begin the import of the call that holds the permit, and poll it once. -/
def begin (source : Source μ α) (call : Nat) (cell : Cell μ α) : Cell μ α :=
  let attempt := source.importer cell.imports
  advance source call attempt.delay attempt.outcome
    { cell with
      holder := some call
      imports := cell.imports + 1
      log := cell.log ++ source.announcement }

/-- Poll a call. -/
def poll (source : Source μ α) (call : Nat) (cell : Cell μ α) : Cell μ α :=
  match cell.calls[call]?, cell.content with
  | some .started, some content | some .waiting, some content =>
    cell.move call (.finished (.ok content))
  | some .started, none =>
    match cell.holder with
    | none => cell.begin source call
    | some _ => { cell.move call .waiting with line := cell.line ++ [call] }
  | some .waiting, none =>
    if cell.holder = some call then cell.begin source call else cell
  | some (.importing delay outcome), _ =>
    cell.advance source call delay outcome
  | _, _ => cell

/-- Drop a call.  A call in line leaves it, and a call with the permit hands
it on. -/
def drop (call : Nat) (cell : Cell μ α) : Cell μ α :=
  match cell.calls[call]? with
  | some .started => cell.move call .dropped
  | some .waiting | some (.importing _ _) =>
    let left := { cell.move call .dropped with
      line := cell.line.filter (· ≠ call) }
    if cell.holder = some call then left.release else left
  | _ => cell

/-- What the last poll of a call gave. -/
def reply (call : Nat) (cell : Cell μ α) : Reply α :=
  match cell.calls[call]? with
  | some (.finished result) => .done result
  | _ => .pending

/-- Whether a call has finished. -/
def isFinished (call : Nat) (cell : Cell μ α) : Bool :=
  match cell.reply call with
  | .done _ => true
  | .pending => false

/-- Poll calls one after the other. -/
def pollAll (source : Source μ α) (calls : List Nat) (cell : Cell μ α) :
    Cell μ α :=
  calls.foldl (fun cell call => cell.poll source call) cell

/-- Poll calls round after round until all have finished, for at most the
given number of rounds. -/
def settle (source : Source μ α) (calls : List Nat) :
    Nat -> Cell μ α -> Cell μ α
  | 0, cell => cell
  | rounds + 1, cell =>
    if calls.all fun call => cell.isFinished call then
      cell
    else
      settle source calls rounds (cell.pollAll source calls)

/-- Rounds that suffice for a number of new calls: every call imports at most
once, each round brings an import one poll further, and one more round shows
the content to the calls in line. -/
def roundsFor (source : Source μ α) (count : Nat) (cell : Cell μ α) : Nat :=
  ((List.range count).map fun index =>
    (source.importer (cell.imports + index)).delay + 1).foldr (· + ·) 0 + 1

/-- Start several calls. -/
def startMany (count : Nat) (cell : Cell μ α) : Cell μ α :=
  { cell with calls := cell.calls ++ List.replicate count .started }

/-- Make several calls at once and poll them together, in order, until all
have finished. -/
def join (source : Source μ α) (count : Nat) (cell : Cell μ α) :
    List (Reply α) × Cell μ α :=
  let calls := (List.range count).map (cell.calls.length + ·)
  let settled :=
    settle source calls (roundsFor source count cell) (cell.startMany count)
  (calls.map fun call => settled.reply call, settled)

/-- Make one call and poll it until it has finished. -/
def resolve (source : Source μ α) (cell : Cell μ α) : Reply α × Cell μ α :=
  let call := cell.calls.length
  let settled := settle source [call] (roundsFor source 1 cell) cell.start
  (settled.reply call, settled)

/-- Make one call, poll it once, and drop it. -/
def abandon (source : Source μ α) (cell : Cell μ α) : Reply α × Cell μ α :=
  let call := cell.calls.length
  let polled := cell.start.poll source call
  (polled.reply call, polled.drop call)

end Cell
end Lazy
end FileRoutes
