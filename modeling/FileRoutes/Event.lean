import FileRoutes.Error

/-!
# Events

Whatever is worth telling about a compilation or a resolution is recorded as
an event with a level and a text.
-/

namespace FileRoutes

/-- How important an event is. -/
inductive Level
  | debug
  | info
  | warn
deriving DecidableEq, Repr, Inhabited

namespace Level

/-- The name of a level. -/
def name : Level -> String
  | debug => "DEBUG"
  | info => "INFO"
  | warn => "WARN"

end Level

/-- Something worth telling. -/
inductive Event
  /-- Two files compete; what was registered first is kept. -/
  | conflictKept (conflict : Conflict)
  /-- A view lost the competition for a key. -/
  | viewIgnored (ignored kept key : String)
  /-- An error view lost the competition for a route. -/
  | boundaryIgnored (id routeKey : String)
  /-- A file without page or layout only contributes its folders. -/
  | plainChain (id : String)
  /-- A file is merged into the tree. -/
  | merging (id routeKey loading : String)
  /-- A tree is complete. -/
  | compiled (files nodes : Nat)
  /-- A page or layout is imported. -/
  | resolvingRoute (id : String)
  /-- A view is imported. -/
  | resolvingView (id : String)
  /-- A manifest is about to be compiled. -/
  | compilingManifest (files : Nat) (path rootPrefix : String)
deriving DecidableEq, Repr

namespace Event

/-- The level of an event. -/
def level : Event -> Level
  | conflictKept _ | viewIgnored _ _ _ | boundaryIgnored _ _ => .warn
  | compiled _ _ | compilingManifest _ _ _ => .info
  | plainChain _ | merging _ _ _ | resolvingRoute _ | resolvingView _ => .debug

/-- The text of an event. -/
def message : Event -> String
  | conflictKept conflict => conflict.message ++ " (first registered wins)"
  | viewIgnored ignored kept key =>
    "Ignoring " ++ ignored ++ " - " ++ kept ++ " takes precedence for " ++
      Text.quoted key
  | boundaryIgnored id routeKey =>
    "Ignoring " ++ id ++ " - route /" ++ routeKey ++
      " already has an error view"
  | plainChain id =>
    id ++ " declares no page or layout, adding it as a plain folder chain"
  | merging id routeKey loading =>
    "Merging " ++ id ++ " at /" ++ routeKey ++ " (loading: " ++ loading ++ ")"
  | compiled files nodes =>
    "Compiled " ++ toString files ++ " route files into " ++ toString nodes ++
      " route nodes"
  | resolvingRoute id => "Resolving route module " ++ id
  | resolvingView id => "Resolving view module " ++ id
  | compilingManifest files path rootPrefix =>
    "Compiling " ++ toString files ++ " route files from " ++
      Text.quoted path ++ " (root prefix " ++ Text.quoted rootPrefix ++ ")"

/-- An event as a line: its level and its text. -/
def line (event : Event) : String :=
  event.level.name ++ " " ++ event.message

end Event

/-- A computation that records events and may fail.  What was recorded before
a failure is kept. -/
structure Logged (α : Type) where
  log : List Event
  outcome : Except RouteError α

namespace Logged

/-- Record one event. -/
def record (event : Event) : Logged Unit :=
  { log := [event], outcome := .ok () }

/-- Record several events. -/
def recordAll (events : List Event) : Logged Unit :=
  { log := events, outcome := .ok () }

/-- Fail. -/
def fail {α : Type} (error : RouteError) : Logged α :=
  { log := [], outcome := .error error }

/-- Continue with the value of a computation, unless it failed. -/
def andThen {α β : Type} (first : Logged α) (next : α -> Logged β) : Logged β :=
  match first.outcome with
  | .error error => { log := first.log, outcome := .error error }
  | .ok value =>
    { log := first.log ++ (next value).log, outcome := (next value).outcome }

instance : Monad Logged where
  pure value := { log := [], outcome := .ok value }
  bind := andThen

@[simp] theorem log_pure {α : Type} (value : α) :
    (pure value : Logged α).log = [] := rfl

@[simp] theorem outcome_pure {α : Type} (value : α) :
    (pure value : Logged α).outcome = .ok value := rfl

theorem bind_of_ok {α β : Type} {first : Logged α} {value : α}
    (next : α -> Logged β) (succeeds : first.outcome = .ok value) :
    first >>= next =
      { log := first.log ++ (next value).log, outcome := (next value).outcome } := by
  simp [bind, andThen, succeeds]

theorem bind_of_error {α β : Type} {first : Logged α} {error : RouteError}
    (next : α -> Logged β) (fails : first.outcome = .error error) :
    first >>= next = { log := first.log, outcome := .error error } := by
  simp [bind, andThen, fails]

end Logged
end FileRoutes
