import FileRoutes.Command.Directive
import FileRoutes.Event

/-!
# Log filters

A filter is a list of directives.  A directive sets the level for all events
or for those whose scope starts with a given text; of several that concern an
event, the one with the longest scope decides.  Directives may also name spans
and fields: there are no spans, and the only field of an event is its message.
-/

namespace FileRoutes

/-- The scope under which directives address an event. -/
def Event.scope : Event -> String
  | .conflictKept _ => "trellis_router::merge"
  | .viewIgnored _ _ _ => "trellis_router::fallback"
  | .boundaryIgnored _ _ | .plainChain _ | .merging _ _ _ | .compiled _ _ =>
    "trellis_router::compiler"
  | .resolvingRoute _ | .resolvingView _ => "trellis_router::lazy"
  | .compilingManifest _ _ _ => "trellis::commands"

/-- How many levels of events a filter has to let through to show a level:
errors come first, then warnings and so on. -/
def Level.rank : Level -> Nat
  | .warn => 2
  | .info => 3
  | .debug => 4

namespace Command

namespace Directive

/-- Whether a directive concerns an event. -/
def concerns (directive : Directive) (event : Event) : Bool :=
  directive.span.isNone &&
    directive.field.all (fun field => field.name == "message" && !field.hasValue) &&
    match directive.scope with
    | none => true
    | some scope => scope.toList.isPrefixOf event.scope.toList

/-- How closely a directive describes its events. -/
def closeness (directive : Directive) : Nat × Nat :=
  (match directive.scope with
    | none => 0
    | some scope => Text.byteLength scope + 1,
    if directive.field.isSome then 1 else 0)

/-- Whether a directive that comes later is preferred. -/
def yieldsTo (directive later : Directive) : Bool :=
  directive.closeness.1 < later.closeness.1 ||
    (directive.closeness.1 == later.closeness.1 &&
      directive.closeness.2 ≤ later.closeness.2)

end Directive

/-- A filter of events. -/
abbrev LogFilter := List Directive

namespace LogFilter

/-- Read a filter: directives with commas between them. -/
def parse? (text : String) : Option LogFilter :=
  ((Text.pieces (· == ',') text).filter (· ≠ "")).mapM Directive.parse?

/-- The filter for a verbosity. -/
def ofVerbosity (verbosity : Nat) : LogFilter :=
  [{ level := min (verbosity + 2) Directive.everything }]

/-- The directive that decides about an event. -/
def deciding? (filter : LogFilter) (event : Event) : Option Directive :=
  (filter.filter (·.concerns event)).foldl
    (fun best directive =>
      match best with
      | none => some directive
      | some found => some (if found.yieldsTo directive then directive else found))
    none

/-- Whether a filter lets an event through. -/
def admits (filter : LogFilter) (event : Event) : Bool :=
  match filter.deciding? event with
  | none => false
  | some directive => event.level.rank ≤ directive.level

/-- The filter in force: the one that is set, when it can be read, else the
one for the verbosity. -/
def effective (setting : Option String) (verbosity : Nat) : LogFilter :=
  (setting.bind parse?).getD (ofVerbosity verbosity)

end LogFilter
end Command
end FileRoutes
