import FileRoutes.Lazy.Cell
import FileRoutes.Module
import FileRoutes.View

/-!
# Lazy routes and views

A lazy route imports a page or layout module when it is first needed and wraps
its loader with a middleware; a lazy view imports a view module.  Failed
imports are reported with the identifier of the file and are not kept.
-/

namespace FileRoutes
namespace Lazy

/-- What a page or layout module amounts to once it is resolved. -/
structure ResolvedRoute where
  component : Component
  /-- The loader, wrapped by the middleware. -/
  loader : Handler
  action : Option Handler

namespace ResolvedRoute

/-- Resolve a module: a missing loader gives null, the loader is wrapped, and
the action is left as it is. -/
def ofModule (middleware : Middleware) (exports : PageModule) : ResolvedRoute :=
  { component := exports.component
    loader := middleware (exports.loader.getD Handler.null)
    action := exports.action }

end ResolvedRoute

/-- A reply with failures reported for a file. -/
def Reply.forFile {α : Type} (id : String) : Reply α ->
    Option (Except RouteError α)
  | .pending => none
  | .done (.ok content) => some (.ok content)
  | .done (.error cause) => some (.error (.load id cause))

/-- How a lazy route or view shows itself to developers. -/
def debugText (name label : String) (isResolved : Bool) : String :=
  name ++ " \x7b id: " ++ Text.quoted label ++ ", resolved: " ++
    (if isResolved then "true" else "false") ++ " \x7d"

/-- A page or layout that is imported when it is first needed. -/
structure LazyRoute where
  id : String
  importer : Nat -> Import PageModule
  middleware : Middleware
  cell : Cell PageModule ResolvedRoute := {}

namespace LazyRoute

/-- Where the cell of a route gets its content from. -/
def source (route : LazyRoute) : Source PageModule ResolvedRoute :=
  { importer := route.importer
    finish := ResolvedRoute.ofModule route.middleware
    announcement := [.resolvingRoute route.id] }

/-- How a route shows itself to developers. -/
def debug (route : LazyRoute) : String :=
  debugText "LazyRoute" route.id route.cell.isResolved

/-- Resolve a route. -/
def resolve (route : LazyRoute) :
    Option (Except RouteError ResolvedRoute) × LazyRoute :=
  let (reply, cell) := route.cell.resolve route.source
  (reply.forFile route.id, { route with cell := cell })

/-- Resolve a route several times at once. -/
def join (route : LazyRoute) (count : Nat) :
    List (Option (Except RouteError ResolvedRoute)) × LazyRoute :=
  let (replies, cell) := route.cell.join route.source count
  (replies.map (Reply.forFile route.id), { route with cell := cell })

/-- Begin to resolve a route and give up after one poll. -/
def abandon (route : LazyRoute) :
    Option (Except RouteError ResolvedRoute) × LazyRoute :=
  let (reply, cell) := route.cell.abandon route.source
  (reply.forFile route.id, { route with cell := cell })

end LazyRoute

/-- Where a view comes from. -/
inductive ViewSource
  | file (id : String) (importer : Nat -> Import ViewModule)
  | builtin (component : Component)

/-- A view that is imported when it is first needed. -/
structure LazyView where
  origin : ViewSource
  cell : Cell ViewModule Component := {}

namespace LazyView

/-- The identifier of the file of a view. -/
def id? (view : LazyView) : Option String :=
  match view.origin with
  | .file id _ => some id
  | .builtin _ => none

/-- The identifier of a view or the label of those without file. -/
def label (view : LazyView) : String :=
  view.id?.getD builtinLabel

/-- Where the cell of a view gets its content from. -/
def source (view : LazyView) : Source ViewModule Component :=
  match view.origin with
  | .file id importer =>
    { importer := importer
      finish := ViewModule.component
      announcement := [.resolvingView id] }
  | .builtin component =>
    { importer := fun _ => .immediate ⟨component⟩
      finish := ViewModule.component
      announcement := [] }

/-- How often the importer of a view was called; a view without file has
none. -/
def imports (view : LazyView) : Nat :=
  match view.origin with
  | .file _ _ => view.cell.imports
  | .builtin _ => 0

/-- How a view shows itself to developers. -/
def debug (view : LazyView) : String :=
  debugText "LazyView" view.label view.cell.isResolved

/-- Resolve a view. -/
def resolve (view : LazyView) :
    Option (Except RouteError Component) × LazyView :=
  let (reply, cell) := view.cell.resolve view.source
  (reply.forFile view.label, { view with cell := cell })

/-- Resolve a view several times at once. -/
def join (view : LazyView) (count : Nat) :
    List (Option (Except RouteError Component)) × LazyView :=
  let (replies, cell) := view.cell.join view.source count
  (replies.map (Reply.forFile view.label), { view with cell := cell })

/-- Begin to resolve a view and give up after one poll. -/
def abandon (view : LazyView) :
    Option (Except RouteError Component) × LazyView :=
  let (reply, cell) := view.cell.abandon view.source
  (reply.forFile view.label, { view with cell := cell })

end LazyView
end Lazy
end FileRoutes
