import FileRoutes.Text.Quoted

/-!
# Errors

Building a route tree fails when files contradict each other, or when they
compete for a place and the configuration forbids it.  Resolving a file fails
when its import does.
-/

namespace FileRoutes

/-- The places of a node that only one file can hold. -/
inductive ContentSlot
  | index
  | layout
deriving DecidableEq, Repr, Inhabited

namespace ContentSlot

/-- The name of a place. -/
def name : ContentSlot -> String
  | index => "index"
  | layout => "layout"

end ContentSlot

/-- Two files that compete. -/
inductive Conflict
  /-- A second file for a place that holds one already. -/
  | duplicateClaim (path : String) (slot : ContentSlot)
      (existing incoming : String)
  /-- Two dynamic segments at one level that match the same pieces. -/
  | dynamicConflict (parent existing incoming : String)
deriving DecidableEq, Repr

namespace Conflict

/-- The text of a conflict. -/
def message : Conflict -> String
  | duplicateClaim path slot existing incoming =>
    slot.name ++ " slot of route " ++ Text.quoted path ++
      " is already claimed by " ++ existing ++ ", rejecting " ++ incoming
  | dynamicConflict parent existing incoming =>
    "dynamic segment " ++ Text.quoted incoming ++ " conflicts with " ++
      Text.quoted existing ++ " under route " ++ Text.quoted parent

end Conflict

/-- Why a tree could not be built or a file not be resolved. -/
inductive RouteError
  /-- Two trees with different roots cannot be merged. -/
  | pathMismatch (target incoming : Option String)
  /-- A route leads below a node without children. -/
  | missingChildren (parent segment : String)
  /-- A route leads to a child that a node does not have. -/
  | missingSegment (parent segment : String)
  /-- Two files compete and the configuration forbids it. -/
  | conflict (reason : Conflict)
  /-- The import of a file failed. -/
  | load (id cause : String)
deriving DecidableEq, Repr

namespace RouteError

/-- The text of an error. -/
def message : RouteError -> String
  | pathMismatch target incoming =>
    "paths do not match: " ++ Text.quotedOption target ++ " and " ++
      Text.quotedOption incoming
  | missingChildren parent segment =>
    "route with path " ++ Text.quoted parent ++
      " has no children, but expected to find " ++ Text.quoted segment
  | missingSegment parent segment =>
    "segment " ++ Text.quoted segment ++
      " does not exist among the children of route with path " ++
      Text.quoted parent
  | conflict reason => reason.message
  | load id _ => "failed to load route module " ++ Text.quoted id

/-- Whether the files contradict each other, whatever the configuration. -/
def isStructural : RouteError -> Bool
  | pathMismatch _ _ | missingChildren _ _ | missingSegment _ _ => true
  | conflict _ | load _ _ => false

end RouteError
end FileRoutes
