import FileRoutes.Event
import FileRoutes.Node

/-!
# Error boundaries

An error view guards the node at its route.  The route has to exist in the
tree.
-/

namespace FileRoutes
namespace RouteNode

/-- Why a node has no child for a segment. -/
def missing (node : RouteNode) (segment : String) : RouteError :=
  if node.children.isEmpty then
    .missingChildren node.displayPath segment
  else
    .missingSegment node.displayPath segment

/-- The node at a route. -/
def find (node : RouteNode) : List String -> Except RouteError RouteNode
  | [] => .ok node
  | segment :: rest =>
    match node.child? segment with
    | some child => child.find rest
    | none => .error (node.missing segment)

/-- Change the node at a route. -/
def modifyAt (change : RouteNode -> RouteNode) (node : RouteNode) :
    List String -> Except RouteError RouteNode
  | [] => .ok (change node)
  | segment :: rest =>
    match node.children.dropWhile fun child =>
        !child.matchesPath (some segment) with
    | child :: after => do
      let changed ← child.modifyAt change rest
      return { node with
        children :=
          (node.children.takeWhile fun child =>
            !child.matchesPath (some segment)) ++ changed :: after }
    | [] => .error (node.missing segment)

/-- Set the error view of the node at a route. -/
def attachErrorView (node : RouteNode) (route : List String) (view : View) :
    Except RouteError RouteNode :=
  node.modifyAt (fun guarded => { guarded with error := some view }) route

end RouteNode
end FileRoutes
