import FileRoutes.Node
import FileRoutes.ViewIndex

/-!
# Not-found nodes

A finished tree has an answer for every URL.  Every node with children ends
with a child that matches whatever nothing else matches, and a folder without
a page of its own shows the nearest not-found view as its index.
-/

namespace FileRoutes
namespace RouteNode

/-- Whether a node has a path that can show an index: no slash and no question
mark in it. -/
def hasPlainPath (node : RouteNode) : Bool :=
  match node.path with
  | some path => !path.toList.contains '/' && !path.toList.contains '?'
  | none => false

/-- Whether a node below the root lacks an index child that it should have. -/
def needsIndex (node : RouteNode) : Bool :=
  node.hasPlainPath && !node.hasIndexChild

/-- Put a not-found index in front of the children. -/
def withNotFoundIndex (view : View) (node : RouteNode) : RouteNode :=
  { node with children := indexOf (.notFound view) :: node.children }

/-- Put a node for unmatched paths behind the children, unless there is one. -/
def withCatchAll (view : View) (node : RouteNode) : RouteNode :=
  if node.children.any isCatchAll then
    node
  else
    { node with children := node.children ++ [catchAll view] }

/-- Complete a node that has children, given its route. -/
def complete (views : NotFoundViews) (route : List String) (isRoot : Bool)
    (node : RouteNode) : RouteNode :=
  let view := views.nearest (Text.joinSlash route)
  let indexed :=
    if !isRoot && node.needsIndex then node.withNotFoundIndex view else node
  indexed.withCatchAll view

mutual

/-- Complete every node with children of a tree, the deepest first. -/
def inject (views : NotFoundViews) (route : List String) (isRoot : Bool) :
    RouteNode -> RouteNode
  | ⟨path, index, dynamic, content, error, children⟩ =>
    if children.isEmpty then
      ⟨path, index, dynamic, content, error, children⟩
    else
      complete views route isRoot
        ⟨path, index, dynamic, content, error, injectForest views route children⟩

/-- Complete the children of a node, given its route. -/
def injectForest (views : NotFoundViews) (route : List String) :
    List RouteNode -> List RouteNode
  | [] => []
  | child :: rest =>
    (if child.index || child.isCatchAll then
      child
    else
      inject views (route ++ [child.path.getD ""]) false child) ::
      injectForest views route rest

end

/-- Move the content of a root without children into an index child. -/
def openRoot (root : RouteNode) : RouteNode :=
  match root.children, root.content with
  | [], some content =>
    { root with content := none, children := [indexOf content] }
  | _, _ => root

/-- Complete a tree with not-found nodes. -/
def addNotFound (views : NotFoundViews) (root : RouteNode) : RouteNode :=
  (inject views [] true root.openRoot).withCatchAll (views.nearest "")

end RouteNode
end FileRoutes
