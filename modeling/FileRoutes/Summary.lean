import FileRoutes.Node

/-!
# Summaries

A summary counts the nodes of a route tree by what they are.
-/

namespace FileRoutes

/-- Counts of the nodes of a tree. -/
structure Summary where
  nodes : Nat := 0
  pages : Nat := 0
  layouts : Nat := 0
  /-- Nodes that bind a parameter. -/
  dynamic : Nat := 0
  errorBoundaries : Nat := 0
  /-- Nodes that match whatever nothing else matches. -/
  catchAlls : Nat := 0
deriving DecidableEq, Repr

namespace Summary

/-- Add the counts of two summaries. -/
def add (left right : Summary) : Summary :=
  { nodes := left.nodes + right.nodes
    pages := left.pages + right.pages
    layouts := left.layouts + right.layouts
    dynamic := left.dynamic + right.dynamic
    errorBoundaries := left.errorBoundaries + right.errorBoundaries
    catchAlls := left.catchAlls + right.catchAlls }

/-- The summary of a single node, its children aside. -/
def ofNode (node : RouteNode) : Summary :=
  { nodes := 1
    pages := node.isPage.toNat
    layouts := node.isLayout.toNat
    dynamic := node.dynamic.isSome.toNat
    errorBoundaries := node.error.isSome.toNat
    catchAlls := node.isCatchAll.toNat }

mutual

/-- The summary of a tree. -/
def ofTree : RouteNode -> Summary
  | ⟨path, index, dynamic, content, error, children⟩ =>
    (ofNode ⟨path, index, dynamic, content, error, children⟩).add
      (ofForest children)

/-- The summary of several trees. -/
def ofForest : List RouteNode -> Summary
  | [] => {}
  | first :: rest => (ofTree first).add (ofForest rest)

end

end Summary
end FileRoutes
