import FileRoutes.Node

/-!
# Branches

A single file contributes a branch to the route tree: a chain of nodes, one
for each segment of its route, that ends in what the file renders.
-/

namespace FileRoutes
namespace RouteNode

/-- The node of one segment above an optional child. -/
def ofSegment (spec : RenderSpec) (segment : RouteSegment)
    (children : List RouteNode) : RouteNode :=
  { path := some segment.token
    dynamic := if segment.kind.isDynamic then some segment.kind else none
    content := segment.role.map fun role => .ofRole role spec
    children := children }

/-- The chain of nodes for segments, the first on top; no node for no
segment. -/
def chain (spec : RenderSpec) : List RouteSegment -> List RouteNode
  | [] => []
  | segment :: rest => [ofSegment spec segment (chain spec rest)]

/-- The branch of a file: the chain of its segments, or a bare root when
there are none. -/
def branch (spec : RenderSpec) : List RouteSegment -> RouteNode
  | [] => root
  | segment :: rest => ofSegment spec segment (chain spec rest)

@[simp] theorem branch_cons (spec : RenderSpec) (segment : RouteSegment)
    (rest : List RouteSegment) :
    branch spec (segment :: rest) = ofSegment spec segment (chain spec rest) := rfl

end RouteNode
end FileRoutes
