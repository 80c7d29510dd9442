import FileRoutes.ParsedFile
import FileRoutes.View

/-!
# Route nodes

A route tree is made of nodes.  A node matches one segment, or, as an index
node, the path of its parent; it may render a page, a layout or a not-found
view, and it may guard everything below it with an error view.
-/

namespace FileRoutes

/-- The path of the nodes that match whatever nothing else matches. -/
def catchAllPath : String := "*"

/-- What is needed to render a page or a layout. -/
structure RenderSpec where
  /-- The file that declares it. -/
  file : ListedFile
  /-- The view shown while the file is imported. -/
  loading : View
deriving DecidableEq, Repr, Inhabited

namespace RenderSpec

/-- The identifier of the declaring file. -/
def source (spec : RenderSpec) : String :=
  spec.file.id

end RenderSpec

/-- What a node renders. -/
inductive RouteContent
  | page (spec : RenderSpec)
  | layout (spec : RenderSpec)
  | notFound (view : View)
deriving DecidableEq, Repr, Inhabited

namespace RouteContent

/-- Content with a role. -/
def ofRole : RouteRole -> RenderSpec -> RouteContent
  | .page, spec => page spec
  | .layout, spec => layout spec

/-- The role of a page or a layout. -/
def role? : RouteContent -> Option RouteRole
  | page _ => some .page
  | layout _ => some .layout
  | notFound _ => none

/-- The render spec of content that is a page or a layout. -/
def spec? : RouteContent -> Option RenderSpec
  | page spec | layout spec => some spec
  | notFound _ => none

/-- Whether content is a page or a layout. -/
def isRenderable (content : RouteContent) : Bool :=
  content.spec?.isSome

/-- Content described for messages. -/
def describe : RouteContent -> String
  | page spec => "page " ++ spec.source
  | layout spec => "layout " ++ spec.source
  | notFound view => "not-found " ++ view.label

end RouteContent

/-- A node of a route tree. -/
structure RouteNode where
  /-- The segment that the node matches; index nodes have none. -/
  path : Option String := none
  /-- Whether the node matches the path of its parent. -/
  index : Bool := false
  /-- The kind of the segment when it binds a parameter. -/
  dynamic : Option SegmentKind := none
  content : Option RouteContent := none
  /-- The view shown when the node or a node below fails. -/
  error : Option View := none
  children : List RouteNode := []
deriving Inhabited

namespace RouteNode

/-- A bare node with a path. -/
def ofPath (path : String) : RouteNode :=
  { path := some path }

/-- The bare root. -/
def root : RouteNode :=
  ofPath rootPath

/-- An index node. -/
def indexOf (content : RouteContent) : RouteNode :=
  { index := true, content := some content }

/-- A node that matches whatever nothing else matches. -/
def catchAll (view : View) : RouteNode :=
  { path := some catchAllPath, content := some (.notFound view) }

/-- The role of the content. -/
def role? (node : RouteNode) : Option RouteRole :=
  node.content.bind RouteContent.role?

/-- What is needed to render a node that is a page or a layout. -/
def spec? (node : RouteNode) : Option RenderSpec :=
  node.content.bind RouteContent.spec?

/-- Whether a node renders a page. -/
def isPage (node : RouteNode) : Bool :=
  node.role? == some .page

/-- Whether a node renders a layout. -/
def isLayout (node : RouteNode) : Bool :=
  node.role? == some .layout

/-- Whether a node is the child of its parent that has the given path. -/
def matchesPath (path : Option String) (node : RouteNode) : Bool :=
  !node.index && node.path == path

/-- Whether a node matches whatever nothing else matches. -/
def isCatchAll (node : RouteNode) : Bool :=
  node.matchesPath (some catchAllPath)

/-- The path of a node for messages. -/
def displayPath (node : RouteNode) : String :=
  node.path.getD "(index)"

/-- The first index node among the children. -/
def indexChild? (node : RouteNode) : Option RouteNode :=
  node.children.find? RouteNode.index

/-- Whether a child is an index node. -/
def hasIndexChild (node : RouteNode) : Bool :=
  node.children.any RouteNode.index

/-- The first child with a path. -/
def child? (node : RouteNode) (path : String) : Option RouteNode :=
  node.children.find? (matchesPath (some path))

/-- The node reached by following paths. -/
def descendant? (node : RouteNode) : List String -> Option RouteNode
  | [] => some node
  | path :: rest =>
    match node.child? path with
    | some child => child.descendant? rest
    | none => none

mutual

/-- The number of nodes of a tree. -/
def countNodes : RouteNode -> Nat
  | ⟨_, _, _, _, _, children⟩ => 1 + countForest children

/-- The number of nodes of several trees. -/
def countForest : List RouteNode -> Nat
  | [] => 0
  | first :: rest => countNodes first + countForest rest

end

mutual

/-- The nodes of a tree, parents first. -/
def nodes : RouteNode -> List RouteNode
  | ⟨path, index, dynamic, content, error, children⟩ =>
    ⟨path, index, dynamic, content, error, children⟩ :: forestNodes children

/-- The nodes of several trees, parents first. -/
def forestNodes : List RouteNode -> List RouteNode
  | [] => []
  | first :: rest => nodes first ++ forestNodes rest

end

end RouteNode
end FileRoutes
