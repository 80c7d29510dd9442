import FileRoutes.Node

/-!
# Outlines

An outline shows a route tree with labels in place of files and views.  Two
trees of the same structure have equal outlines once children are sorted.
-/

namespace FileRoutes

/-- The kind of the content of a node. -/
inductive ContentKind
  | page
  | layout
  | notFound
deriving DecidableEq, Repr, Inhabited

namespace ContentKind

/-- The name of a kind of content. -/
def name : ContentKind -> String
  | page => "page"
  | layout => "layout"
  | notFound => "not-found"

end ContentKind

/-- The kind of content. -/
def RouteContent.kind : RouteContent -> ContentKind
  | page _ => .page
  | layout _ => .layout
  | notFound _ => .notFound

/-- The label of the file or view that content comes from. -/
def RouteContent.sourceLabel : RouteContent -> String
  | page spec | layout spec => spec.source
  | notFound view => view.label

/-- The outline of a route tree. -/
structure Outline where
  path : Option String := none
  index : Bool := false
  /-- The parameter bound by the segment. -/
  parameter : Option String := none
  content : Option ContentKind := none
  source : Option String := none
  loading : Option String := none
  error : Option String := none
  children : List Outline := []
deriving Inhabited

namespace RouteNode

mutual

/-- The outline of a tree. -/
def outline : RouteNode -> Outline
  | ⟨path, index, dynamic, content, error, children⟩ =>
    { path := path
      index := index
      parameter := dynamic.bind SegmentKind.parameter?
      content := content.map RouteContent.kind
      source := content.map RouteContent.sourceLabel
      loading := (content.bind RouteContent.spec?).map fun spec =>
        spec.loading.label
      error := error.map View.label
      children := outlineForest children }

/-- The outlines of several trees. -/
def outlineForest : List RouteNode -> List Outline
  | [] => []
  | first :: rest => outline first :: outlineForest rest

end

end RouteNode

namespace Outline

mutual

/-- Whether two outlines are equal. -/
def same : Outline -> Outline -> Bool
  | ⟨path, index, parameter, content, source, loading, error, children⟩,
    ⟨path', index', parameter', content', source', loading', error', children'⟩ =>
    decide (path = path' ∧ index = index' ∧ parameter = parameter' ∧
      content = content' ∧ source = source' ∧ loading = loading' ∧
      error = error') && sameForest children children'

/-- Whether two lists of outlines are equal. -/
def sameForest : List Outline -> List Outline -> Bool
  | [], [] => true
  | first :: rest, first' :: rest' => same first first' && sameForest rest rest'
  | _, _ => false

end

mutual

theorem same_iff (left right : Outline) : same left right = true ↔ left = right := by
  obtain ⟨path, index, parameter, content, source, loading, error, children⟩ := left
  obtain ⟨path', index', parameter', content', source', loading', error', children'⟩ :=
    right
  simp only [same, Bool.and_eq_true, decide_eq_true_eq, Outline.mk.injEq,
    sameForest_iff children children', and_assoc]

theorem sameForest_iff (left right : List Outline) :
    sameForest left right = true ↔ left = right := by
  match left, right with
  | [], [] => simp [sameForest]
  | [], _ :: _ => simp [sameForest]
  | _ :: _, [] => simp [sameForest]
  | first :: rest, first' :: rest' =>
    simp only [sameForest, Bool.and_eq_true, List.cons.injEq,
      same_iff first first', sameForest_iff rest rest']

end

instance : DecidableEq Outline := fun left right =>
  decidable_of_iff (same left right = true) (same_iff left right)

/-- Compare optional texts; an absent one comes first. -/
def compareOptional : Option String -> Option String -> Ordering
  | none, none => .eq
  | none, some _ => .lt
  | some _, none => .gt
  | some left, some right => compare left right

/-- Whether a sibling may stand before another in sorted order: index nodes
come first, then paths and sources decide. -/
def inOrder (left right : Outline) : Bool :=
  ((compare (!left.index) (!right.index)).then
    ((compareOptional left.path right.path).then
      (compareOptional left.source right.source))).isLE

mutual

/-- Sort the children of every node. -/
def sorted : Outline -> Outline
  | ⟨path, index, parameter, content, source, loading, error, children⟩ =>
    { path := path
      index := index
      parameter := parameter
      content := content
      source := source
      loading := loading
      error := error
      children := (sortedForest children).mergeSort inOrder }

/-- Sort the children of every node of several outlines. -/
def sortedForest : List Outline -> List Outline
  | [] => []
  | first :: rest => sorted first :: sortedForest rest

end

/-- The first child with a path. -/
def child? (outline : Outline) (path : String) : Option Outline :=
  outline.children.find? fun child => !child.index && child.path == some path

/-- The first index child. -/
def indexChild? (outline : Outline) : Option Outline :=
  outline.children.find? Outline.index

end Outline
end FileRoutes
