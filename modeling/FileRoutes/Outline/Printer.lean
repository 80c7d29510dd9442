import FileRoutes.Data.Printer
import FileRoutes.Outline
import FileRoutes.Text.Style

/-!
# Printed outlines

An outline is printed with one node a line, children below their parent and
indented by branches, or as a data value with only the fields that say
something.
-/

namespace FileRoutes
namespace Outline

/-- What an optional label adds to a line. -/
def optionalPart (label : Option String) (part : String -> String) : String :=
  match label with
  | some text => " " ++ part text
  | none => ""

/-- The style of a kind of content. -/
def contentStyle : ContentKind -> Text.Style
  | .page => .green
  | .layout => .cyan
  | .notFound => .yellow

/-- How a line names its node. -/
def title (colored : Bool) (outline : Outline) : String :=
  if outline.index then
    Text.paint colored [.dimmed] "(index)"
  else
    match outline.path with
    | some path => Text.paint colored [.bold] path
    | none => ""

/-- The line of a node. -/
def describe (colored : Bool) (outline : Outline) : String :=
  title colored outline ++
    optionalPart outline.parameter
      (fun parameter => Text.paint colored [.magenta] (":" ++ parameter)) ++
    (match outline.content with
    | some kind =>
      " " ++ Text.paint colored [contentStyle kind] ("[" ++ kind.name ++ "]")
    | none => "") ++
    optionalPart outline.source id ++
    optionalPart outline.loading
      (fun label => Text.paint colored [.dimmed] ("loading=" ++ label)) ++
    optionalPart outline.error
      (fun label => Text.paint colored [.red] ("error=" ++ label))

/-- The branch before a child and the indentation below it. -/
def branchCells (isLast : Bool) : String × String :=
  if isLast then ("└── ", "    ") else ("├── ", "│   ")

mutual

/-- The lines of a node after the first, below the given indentation. -/
def linesBelow (colored : Bool) (indentation : String) : Outline -> List String
  | ⟨_, _, _, _, _, _, _, children⟩ => forestLines colored indentation children

/-- The lines of siblings. -/
def forestLines (colored : Bool) (indentation : String) :
    List Outline -> List String
  | [] => []
  | child :: rest =>
    (indentation ++ (branchCells rest.isEmpty).1 ++ describe colored child) ::
      (linesBelow colored (indentation ++ (branchCells rest.isEmpty).2) child ++
        forestLines colored indentation rest)

end

/-- The lines of an outline, parents first. -/
def lines (colored : Bool) (outline : Outline) : List String :=
  describe colored outline :: linesBelow colored "" outline

/-- Print an outline, every line with a line break after it. -/
def render (colored : Bool) (outline : Outline) : String :=
  String.join ((lines colored outline).map (· ++ "\n"))

/-- A field that is only there for a label that is. -/
def optionalField (name : String) (label : Option String) :
    List (String × Value) :=
  match label with
  | some text => [(name, .text text)]
  | none => []

mutual

/-- An outline as a data value. -/
def toValue : Outline -> Value
  | ⟨path, index, parameter, content, source, loading, error, children⟩ =>
    .object
      (optionalField "path" path ++
        (if index then [("index", .boolean true)] else []) ++
        optionalField "param" parameter ++
        optionalField "content" (content.map ContentKind.name) ++
        optionalField "source" source ++ optionalField "loading" loading ++
        optionalField "error" error ++
        (if children.isEmpty then [] else [("children", .list (toValues children))]))

/-- Outlines as data values. -/
def toValues : List Outline -> List Value
  | [] => []
  | first :: rest => toValue first :: toValues rest

end

end Outline
end FileRoutes
