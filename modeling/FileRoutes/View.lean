/-!
# Views

A view is shown while a page loads, when a page fails or when nothing matches.
It is imported from a file or comes with the library.  Files are told apart by
the place at which they were listed, so that nodes showing one file share one
import.
-/

namespace FileRoutes

/-- The lists in which files are discovered. -/
inductive FileList
  | pages
  | errors
  | notFound
  | loading
deriving DecidableEq, Repr, Inhabited

/-- A file at its place in a list. -/
structure ListedFile where
  id : String
  list : FileList
  position : Nat
deriving DecidableEq, Repr, Inhabited

namespace ListedFile

/-- The files of one list, each with its place. -/
def ofList (list : FileList) (ids : List String) : List ListedFile :=
  ids.zipIdx.map fun (id, position) =>
    { id := id, list := list, position := position }

@[simp] theorem length_ofList (list : FileList) (ids : List String) :
    (ofList list ids).length = ids.length := by
  simp [ofList]

/-- The only file of a list. -/
def single (list : FileList) (id : String) : ListedFile :=
  { id := id, list := list, position := 0 }

end ListedFile

/-- The views that come with the library. -/
inductive BuiltinView
  | loading
  | notFound
deriving DecidableEq, Repr, Inhabited

/-- The label of every view that comes with the library. -/
def builtinLabel : String := "<builtin>"

/-- A view. -/
inductive View
  | file (file : ListedFile)
  | builtin (view : BuiltinView)
deriving DecidableEq, Repr, Inhabited

namespace View

/-- The identifier of the file of a view. -/
def id? : View -> Option String
  | file listed => some listed.id
  | builtin _ => none

/-- The identifier of a view or the label of those without file. -/
def label (view : View) : String :=
  view.id?.getD builtinLabel

@[simp] theorem label_file (listed : ListedFile) :
    (file listed).label = listed.id := rfl

end View
end FileRoutes
