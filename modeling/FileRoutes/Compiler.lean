import FileRoutes.Boundary
import FileRoutes.Branch
import FileRoutes.Merge
import FileRoutes.NotFound

/-!
# Compilation

Discovered files are compiled into one route tree.  Loading and not-found
views are indexed, pages and layouts are merged in the order of their listing,
error views are attached from the root downwards, and not-found nodes are
added at the end.  Nothing is imported.
-/

namespace FileRoutes

/-- The identifiers of the discovered files. -/
structure RouteFiles where
  /-- Pages and layouts. -/
  pages : List String := []
  errors : List String := []
  notFound : List String := []
  loading : List String := []
deriving DecidableEq, Repr, Inhabited

namespace RouteFiles

/-- The number of files. -/
def size (files : RouteFiles) : Nat :=
  files.pages.length + files.errors.length + files.notFound.length +
    files.loading.length

/-- Whether there are no files. -/
def isEmpty (files : RouteFiles) : Bool :=
  files.size == 0

/-- The listed pages and layouts. -/
def pageFiles (files : RouteFiles) : List ListedFile :=
  ListedFile.ofList .pages files.pages

/-- The listed error views. -/
def errorFiles (files : RouteFiles) : List ListedFile :=
  ListedFile.ofList .errors files.errors

/-- The listed not-found views. -/
def notFoundFiles (files : RouteFiles) : List ListedFile :=
  ListedFile.ofList .notFound files.notFound

/-- The listed loading views. -/
def loadingFiles (files : RouteFiles) : List ListedFile :=
  ListedFile.ofList .loading files.loading

end RouteFiles

/-- Merge one page or layout into a tree. -/
def addPage (config : CompilerConfig) (loading : ViewIndex) (root : RouteNode)
    (file : ListedFile) : Logged RouteNode := do
  let parsed := ParsedFile.parse config.routing.rootPrefix file.id
  let view := loading.findLoading parsed
  if !parsed.isRenderable then
    Logged.record (.plainChain file.id)
  Logged.record (.merging file.id parsed.routeKey view.label)
  RouteNode.merge config.conflicts root
    (.branch ⟨file, view⟩ parsed.segments)

/-- Merge pages and layouts into a tree, one after the other. -/
def addPages (config : CompilerConfig) (loading : ViewIndex)
    (root : RouteNode) : List ListedFile -> Logged RouteNode
  | [] => return root
  | file :: rest => do
    let extended ← addPage config loading root file
    addPages config loading extended rest

/-- An error view with its parsed identifier. -/
structure Boundary where
  file : ListedFile
  parsed : ParsedFile

namespace Boundary

/-- The error view of a file. -/
def ofFile (rootPrefix : String) (file : ListedFile) : Boundary :=
  { file := file, parsed := ParsedFile.parse rootPrefix file.id }

/-- Whether an error view may be attached before another: shorter routes come
first, then lower ranks. -/
def inOrder (left right : Boundary) : Bool :=
  left.parsed.segments.length < right.parsed.segments.length ||
    (left.parsed.segments.length == right.parsed.segments.length &&
      !right.parsed.precedence.before left.parsed.precedence)

end Boundary

/-- Attach error views in order; the first one for a route wins.  The keys of
the routes that are guarded already are given. -/
def attachBoundaries (guarded : List String) (root : RouteNode) :
    List Boundary -> Logged RouteNode
  | [] => return root
  | boundary :: rest =>
    let routeKey := boundary.parsed.routeKey
    if guarded.contains routeKey then do
      Logged.record (.boundaryIgnored boundary.parsed.id routeKey)
      attachBoundaries guarded root rest
    else
      match root.attachErrorView boundary.parsed.routeTokens
          (.file boundary.file) with
      | .error error => Logged.fail error
      | .ok attached => attachBoundaries (routeKey :: guarded) attached rest

/-- Compile files into a route tree. -/
def compile (config : CompilerConfig) (files : RouteFiles) :
    Logged RouteNode := do
  let rootPrefix := config.routing.rootPrefix
  let (loadingLog, loading) := ViewIndex.byFolder rootPrefix files.loadingFiles
  let (notFoundLog, notFound) := ViewIndex.byRoute rootPrefix files.notFoundFiles
  Logged.recordAll loadingLog
  Logged.recordAll notFoundLog
  let merged ← addPages config loading .root files.pageFiles
  let boundaries :=
    (files.errorFiles.map (Boundary.ofFile rootPrefix)).mergeSort Boundary.inOrder
  let guarded ← attachBoundaries [] merged boundaries
  let finished := guarded.addNotFound ⟨notFound⟩
  Logged.record (.compiled files.size finished.countNodes)
  return finished

end FileRoutes
