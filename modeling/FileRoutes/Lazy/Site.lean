import FileRoutes.Compiler
import FileRoutes.Lazy.Resolution

/-!
# Sites

A site holds a lazy route for every listed page or layout and a lazy view for
every other listed file.  Visiting a node of a compiled tree resolves what the
node shows; nodes that show one file share its cell.
-/

namespace FileRoutes
namespace Lazy

/-- The lazy routes and views of all listed files. -/
structure Site where
  routes : List (ListedFile × LazyRoute) := []
  views : List (ListedFile × LazyView) := []

/-- What a node shows, as markup, with the data of its loader. -/
structure Visit where
  displayPath : String
  html : Option String := none
  data : Option (Except String Value) := none
  loading : Option String := none
  error : Option String := none

/-- Replace the value under a key, in its place. -/
def replaceUnder {κ ν : Type} [DecidableEq κ] (key : κ) (value : ν)
    (entries : List (κ × ν)) : List (κ × ν) :=
  entries.map fun entry => if entry.1 = key then (key, value) else entry

namespace Site

/-- The site of listed files with the given importers. -/
def ofFiles (importPage : ListedFile -> Nat -> Import PageModule)
    (importView : ListedFile -> Nat -> Import ViewModule)
    (middleware : Middleware) (files : RouteFiles) : Site :=
  { routes := files.pageFiles.map fun file =>
      (file,
        { id := file.id, importer := importPage file, middleware := middleware })
    views := (files.errorFiles ++ files.notFoundFiles ++ files.loadingFiles).map
      fun file => (file, { origin := .file file.id (importView file) }) }

/-- The site of listed files whose modules show their own identifiers. -/
def ofPlaceholders (middleware : Middleware) (files : RouteFiles) : Site :=
  ofFiles (fun file _ => .immediate ⟨.placeholder file.id, none, none⟩)
    (fun file _ => .immediate ⟨.placeholder file.id⟩) middleware files

/-- Resolve the route of a listed file. -/
def resolveRoute (site : Site) (file : ListedFile) :
    Option (Except RouteError ResolvedRoute) × Site :=
  match site.routes.lookup file with
  | none => (none, site)
  | some route =>
    let (result, resolved) := route.resolve
    (result, { site with routes := replaceUnder file resolved site.routes })

/-- The component of a view that comes with the library. -/
def builtinComponent : BuiltinView -> Component
  | .loading => .loading
  | .notFound => .notFound

/-- Resolve a view. -/
def resolveView (site : Site) : View ->
    Option (Except RouteError Component) × Site
  | .builtin view => (some (.ok (builtinComponent view)), site)
  | .file file =>
    match site.views.lookup file with
    | none => (none, site)
    | some view =>
      let (result, resolved) := view.resolve
      (result, { site with views := replaceUnder file resolved site.views })

/-- The markup of a view that was resolved, for no data. -/
def viewMarkup : Option (Except RouteError Component) -> Option String
  | some (.ok component) => some (component .null).render
  | _ => none

/-- Visit what a node renders. -/
def visitContent (site : Site) (visit : Visit) :
    Option RouteContent -> Visit × Site
  | none => (visit, site)
  | some (.notFound view) =>
    let (result, site) := site.resolveView view
    ({ visit with html := viewMarkup result }, site)
  | some (.page spec) | some (.layout spec) =>
    let (route, site) := site.resolveRoute spec.file
    let (loading, site) := site.resolveView spec.loading
    let visit := { visit with loading := viewMarkup loading }
    match route with
    | some (.ok resolved) =>
      ({ visit with
          html := some (resolved.component .null).render
          data := some (resolved.loader {}) }, site)
    | _ => (visit, site)

/-- Visit a node: what it renders, and its error view. -/
def visit (site : Site) (node : RouteNode) : Visit × Site :=
  let (visit, site) :=
    site.visitContent { displayPath := node.displayPath } node.content
  match node.error with
  | none => (visit, site)
  | some view =>
    let (result, site) := site.resolveView view
    ({ visit with error := viewMarkup result }, site)

/-- Visit nodes one after the other. -/
def visitAll (site : Site) : List RouteNode -> List Visit × Site
  | [] => ([], site)
  | node :: rest =>
    let (first, site) := site.visit node
    let (others, site) := site.visitAll rest
    (first :: others, site)

/-- How often the importer of each listed file was called. -/
def imports (site : Site) : List (ListedFile × Nat) :=
  (site.routes.map fun (file, route) => (file, route.cell.imports)) ++
    site.views.map fun (file, view) => (file, view.imports)

/-- How often importers were called for an identifier. -/
def importsOf (site : Site) (id : String) : Nat :=
  ((site.imports.filter fun entry => entry.1.id == id).map Prod.snd).foldr (· + ·) 0

/-- How often the middleware was called. -/
def wraps (site : Site) : Nat :=
  (site.routes.map fun (_, route) => route.cell.finishes).foldr (· + ·) 0

end Site
end Lazy
end FileRoutes
