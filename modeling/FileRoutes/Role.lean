/-!
# Roles of files

The name of a file selects what the file is for.  Pages and layouts are
rendered; the other roles supply views for special occasions.
-/

namespace FileRoutes

/-- What a route node renders. -/
inductive RouteRole
  | page
  | layout
deriving DecidableEq, Repr, Inhabited

namespace RouteRole

/-- The name of a role in the route tree. -/
def name : RouteRole -> String
  | page => "page"
  | layout => "layout"

end RouteRole

/-- What a file is for. -/
inductive FileRole
  | page
  | layout
  | loading
  | error
  | notFound
deriving DecidableEq, Repr, Inhabited

namespace FileRole

/-- The role selected by a file name without its extension. -/
def ofStem? (stem : String) : Option FileRole :=
  match stem with
  | "page" => some page
  | "layout" => some layout
  | "loading" => some loading
  | "error" => some error
  | "404" => some notFound
  | "not-found" => some notFound
  | _ => none

/-- The name of a role of files. -/
def name : FileRole -> String
  | page => "page"
  | layout => "layout"
  | loading => "loading"
  | error => "error"
  | notFound => "not-found"

/-- The role carried into the route tree, if it is rendered there. -/
def routeRole? : FileRole -> Option RouteRole
  | page => some .page
  | layout => some .layout
  | _ => none

end FileRole
end FileRoutes
