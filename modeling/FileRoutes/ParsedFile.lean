import FileRoutes.Identifier
import FileRoutes.Key
import FileRoutes.Role
import FileRoutes.Segment

/-!
# Parsed identifiers

An identifier names the folders that hold a file and, by the name of the file,
its role.  The folders that are not groups are the segments of the route, and
the last segment carries the role.
-/

namespace FileRoutes

/-- The path of the root of a route tree. -/
def rootPath : String := "/"

/-- One segment of a route. -/
structure RouteSegment where
  token : String
  kind : SegmentKind
  /-- The role of the file that ends here. -/
  role : Option RouteRole := none
deriving DecidableEq, Repr

namespace RouteSegment

/-- The segment of the root. -/
def root : RouteSegment :=
  { token := rootPath, kind := .static }

/-- The segment of a folder. -/
def folder (token : String) : RouteSegment :=
  { token := token, kind := SegmentKind.classify token }

/-- Give a role to the last segment. -/
def endWith (role : Option RouteRole) : List RouteSegment -> List RouteSegment
  | [] => []
  | [last] => [{ last with role := role }]
  | segment :: next :: rest => segment :: endWith role (next :: rest)

end RouteSegment

/-- The rank of a file among those that compete for one key: files in fewer
groups come first, then the lesser canonical identifier. -/
structure Precedence where
  groupDepth : Nat
  identifier : String
deriving DecidableEq, Repr

namespace Precedence

/-- Whether a rank comes strictly before another. -/
def before (left right : Precedence) : Bool :=
  left.groupDepth < right.groupDepth ||
    (left.groupDepth == right.groupDepth && left.identifier < right.identifier)

end Precedence

/-- An identifier, taken apart. -/
structure ParsedFile where
  /-- The identifier as discovered. -/
  id : String
  /-- The folders below the root prefix, groups included. -/
  folders : List String
  /-- The role selected by the file name. -/
  role : Option FileRole
  /-- The segments of the route, from the root. -/
  segments : List RouteSegment
deriving DecidableEq, Repr

namespace ParsedFile

/-- A file name without its last extension.  A name that starts with its only
dot is kept. -/
def stem (name : String) : String :=
  match Text.splitLast '.' name.toList with
  | some (before, _) => if before.isEmpty then name else String.ofList before
  | none => name

/-- The nonempty names of an identifier below a root prefix. -/
def relativeNames (rootPrefix id : String) : List String :=
  (Text.pieces Text.isSlash
    (Identifier.stripRoot (Identifier.normalize rootPrefix)
      (Identifier.normalize id))).filter (· ≠ "")

/-- The segments of a file in the given folders. -/
def segmentsOf (folders : List String) (role : Option FileRole) :
    List RouteSegment :=
  RouteSegment.endWith (role.bind FileRole.routeRole?)
    (.root :: (folders.filter fun folder => !isGroup folder).map .folder)

/-- Take an identifier apart.  When the last name selects a role it is the
file, otherwise it is a folder like the others. -/
def parse (rootPrefix id : String) : ParsedFile :=
  let names := relativeNames rootPrefix id
  let role := names.getLast?.bind fun name => FileRole.ofStem? (stem name)
  let folders := if role.isSome then names.dropLast else names
  { id := id
    folders := folders
    role := role
    segments := segmentsOf folders role }

/-- The key of the folder that holds the file. -/
def folderKey (file : ParsedFile) : String :=
  Text.joinSlash file.folders

/-- The route below the root. -/
def routeTokens (file : ParsedFile) : List String :=
  file.segments.tail.map RouteSegment.token

/-- The key of the route. -/
def routeKey (file : ParsedFile) : String :=
  Text.joinSlash file.routeTokens

/-- Whether the file is a page or a layout. -/
def isRenderable (file : ParsedFile) : Bool :=
  (file.role.bind FileRole.routeRole?).isSome

/-- The number of groups on the way to the file. -/
def groupDepth (file : ParsedFile) : Nat :=
  (file.folders.filter isGroup).length

/-- The rank of the file among those that compete for one key. -/
def precedence (file : ParsedFile) : Precedence :=
  { groupDepth := file.groupDepth
    identifier := Identifier.normalize file.id }

end ParsedFile
end FileRoutes
