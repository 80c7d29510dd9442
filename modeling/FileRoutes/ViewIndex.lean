import FileRoutes.Event
import FileRoutes.ParsedFile
import FileRoutes.View

/-!
# View indexes

Views are looked up by the folder that holds their file or by the route they
apply to.  When several files share a key, the one with the least precedence
holds it, whatever the order in which they are registered.
-/

namespace FileRoutes

/-- A view with the rank of its file. -/
structure RankedView where
  rank : Precedence
  view : View
deriving DecidableEq, Repr

/-- Views under their keys, in the order in which the keys were first seen. -/
structure ViewIndex where
  entries : List (String × RankedView) := []
deriving Repr

namespace ViewIndex

/-- The view under a key. -/
def get? (index : ViewIndex) (key : String) : Option View :=
  (index.entries.lookup key).map RankedView.view

/-- The number of keys. -/
def size (index : ViewIndex) : Nat :=
  index.entries.length

/-- Put a view under a key in place of the one that is there. -/
def replace (index : ViewIndex) (key : String) (candidate : RankedView) :
    ViewIndex :=
  { entries := index.entries.map fun entry =>
      if entry.1 = key then (key, candidate) else entry }

/-- Register a view under a key.  When the key is taken, the candidate with
the lower rank keeps it and the other one is reported. -/
def register (index : ViewIndex) (key : String) (candidate : RankedView) :
    List Event × ViewIndex :=
  match index.entries.lookup key with
  | none => ([], { entries := index.entries ++ [(key, candidate)] })
  | some holder =>
    if candidate.rank.before holder.rank then
      ([.viewIgnored holder.view.label candidate.view.label key],
        index.replace key candidate)
    else
      ([.viewIgnored candidate.view.label holder.view.label key], index)

/-- Register files one after the other, each under the key taken from its
parsed identifier. -/
def build (keyOf : ParsedFile -> String) (rootPrefix : String)
    (files : List ListedFile) : List Event × ViewIndex :=
  files.foldl
    (fun (log, index) file =>
      let parsed := ParsedFile.parse rootPrefix file.id
      let (events, extended) :=
        index.register (keyOf parsed) ⟨parsed.precedence, .file file⟩
      (log ++ events, extended))
    ([], {})

/-- Index files by the folders that hold them. -/
def byFolder (rootPrefix : String) (files : List ListedFile) :
    List Event × ViewIndex :=
  build ParsedFile.folderKey rootPrefix files

/-- Index files by the routes they apply to. -/
def byRoute (rootPrefix : String) (files : List ListedFile) :
    List Event × ViewIndex :=
  build ParsedFile.routeKey rootPrefix files

/-- The view under a key or under the nearest key above it. -/
def nearest? (index : ViewIndex) (key : String) : Option View :=
  (Key.ancestors key).findSome? index.get?

/-- The folders whose loading views serve a folder: the folder itself and the
groups around it, nearest first. -/
def loadingKeys (folderKey : String) : List String :=
  match Key.ancestors folderKey with
  | [] => []
  | own :: above => own :: above.filter fun key => isGroup (Key.lastName key)

/-- The loading view of a page or layout: the one of its folder, of the
nearest group around it, of the root folder, or the one of the library. -/
def findLoading (index : ViewIndex) (file : ParsedFile) : View :=
  (((loadingKeys file.folderKey).findSome? index.get?).or (index.get? "")).getD
    (.builtin .loading)

end ViewIndex

/-- The not-found views of a tree, by route. -/
structure NotFoundViews where
  index : ViewIndex := {}

namespace NotFoundViews

/-- The view for routes without a not-found view at or above them. -/
def fallback (views : NotFoundViews) : View :=
  (views.index.get? "").getD (.builtin .notFound)

/-- The view nearest to a route. -/
def nearest (views : NotFoundViews) (routeKey : String) : View :=
  (views.index.nearest? routeKey).getD views.fallback

end NotFoundViews
end FileRoutes
