import FileRoutes.Config
import FileRoutes.Event
import FileRoutes.Node

/-!
# Merging

Merging puts one route tree into another, whose files were registered first
and therefore win where two files compete.

A page never stays on a node that takes more content: it moves into an index
child.  A layout is adopted by a node that has none.  Children are merged by
their paths, and unknown paths are appended; an appended child goes through
the same rules, so that the merged tree has pages on index nodes only.
-/

namespace FileRoutes

/-- Settle a conflict by its policy: keep what is there and record the
conflict, or fail. -/
def resolveConflict (policy : ConflictPolicy) (conflict : Conflict) :
    Logged Unit :=
  match policy with
  | .firstWins => .record (.conflictKept conflict)
  | .error => .fail (.conflict conflict)

namespace RouteNode

/-- Offer content to an index node.  A page or layout replaces whatever is no
page and no layout, but never another one. -/
def claimSlot (options : MergeOptions) (parent : String) (slot : RouteNode)
    (content : RouteContent) : Logged RouteNode :=
  match slot.spec? with
  | none =>
    if content.isRenderable || slot.content.isNone then
      return { slot with content := some content }
    else
      return slot
  | some existing =>
    if content.isRenderable then do
      resolveConflict options.duplicates
        (.duplicateClaim parent .index existing.source content.describe)
      return slot
    else
      return slot

/-- Offer content to the first index node of a list, or put a new index node
in front. -/
def claimIndexAmong (options : MergeOptions) (parent : String)
    (content : RouteContent) (children : List RouteNode) :
    Logged (List RouteNode) :=
  match children.dropWhile fun child => !child.index with
  | [] => return indexOf content :: children
  | slot :: after => do
    let claimed ← claimSlot options parent slot content
    return (children.takeWhile fun child => !child.index) ++ claimed :: after

/-- Offer content to the index child of a node. -/
def claimIndex (options : MergeOptions) (target : RouteNode)
    (content : RouteContent) : Logged RouteNode := do
  let children ← claimIndexAmong options target.displayPath content target.children
  return { target with children := children }

/-- Move the page of a node into its index child. -/
def demotePage (options : MergeOptions) (target : RouteNode) :
    Logged RouteNode :=
  match target.content with
  | some content => claimIndex options { target with content := none } content
  | none => return target

/-- Offer content to a node. -/
def mergeContent (options : MergeOptions) (target : RouteNode) :
    RouteContent -> Logged RouteNode
  | .layout spec =>
    match target.content with
    | some (.layout existing) => do
      resolveConflict options.duplicates
        (.duplicateClaim target.displayPath .layout existing.source spec.source)
      return target
    | _ => return { target with content := some (.layout spec) }
  | .page spec => claimIndex options target (.page spec)
  | .notFound view =>
    if target.content.isNone then
      return { target with content := some (.notFound view) }
    else
      return target

/-- The first child that competes with a dynamic segment. -/
def rival? (target : RouteNode) (kind : SegmentKind) : Option RouteNode :=
  target.children.find? fun child =>
    !child.index && child.dynamic.map SegmentKind.slot == some kind.slot

/-- Check a child that is about to be appended against the dynamic children
that are there. -/
def checkSiblings (options : MergeOptions) (target incoming : RouteNode) :
    Logged Unit :=
  match incoming.dynamic.bind target.rival? with
  | none => return ()
  | some rival =>
    resolveConflict options.dynamicSegments
      (.dynamicConflict target.displayPath rival.displayPath incoming.displayPath)

/-- Fill in what a node lacks: its dynamic kind and its error view. -/
def fillFrom (target : RouteNode) (dynamic : Option SegmentKind)
    (error : Option View) : RouteNode :=
  { target with
    dynamic := target.dynamic.or dynamic
    error := target.error.or error }

mutual

/-- Merge a tree into another one with the same root. -/
def merge (options : MergeOptions) (target : RouteNode) :
    RouteNode -> Logged RouteNode
  | ⟨path, index, dynamic, content, error, children⟩ =>
    if target.path ≠ path ∨ target.index ≠ index then
      .fail (.pathMismatch target.path path)
    else do
      let filled := target.fillFrom dynamic error
      let opened ←
        if filled.isPage && (content.isSome || !children.isEmpty) then
          demotePage options filled
        else
          pure filled
      let furnished ←
        match content with
        | some content => mergeContent options opened content
        | none => pure opened
      mergeForest options furnished children

/-- Merge trees, one after the other, into the children of a node. -/
def mergeForest (options : MergeOptions) (target : RouteNode) :
    List RouteNode -> Logged RouteNode
  | [] => return target
  | child :: rest => do
    let merged ←
      if child.index then
        match child.content with
        | some content => claimIndex options target content
        | none => pure target
      else
        match target.children.dropWhile fun other =>
            !other.matchesPath child.path with
        | existing :: after => do
          let replacement ← merge options existing child
          pure { target with
            children :=
              (target.children.takeWhile fun other =>
                !other.matchesPath child.path) ++ replacement :: after }
        | [] => do
          checkSiblings options target child
          let fresh ← merge options { path := child.path } child
          pure { target with children := target.children ++ [fresh] }
    mergeForest options merged rest

end

end RouteNode
end FileRoutes
