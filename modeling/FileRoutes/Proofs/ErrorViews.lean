import FileRoutes.Proofs.Sorting
import FileRoutes.Proofs.Unmatched

/-!
# Where error views are

The error view of a file guards the node at the route of the file.  Of several
files with one route the foremost one guards it.  Nothing guards the nodes that
the not-found pass adds, nor index nodes.
-/

namespace FileRoutes

/-- The rank by which error views are attached: the length of the route, then
the rank of the file. -/
def ParsedFile.attachmentRank (file : ParsedFile) : Nat ×ₗ Nat ×ₗ String :=
  toLex (file.routeTokens.length, file.rank)

/-- In a sorted list the first of some elements is the least of them, and of
those that are as small the one that was listed first. -/
theorem find_mergeSort_eq_argmin {α β : Type} [LinearOrder β]
    {inOrder : α -> α -> Bool}
    (trans : ∀ first second third, inOrder first second = true ->
      inOrder second third = true -> inOrder first third = true)
    (total : ∀ left right, (inOrder left right || inOrder right left) = true)
    {select : α -> Bool} {rank : α -> β}
    (ranks : ∀ left right, select left = true -> select right = true ->
      (inOrder left right = true ↔ rank left ≤ rank right)) (list : List α) :
    (list.mergeSort inOrder).find? select =
      (list.filter select).argmin rank := by
  induction list with
  | nil =>
    rw [List.mergeSort_nil, List.find?_nil, List.filter_nil, List.argmin_nil]
  | cons first rest step =>
    -- Sorting puts the element behind all smaller ones, and before the others.
    obtain ⟨front, back, isSorted, isRest, smaller⟩ :=
      List.mergeSort_cons trans total first rest
    have ordered := List.pairwise_mergeSort trans total (first :: rest)
    rw [isSorted, List.pairwise_append, List.pairwise_cons] at ordered
    obtain ⟨_, ⟨notSmaller, _⟩, _⟩ := ordered
    rw [isRest, List.find?_append] at step
    rw [isSorted, List.find?_append, List.find?_cons]
    cases selected : select first with
    | false => rw [List.filter_cons_of_neg (by simp [selected]), ← step]
    | true =>
      rw [List.filter_cons_of_pos selected, List.argmin_cons, ← step]
      cases inFront : front.find? select with
      | some least =>
        have isLeast := List.find?_some inFront
        have notBefore := smaller least (List.mem_of_find?_eq_some inFront)
        have less : rank least < rank first := by
          rw [← not_le, ← ranks first least selected isLeast]
          simpa using notBefore
        simp [less]
      | none =>
        cases inBack : back.find? select with
        | none => rfl
        | some other =>
          have isOther := List.find?_some inBack
          have before := notSmaller other (List.mem_of_find?_eq_some inBack)
          have notLess :=
            not_lt.mpr ((ranks first other selected isOther).mp before)
          simp [notLess]

/-! ## The order of attachment -/

namespace ParsedFile

theorem length_segments (rootPrefix id : String) :
    (parse rootPrefix id).segments.length =
      (parse rootPrefix id).routeTokens.length + 1 := by
  rw [segments_parse, ← List.length_map RouteSegment.token,
    RouteSegment.map_endWith (fun _ _ => rfl), List.length_map,
    List.length_cons, List.length_map]

end ParsedFile

namespace Boundary

open Logged RouteNode

variable {rootPrefix : String}

theorem inOrder_iff {left right : ListedFile} :
    inOrder (ofFile rootPrefix left) (ofFile rootPrefix right) = true ↔
      (ParsedFile.parse rootPrefix left.id).attachmentRank ≤
        (ParsedFile.parse rootPrefix right.id).attachmentRank := by
  have isOrder : inOrder (ofFile rootPrefix left) (ofFile rootPrefix right) =
      (ParsedFile.parse rootPrefix left.id).attachesBefore
        (ParsedFile.parse rootPrefix right.id) := rfl
  rw [isOrder, ParsedFile.attachesBefore_iff, ← Bool.not_eq_true,
    ParsedFile.before_precedence_iff, not_lt, ParsedFile.length_segments,
    ParsedFile.length_segments, ParsedFile.attachmentRank,
    ParsedFile.attachmentRank, Prod.Lex.toLex_le_toLex,
    Nat.add_lt_add_iff_right, Nat.add_right_cancel_iff]

/-- The first error view for a route is the one of the foremost file. -/
theorem find_mergeSort_eq_foremost (rootPrefix : String)
    (files : List ListedFile) (route : List String) :
    (((files.map (ofFile rootPrefix)).mergeSort inOrder).find? fun boundary =>
        boundary.parsed.routeTokens = route).map file =
      foremost? ParsedFile.routeTokens rootPrefix files route := by
  let before (left right : ListedFile) : Bool :=
    inOrder (ofFile rootPrefix left) (ofFile rootPrefix right)
  have sameOrder : ∀ left ∈ files, ∀ right ∈ files,
      before left right =
        inOrder (ofFile rootPrefix left) (ofFile rootPrefix right) :=
    fun _ _ _ _ => rfl
  have trans (first second third : ListedFile)
      (left : before first second = true)
      (right : before second third = true) : before first third = true :=
    inOrder_iff.mpr ((inOrder_iff.mp left).trans (inOrder_iff.mp right))
  have total (left right : ListedFile) :
      (before left right || before right left) = true := by
    rw [Bool.or_eq_true, inOrder_iff, inOrder_iff]
    exact le_total _ _
  have ranks : ∀ left right : ListedFile,
      decide ((ParsedFile.parse rootPrefix left.id).routeTokens = route) =
        true ->
      decide ((ParsedFile.parse rootPrefix right.id).routeTokens = route) =
        true ->
      (before left right = true ↔ (ParsedFile.parse rootPrefix left.id).rank ≤
        (ParsedFile.parse rootPrefix right.id).rank) := by
    intro left right isLeft isRight
    have sameRoute :=
      (of_decide_eq_true isLeft).trans (of_decide_eq_true isRight).symm
    rw [inOrder_iff, ParsedFile.attachmentRank,
      ParsedFile.attachmentRank, sameRoute, Prod.Lex.toLex_le_toLex]
    simp
  have sameRoute :
      (fun boundary : Boundary => decide (boundary.parsed.routeTokens = route)) ∘
        ofFile rootPrefix =
          fun file =>
            decide ((ParsedFile.parse rootPrefix file.id).routeTokens =
              route) := by
    funext file
    rw [Function.comp_apply, ofFile]
  have sameFile : file ∘ ofFile rootPrefix = id := rfl
  rw [← List.map_mergeSort sameOrder, List.find?_map, Option.map_map,
    sameRoute, sameFile, Option.map_id, id,
    find_mergeSort_eq_argmin trans total ranks, foremost?]

/-- Attachments leave the first error view for each route that is not guarded
yet. -/
theorem error_attachBoundaries {guarded : List String} {root tree : RouteNode}
    {boundaries : List Boundary}
    (taken : ∀ boundary ∈ boundaries, ∃ file, boundary = ofFile rootPrefix file)
    {route : List String} (names : ∀ name ∈ route, Text.IsName name)
    (gives : (attachBoundaries guarded root boundaries).Gives tree) :
    (tree.reach? (route.map some)).bind RouteNode.error =
      if Text.joinSlash route ∈ guarded then
        (root.reach? (route.map some)).bind RouteNode.error
      else
        ((boundaries.find? fun boundary => boundary.parsed.routeTokens = route).map
          fun boundary => View.file boundary.file).or
            ((root.reach? (route.map some)).bind RouteNode.error) := by
  induction boundaries generalizing guarded root with
  | nil =>
    cases gives
    rw [List.find?_nil, Option.map_none, Option.none_or, ite_self]
  | cons boundary rest step =>
    obtain ⟨file, isFile⟩ := taken boundary List.mem_cons_self
    have restTaken :=
      fun other member => taken other (List.mem_cons_of_mem boundary member)
    have sameKey_iff : boundary.parsed.routeKey = Text.joinSlash route ↔
        boundary.parsed.routeTokens = route := by
      refine ⟨fun sameKey => ?_,
        fun sameRoute => congrArg Text.joinSlash sameRoute⟩
      subst isFile
      exact Text.joinSlash_inj (fun _ => ParsedFile.isName_of_mem_routeTokens)
        names sameKey
    rw [List.find?_cons]
    by_cases known : boundary.parsed.routeKey ∈ guarded
    · rw [attachBoundaries_guarded known] at gives
      obtain ⟨_, _, restGives⟩ := gives_bind_iff.mp gives
      rw [step restTaken restGives]
      by_cases isRoute : boundary.parsed.routeTokens = route
      · rw [← sameKey_iff.mpr isRoute, if_pos known, if_pos known]
      · rw [decide_eq_false isRoute]
    · cases attaches : root.attachErrorView boundary.parsed.routeTokens
          (.file boundary.file) with
      | error error =>
        rw [attachBoundaries_failed known attaches] at gives
        cases gives
      | ok attached =>
        rw [attachBoundaries_attached known attaches] at gives
        rw [step restTaken gives, error_attachErrorView attaches]
        have sameRoute_iff :
            route.map some = boundary.parsed.routeTokens.map some ↔
              boundary.parsed.routeTokens = route :=
          (List.map_injective_iff.mpr
            (Option.some_injective String)).eq_iff.trans eq_comm
        by_cases isRoute : boundary.parsed.routeTokens = route
        · have isKey := sameKey_iff.mpr isRoute
          rw [if_pos (sameRoute_iff.mpr isRoute), ← isKey,
            if_pos List.mem_cons_self, if_neg known, decide_eq_true isRoute]
          rfl
        · have otherKey : Text.joinSlash route ≠ boundary.parsed.routeKey :=
            fun same => isRoute (sameKey_iff.mp same.symm)
          have sameKnown :
              Text.joinSlash route ∈ boundary.parsed.routeKey :: guarded ↔
                Text.joinSlash route ∈ guarded :=
                  List.mem_cons.trans (or_iff_right otherKey)
          rw [if_neg (mt sameRoute_iff.mp isRoute), decide_eq_false isRoute,
            if_congr sameKnown rfl rfl]

end Boundary

/-! ## Completed trees -/

namespace RouteNode

variable {views : NotFoundViews} {root tree node : RouteNode}
  {route : List String}

/-- Opening the root does not move error views. -/
theorem error_openRoot (root : RouteNode) (route : List (Option String)) :
    (root.openRoot.reach? route).bind RouteNode.error =
      (root.reach? route).bind RouteNode.error := by
  cases route with
  | nil =>
    rw [reach_nil, reach_nil, Option.bind_some, Option.bind_some]
    unfold openRoot
    split
    · rfl
    · rfl
  | cons path rest => rw [reach_openRoot_cons]

/-- A completed tree has the error views of the tree it was made from. -/
theorem Standing.error_eq (standing : Standing views tree route node) :
    node.error = (tree.reach? (route.map some)).bind RouteNode.error := by
  cases standing with
  | completed outside found =>
    rw [found, Option.bind_some, (sameHead_finish views route _).error_eq]
  | kept inside found => rw [found, Option.bind_some]
  | @added route parent outside found absent =>
    rw [List.map_append, List.map_singleton, reach_append_singleton, found,
      Option.bind_some, absent]
    rfl

/-- No error view guards a node that the pass adds. -/
theorem Standing.error_eq_none (authored : tree.Authored)
    (standing : Standing views tree route node) {view : View}
    (shown : node.content = some (.notFound view)) : node.error = none := by
  cases standing with
  | @completed route original outside found =>
    rw [(sameHead_finish views route original).content_eq] at shown
    exact absurd shown (authored.written found view).1
  | kept inside found => exact absurd shown (authored.written found view).1
  | added outside found absent => rfl

end RouteNode

namespace RouteFiles

open Logged RouteNode Contribution

variable {config : CompilerConfig} {files : RouteFiles} {tree node : RouteNode}
  {route : List String}

/-- The routes of a completed tree are made of names. -/
theorem isName_of_standing {views : NotFoundViews} {guarded : RouteNode}
    (isGuarded : Guarded (files.contributions config) guarded)
    (standing : Standing views guarded.openRoot route node) :
    ∀ name ∈ route, Text.IsName name := by
  have named {route : List String} {original : RouteNode}
      (found : guarded.openRoot.reach? (route.map some) = some original) :
      ∀ name ∈ route, Text.IsName name := by
    have reached := isSome_reach_openRoot guarded (route.map some)
    rw [found, Option.isSome_some] at reached
    exact isName_of_covers (isGuarded.reach_isSome_iff.mp reached.symm)
  cases standing with
  | completed outside found => exact named found
  | kept inside found => exact named found
  | added outside found absent =>
    have isName : Text.IsName catchAllPath := by
      refine ⟨by decide, fun character member => ?_⟩
      rw [show catchAllPath.toList = ['*'] by decide, List.mem_singleton]
        at member
      rw [member]
      decide
    rw [List.forall_mem_append, List.forall_mem_singleton]
    exact ⟨named found, isName⟩

/-- The node at a route has the error view of the foremost file with the
route. -/
theorem error_eq_foremost (gives : (compile config files).Gives tree)
    (found : tree.descendant? route = some node) :
    node.error =
      (foremost? ParsedFile.routeTokens config.routing.rootPrefix files.errorFiles
      route).map View.file := by
  obtain ⟨guarded, attaching, rfl⟩ := exists_attached_of_gives_compile gives
  have isGuarded := guarded_of_attachBoundaries attaching
  have standing := standing_of_descendant isGuarded.authored found
  have names := isName_of_standing isGuarded standing
  have taken :=
    fun boundary => @exists_file_of_mem_boundaries config files boundary
  have noError :
      ((grown (files.contributions config)).reach? (route.map some)).bind
        RouteNode.error = none := by
    rw [Option.bind_eq_none_iff]
    exact fun original reached => (describes_of_reach_grown reached).error_eq
  rw [standing.error_eq, error_openRoot,
    Boundary.error_attachBoundaries taken names attaching,
    if_neg List.not_mem_nil, noError, Option.or_none,
    ← Boundary.find_mergeSort_eq_foremost, Option.map_map]
  rfl

/-- Index nodes and the nodes that the not-found pass adds have no error
views. -/
theorem error_eq_none (gives : (compile config files).Gives tree)
    (member : node ∈ tree.nodes)
    (inserted : node.index = true ∨
      ∃ view, node.content = some (.notFound view)) :
    node.error = none := by
  obtain ⟨guarded, isGuarded, rfl⟩ := exists_guarded_of_gives_compile gives
  have authored := isGuarded.authored
  rcases exists_descendant_of_mem_nodes authored member with
    ⟨content, rfl⟩ | ⟨route, found⟩
  · rfl
  · rcases inserted with isIndex | ⟨view, shown⟩
    · have tidy :=
        (authored.tidy.addNotFound (files.notFoundViews config)).of_reach
          (descendant_eq_reach _ _ ▸ found)
      rw [tidy.index_eq] at isIndex
      cases isIndex
    · exact (standing_of_descendant authored found).error_eq_none
        authored.openRoot shown

end RouteFiles
end FileRoutes
