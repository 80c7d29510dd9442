import FileRoutes.Compiler
import FileRoutes.Proofs.Attachment
import FileRoutes.Proofs.Logged
import FileRoutes.Proofs.RouteKey

/-!
# Guarding a tree

Error views are attached one after the other, and all of them can be attached
when the tree has a node at each of their routes.  An error view for a route
that is guarded already is passed over, so its route is in the tree as well.
-/

namespace FileRoutes

open Logged RouteNode

theorem RouteNode.reach_isSome_attachErrorView {node result : RouteNode}
    {route : List String} {view : View}
    (attached : node.attachErrorView route view = .ok result)
    (other : List (Option String)) :
    (result.reach? other).isSome = (node.reach? other).isSome := by
  have places := congrArg Option.isSome (place_attachErrorView attached other)
  rw [Option.isSome_map] at places
  rw [places]
  split
  · exact Option.isSome_map
  · exact Option.isSome_map

namespace Boundary

/-- Whether a tree has a node at the route of an error view. -/
def Fits (root : RouteNode) (boundary : Boundary) : Prop :=
  (root.reach? (boundary.parsed.routeTokens.map some)).isSome = true

variable {root attached : RouteNode} {boundary : Boundary}
  {guarded : List String} {rest : List Boundary}

/-- An error view for a route that has one is reported and left out. -/
theorem attachBoundaries_guarded (known : boundary.parsed.routeKey ∈ guarded) :
    attachBoundaries guarded root (boundary :: rest) =
      (record (.boundaryIgnored boundary.parsed.id boundary.parsed.routeKey) >>=
        fun _ => attachBoundaries guarded root rest) := by
  rw [attachBoundaries, if_pos (List.contains_iff_mem.mpr known)]

/-- An error view that can be attached guards its route from then on. -/
theorem attachBoundaries_attached (unknown : boundary.parsed.routeKey ∉ guarded)
    (attaches : root.attachErrorView boundary.parsed.routeTokens
      (.file boundary.file) = .ok attached) :
    attachBoundaries guarded root (boundary :: rest) =
      attachBoundaries (boundary.parsed.routeKey :: guarded) attached rest := by
  rw [attachBoundaries, if_neg (mt List.contains_iff_mem.mp unknown), attaches]

/-- An error view that cannot be attached stops the compilation. -/
theorem attachBoundaries_failed (unknown : boundary.parsed.routeKey ∉ guarded)
    {error : RouteError}
    (fails : root.attachErrorView boundary.parsed.routeTokens
      (.file boundary.file) = .error error) :
    attachBoundaries guarded root (boundary :: rest) = Logged.fail error := by
  rw [attachBoundaries, if_neg (mt List.contains_iff_mem.mp unknown), fails]

theorem fits_attached_iff {route : List String} {view : View}
    (attaches : root.attachErrorView route view = .ok attached)
    (other : Boundary) :
    other.Fits attached ↔ other.Fits root := by
  rw [Fits, Fits, reach_isSome_attachErrorView attaches]

/-- Whether an error view fits is decided by the key of its route. -/
theorem fits_of_sameKey {rootPrefix : String} {file other : ListedFile}
    (sameKey : (ofFile rootPrefix other).parsed.routeKey =
      (ofFile rootPrefix file).parsed.routeKey)
    (fits : (ofFile rootPrefix file).Fits root) :
    (ofFile rootPrefix other).Fits root := by
  rw [Fits, ofFile, ParsedFile.routeTokens_eq_of_routeKey_eq sameKey]
  exact fits

/-- Either each error view fits and can be attached, or the first one that does
not fit fails where those before it are attached.  That they were taken from
files makes those fit whose route is guarded.  What each attachment keeps holds
for the tree in both cases. -/
theorem attachBoundaries_cases {rootPrefix : String}
    {boundaries : List Boundary} {holds : RouteNode -> Prop}
    (keeps : ∀ {node result : RouteNode} {route : List String} {view : View},
      holds node ->
      node.attachErrorView route view = .ok result -> holds result)
    (start : holds root)
    (taken : ∀ boundary ∈ boundaries, ∃ file, boundary = ofFile rootPrefix file)
    (guardedFit : ∀ boundary ∈ boundaries, boundary.parsed.routeKey ∈ guarded ->
      boundary.Fits root) :
    (∃ tree, (attachBoundaries guarded root boundaries).Gives tree ∧
      holds tree ∧
        ∀ boundary ∈ boundaries, boundary.Fits root) ∨
      ∃ front boundary back attached error,
        boundaries = front ++ boundary :: back ∧
        (∀ other ∈ front, other.Fits root) ∧ ¬boundary.Fits root ∧
          holds attached ∧
        attached.attachErrorView boundary.parsed.routeTokens
          (.file boundary.file) = .error error ∧
        (attachBoundaries guarded root boundaries).outcome = .error error := by
  -- The tree changes with each attachment, but not the routes that it has.
  induction boundaries generalizing guarded root with
  | nil => exact Or.inl ⟨root, rfl, start, List.forall_mem_nil _⟩
  | cons boundary rest step =>
    have restTaken :=
      fun other member => taken other (List.mem_cons_of_mem boundary member)
    by_cases known : boundary.parsed.routeKey ∈ guarded
    · have fits := guardedFit boundary List.mem_cons_self known
      rw [attachBoundaries_guarded known]
      rcases step start restTaken fun other member =>
          guardedFit other (List.mem_cons_of_mem _ member) with
        ⟨tree, gives, kept, restFit⟩ |
          ⟨front, first, back, later, error, isSplit, frontFit, misfit, kept,
            fails, failed⟩
      · exact Or.inl ⟨tree,
          gives_bind_iff.mpr ⟨(), gives_record _, gives⟩, kept,
          List.forall_mem_cons.mpr ⟨fits, restFit⟩⟩
      · refine Or.inr ⟨boundary :: front, first, back, later, error,
          congrArg (boundary :: ·) isSplit,
          List.forall_mem_cons.mpr ⟨fits, frontFit⟩, misfit, kept, fails, ?_⟩
        rw [(gives_record _).outcome_bind, failed]
    · cases attaches : root.attachErrorView boundary.parsed.routeTokens
          (.file boundary.file) with
      | error error =>
        rw [attachBoundaries_failed known attaches]
        refine Or.inr ⟨[], boundary, rest, root, error, rfl,
          List.forall_mem_nil _, ?_, start, attaches, rfl⟩
        intro fits
        obtain ⟨result, succeeds⟩ : ∃ result, root.attachErrorView
            boundary.parsed.routeTokens (.file boundary.file) = .ok result :=
          attachErrorView_ok_iff.mpr fits
        rw [attaches] at succeeds
        cases succeeds
      | ok attached =>
        have fits : boundary.Fits root :=
          attachErrorView_ok_iff.mp ⟨attached, attaches⟩
        have restFit : ∀ other ∈ rest,
            other.parsed.routeKey ∈ boundary.parsed.routeKey :: guarded ->
              other.Fits attached := by
          intro other member isKnown
          rw [fits_attached_iff attaches]
          rcases List.mem_cons.mp isKnown with sameKey | old
          · obtain ⟨file, isFile⟩ := taken boundary List.mem_cons_self
            obtain ⟨otherFile, otherIsFile⟩ := restTaken other member
            subst isFile otherIsFile
            exact fits_of_sameKey sameKey fits
          · exact guardedFit other (List.mem_cons_of_mem _ member) old
        rw [attachBoundaries_attached known attaches]
        rcases step (keeps start attaches) restTaken restFit with
          ⟨tree, gives, kept, restFit⟩ |
            ⟨front, first, back, later, error, isSplit, frontFit, misfit,
              kept, result⟩
        · simp only [fits_attached_iff attaches] at restFit
          exact Or.inl ⟨tree, gives, kept,
            List.forall_mem_cons.mpr ⟨fits, restFit⟩⟩
        · simp only [fits_attached_iff attaches] at frontFit misfit
          exact Or.inr ⟨boundary :: front, first, back, later, error,
            congrArg (boundary :: ·) isSplit,
            List.forall_mem_cons.mpr ⟨fits, frontFit⟩, misfit, kept, result⟩

/-- Error views can be attached exactly when each of them fits. -/
theorem gives_attachBoundaries_iff {rootPrefix : String}
    {boundaries : List Boundary}
    (taken : ∀ boundary ∈ boundaries, ∃ file, boundary = ofFile rootPrefix file)
    (guardedFit : ∀ boundary ∈ boundaries, boundary.parsed.routeKey ∈ guarded ->
      boundary.Fits root) :
    (∃ tree, (attachBoundaries guarded root boundaries).Gives tree) ↔
      ∀ boundary ∈ boundaries, boundary.Fits root := by
  rcases @attachBoundaries_cases root guarded rootPrefix boundaries
    (fun _ => True)
      (fun _ _ => trivial) trivial taken guardedFit with
    ⟨tree, gives, _, fit⟩ | ⟨front, boundary, back, _, error, isSplit, _,
      misfit, _, _, failed⟩
  · exact iff_of_true ⟨tree, gives⟩ fit
  · apply iff_of_false
    · rintro ⟨tree, gives⟩
      rw [Gives, failed] at gives
      cases gives
    · exact fun fit => misfit (fit boundary (by simp [isSplit]))

/-- A failure says that a segment of a route is missing. -/
theorem attachBoundaries_error {boundaries : List Boundary} {error : RouteError}
    (failed : (attachBoundaries guarded root boundaries).outcome =
      .error error) :
    ∃ parent segment, error = missing parent segment := by
  induction boundaries generalizing guarded root with
  | nil => cases failed
  | cons boundary rest step =>
    by_cases known : boundary.parsed.routeKey ∈ guarded
    · rw [attachBoundaries_guarded known, (gives_record _).outcome_bind]
        at failed
      exact step failed
    · cases attaches : root.attachErrorView boundary.parsed.routeTokens
          (.file boundary.file) with
      | error reason =>
        rw [attachBoundaries_failed known attaches] at failed
        cases failed
        obtain ⟨_, segment, _, parent, _, _, _, isMissing⟩ :=
          attachErrorView_error attaches
        exact ⟨parent, segment, isMissing⟩
      | ok attached =>
        rw [attachBoundaries_attached known attaches] at failed
        exact step failed

end Boundary
end FileRoutes
