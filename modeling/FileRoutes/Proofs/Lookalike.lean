import FileRoutes.Outline
import FileRoutes.Proofs.Completion
import FileRoutes.Proofs.Guarding
import FileRoutes.Proofs.Sorting

/-!
# Trees that look alike

Outlines show labels in place of files and views.  Two trees look alike when
their nodes at every route show the same, whatever the order of their branches.
What is done to both of them alike keeps them alike, and their sorted outlines
are equal.
-/

namespace FileRoutes

/-- The outline of a node without its children, and the one of its index
child. -/
structure Face where
  own : Outline
  slot : Option Outline

/-- What an outline shows of a place. -/
def Place.face (place : Place) : Face where
  own :=
    { path := place.path
      parameter := place.dynamic.bind SegmentKind.parameter?
      content := place.content.map RouteContent.kind
      source := place.content.map RouteContent.sourceLabel
      loading := (place.content.bind RouteContent.spec?).map fun spec =>
        spec.loading.label
      error := place.error.map View.label }
  slot := place.slot.map fun content => (RouteNode.indexOf content).outline

/-- Places that show the same path, kind, error view, content and slot have one
face. -/
theorem Place.face_eq {left right : Place} (samePath : left.path = right.path)
    (sameDynamic : left.dynamic = right.dynamic)
    (sameError : left.error = right.error)
    (sameContent : left.content.map
      (fun content => (RouteNode.indexOf content).outline) =
      right.content.map fun content => (RouteNode.indexOf content).outline)
    (sameSlot : left.slot.map (fun content => (RouteNode.indexOf content).outline) =
      right.slot.map fun content => (RouteNode.indexOf content).outline) :
    left.face = right.face := by
  have shown : left.content.map RouteContent.kind =
      right.content.map RouteContent.kind ∧
      left.content.map RouteContent.sourceLabel =
        right.content.map RouteContent.sourceLabel ∧
      (left.content.bind RouteContent.spec?).map
        (fun spec => spec.loading.label) =
        (right.content.bind RouteContent.spec?).map fun spec =>
          spec.loading.label := by
    cases leftContent : left.content <;> cases rightContent : right.content <;>
      simp_all [RouteNode.indexOf, RouteNode.outline]
  obtain ⟨kinds, sources, loadings⟩ := shown
  rw [face, face, samePath, sameDynamic, sameError, kinds, sources,
    loadings, sameSlot]

namespace RouteNode

/-- What an outline shows of a node without its branches. -/
def face (node : RouteNode) : Face :=
  node.place.face

/-- Two trees show the same at every route. -/
def Alike (left right : RouteNode) : Prop :=
  ∀ route, (left.reach? route).map face = (right.reach? route).map face

/-- Two trees that may be missing look alike, or both are missing. -/
def AlikeBelow (left right : Option RouteNode) : Prop :=
  left = none ∧ right = none ∨
    ∃ leftTree rightTree, left = some leftTree ∧ right = some rightTree ∧
      Alike leftTree rightTree

/-- Two outcomes are the same error, or trees that look alike. -/
def AlikeOutcomes (left right : Except RouteError RouteNode) : Prop :=
  (∃ error, left = .error error ∧ right = .error error) ∨
    ∃ leftTree rightTree, left = .ok leftTree ∧ right = .ok rightTree ∧
      leftTree.Tidy ∧ rightTree.Tidy ∧ Alike leftTree rightTree

namespace Alike

variable {left right : RouteNode}

theorem symm (alike : Alike left right) : Alike right left :=
  fun route => (alike route).symm

theorem face_eq (alike : Alike left right) : left.face = right.face :=
  Option.some.inj (alike [])

/-- Trees that look alike have the same branches, and these look alike. -/
theorem branchAt (alike : Alike left right) (path : Option String) :
    AlikeBelow (left.branchAt? path) (right.branchAt? path) := by
  have below (rest : List (Option String)) := alike (path :: rest)
  simp only [reach_cons] at below
  cases leftFound : left.branchAt? path with
  | none =>
    cases rightFound : right.branchAt? path with
    | none => exact Or.inl ⟨rfl, rfl⟩
    | some branch =>
      rw [leftFound, rightFound] at below
      cases below []
  | some leftBranch =>
    cases rightFound : right.branchAt? path with
    | none =>
      rw [leftFound, rightFound] at below
      cases below []
    | some rightBranch =>
      rw [leftFound, rightFound] at below
      exact Or.inr ⟨leftBranch, rightBranch, rfl, rfl, below⟩

/-- Trees look alike that show the same and have branches that look alike. -/
theorem of_branchAt (sameFace : left.face = right.face)
    (below : ∀ path, AlikeBelow (left.branchAt? path) (right.branchAt? path)) :
    Alike left right := by
  intro route
  cases route with
  | nil => exact congrArg some sameFace
  | cons path rest =>
    rw [reach_cons, reach_cons]
    rcases below path with ⟨noLeft, noRight⟩ | ⟨_, _, isLeft, isRight, branches⟩
    · rw [noLeft, noRight]
    · rw [isLeft, isRight]
      exact branches rest

theorem path_eq (alike : Alike left right) : left.path = right.path :=
  congrArg (fun face => face.own.path) alike.face_eq

theorem slot_isSome_eq (alike : Alike left right) :
    left.slot?.isSome = right.slot?.isSome := by
  have sameSlot := congrArg (fun face => face.slot.isSome) alike.face_eq
  simpa [face, Place.face, place] using sameSlot

/-- Nodes that look alike lack the same branches. -/
theorem branchAt_eq_none_iff (alike : Alike left right) (path : Option String) :
    left.branchAt? path = none ↔ right.branchAt? path = none := by
  rcases alike.branchAt path with ⟨noLeft, noRight⟩ | ⟨_, _, isLeft, isRight, _⟩
  · rw [noLeft, noRight]
  · rw [isLeft, isRight]
    exact iff_of_false (Option.some_ne_none _) (Option.some_ne_none _)

end Alike

/-! ## Attaching error views -/

section Attach

variable {left right : RouteNode} {view other : View}

theorem Alike.children_eq_nil_iff (alike : Alike left right)
    (leftTidy : left.Tidy) (rightTidy : right.Tidy) :
    left.children = [] ↔ right.children = [] := by
  rw [leftTidy.children_eq_nil_iff, rightTidy.children_eq_nil_iff,
    ← Option.not_isSome_iff_eq_none, ← Option.not_isSome_iff_eq_none,
    alike.slot_isSome_eq]
  simp only [alike.branchAt_eq_none_iff]

/-- Nodes that look alike miss a segment with the same error. -/
theorem Alike.missing_eq (alike : Alike left right) (leftTidy : left.Tidy)
    (rightTidy : right.Tidy) (segment : String) :
    left.missing segment = right.missing segment := by
  have sameName : left.displayPath = right.displayPath := by
    rw [displayPath, displayPath, alike.path_eq]
  have sameChildren : left.children.isEmpty = true ↔
      right.children.isEmpty = true := by
    rw [List.isEmpty_iff, List.isEmpty_iff]
    exact alike.children_eq_nil_iff leftTidy rightTidy
  rw [missing, missing, sameName, if_congr sameChildren rfl rfl]

/-- Error views with the same label keep trees alike. -/
theorem Alike.attachErrorView {leftResult rightResult : RouteNode}
    {route : List String} (alike : Alike left right)
    (sameLabel : view.label = other.label)
    (leftAttached : left.attachErrorView route view = .ok leftResult)
    (rightAttached : right.attachErrorView route other = .ok rightResult) :
    Alike leftResult rightResult := by
  intro reached
  have faces (node : RouteNode) : face node = (place node).face := rfl
  have leftPlace := congrArg (Option.map Place.face)
    (place_attachErrorView leftAttached reached)
  have rightPlace := congrArg (Option.map Place.face)
    (place_attachErrorView rightAttached reached)
  simp only [Option.map_map, Function.comp_def, ← faces] at leftPlace rightPlace
  rw [leftPlace, rightPlace]
  by_cases isRoute : reached = route.map some
  · have guarded (shown : Face) (node : RouteNode) (isShown : node.face = shown)
        (view : View) : ({ node.place with error := some view } : Place).face =
          { shown with own := { shown.own with error := some view.label } } := by
      rw [← isShown]
      rfl
    have same := congrArg
      (Option.map fun shown : Face =>
        ({ shown with own := { shown.own with error := some view.label } } : Face))
      (alike reached)
    rw [if_pos isRoute, if_pos isRoute]
    simp only [Option.map_map, Function.comp_def] at same ⊢
    simp only [guarded _ _ rfl]
    rw [← sameLabel]
    exact same
  · rw [if_neg isRoute, if_neg isRoute]
    simp only [Option.map_map, Function.comp_def, ← faces]
    exact alike reached

/-- An attachment that fails on a tree fails in the same way on one that looks
alike. -/
theorem Alike.attachErrorView_error {route : List String} {error : RouteError}
    (alike : Alike left right) (leftTidy : left.Tidy) (rightTidy : right.Tidy)
    (failed : left.attachErrorView route view = .error error) :
    right.attachErrorView route other = .error error := by
  induction route generalizing left right with
  | nil => cases failed
  | cons segment rest step =>
    rw [attachErrorView_cons] at failed ⊢
    rcases alike.branchAt (some segment) with
      ⟨noLeft, noRight⟩ | ⟨leftBranch, rightBranch, isLeft, isRight, branches⟩
    · simp only [noLeft] at failed
      simp only [noRight]
      rw [← alike.missing_eq leftTidy rightTidy]
      exact failed
    · simp only [isLeft] at failed
      simp only [isRight]
      cases below : leftBranch.attachErrorView rest view with
      | ok changed =>
        rw [below] at failed
        cases failed
      | error reason =>
        rw [below] at failed
        cases failed
        rw [step branches (leftTidy.of_branchAt isLeft)
          (rightTidy.of_branchAt isRight)
          below]
        rfl

/-- Attachments to trees that look alike have outcomes that do. -/
theorem Alike.outcomes_attachErrorView (alike : Alike left right)
    (leftTidy : left.Tidy) (rightTidy : right.Tidy)
    (sameLabel : view.label = other.label) (route : List String) :
    AlikeOutcomes (left.attachErrorView route view)
      (right.attachErrorView route other) := by
  cases leftAttached : left.attachErrorView route view with
  | error error =>
    exact Or.inl ⟨error, rfl,
      alike.attachErrorView_error leftTidy rightTidy leftAttached⟩
  | ok leftResult =>
    cases rightAttached : right.attachErrorView route other with
    | error error =>
      have fails : left.attachErrorView route view = .error error :=
        alike.symm.attachErrorView_error rightTidy leftTidy rightAttached
      rw [leftAttached] at fails
      cases fails
    | ok rightResult =>
      exact Or.inr ⟨leftResult, rightResult, rfl, rfl,
        leftTidy.attachErrorView leftAttached,
        rightTidy.attachErrorView rightAttached,
        alike.attachErrorView sameLabel leftAttached rightAttached⟩

end Attach

/-! ## Completing trees -/

section Complete

variable {left right : RouteNode} {view other : View}

theorem face_catchAll (sameLabel : view.label = other.label) :
    (catchAll view).face = (catchAll other).face := by
  simp [face, place, Place.face, catchAll, slot?, indexChild?,
    RouteContent.sourceLabel, RouteContent.kind, RouteContent.spec?, sameLabel]

/-- Nodes for unmatched paths that show the same label look alike. -/
theorem alike_catchAll (sameLabel : view.label = other.label) :
    Alike (catchAll view) (catchAll other) :=
  .of_branchAt (face_catchAll sameLabel) fun _ => Or.inl ⟨rfl, rfl⟩

/-- The face of a node with other children. -/
theorem face_of_sameHead {changed node : RouteNode}
    (sameHead : SameHead changed node) :
    changed.face =
      { node.face with
        slot :=
          changed.slot?.map fun content => (indexOf content).outline } := by
  rw [face, face, place, place, sameHead.path_eq, sameHead.dynamic_eq,
    sameHead.content_eq, sameHead.error_eq]
  rfl

theorem Alike.withCatchAll (alike : Alike left right)
    (sameLabel : view.label = other.label) :
    Alike (left.withCatchAll view) (right.withCatchAll other) := by
  apply Alike.of_branchAt
  · rw [face_of_sameHead (sameHead_withCatchAll view left),
      face_of_sameHead (sameHead_withCatchAll other right), slot_withCatchAll,
      slot_withCatchAll]
    exact alike.face_eq
  · intro path
    rw [branchAt_withCatchAll, branchAt_withCatchAll]
    rcases alike.branchAt path with
      ⟨noLeft, noRight⟩ | ⟨leftBranch, rightBranch, isLeft, isRight, branches⟩
    · rw [noLeft, noRight, Option.none_or, Option.none_or]
      split
      · exact Or.inr ⟨_, _, rfl, rfl, alike_catchAll sameLabel⟩
      · exact Or.inl ⟨rfl, rfl⟩
    · rw [isLeft, isRight, Option.some_or, Option.some_or]
      exact Or.inr ⟨_, _, rfl, rfl, branches⟩

/-- Not-found views that show the same label everywhere. -/
def SameViews (views others : NotFoundViews) : Prop :=
  ∀ routeKey, (views.nearest routeKey).label = (others.nearest routeKey).label

variable {views others : NotFoundViews}

/-- Nodes that look alike need an index both or neither. -/
theorem Alike.needsIndex_eq (alike : Alike left right) (leftTidy : left.Tidy)
    (rightTidy : right.Tidy) : left.needsIndex = right.needsIndex := by
  rw [needsIndex, needsIndex, hasPlainPath, hasPlainPath, alike.path_eq,
    leftTidy.hasIndexChild_eq, rightTidy.hasIndexChild_eq, alike.slot_isSome_eq]

theorem Alike.face_inject (alike : Alike left right) (leftTidy : left.Tidy)
    (rightTidy : right.Tidy) (sameViews : SameViews views others)
    (route : List String) (isRoot : Bool) :
    (inject views route isRoot left).face =
      (inject others route isRoot right).face := by
  have sameChildren := alike.children_eq_nil_iff leftTidy rightTidy
  by_cases childless : left.children = []
  · rw [inject_of_nil _ _ _ _ childless,
      inject_of_nil _ _ _ _ (sameChildren.mp childless)]
    exact alike.face_eq
  · have rightChildren : right.children ≠ [] := mt sameChildren.mpr childless
    have sameSlot := congrArg Face.slot alike.face_eq
    rw [face_of_sameHead (sameHead_inject views route isRoot left),
      face_of_sameHead (sameHead_inject others route isRoot right),
      slot_inject _ _ _ _ childless, slot_inject _ _ _ _ rightChildren,
      alike.needsIndex_eq leftTidy rightTidy, alike.face_eq]
    split
    · have sameLabel := sameViews (Text.joinSlash route)
      simp [indexOf, outline, RouteContent.sourceLabel, RouteContent.kind,
        RouteContent.spec?, sameLabel]
    · simp only [Face.mk.injEq, true_and]
      exact sameSlot

/-- Not-found passes with the same labels keep trees alike. -/
theorem Alike.inject (alike : Alike left right) (leftTidy : left.Tidy)
    (rightTidy : right.Tidy) (sameViews : SameViews views others)
    (route : List String) (isRoot : Bool) :
    Alike (RouteNode.inject views route isRoot left)
      (RouteNode.inject others route isRoot right) := by
  intro reached
  -- Both trees change at every level, so the induction follows the route that
  -- is reached and not the trees.
  induction reached generalizing left right route isRoot with
  | nil =>
    exact congrArg some
      (alike.face_inject leftTidy rightTidy sameViews route isRoot)
  | cons path rest step =>
    have sameChildren := alike.children_eq_nil_iff leftTidy rightTidy
    by_cases childless : left.children = []
    · rw [inject_of_nil _ _ _ _ childless,
        inject_of_nil _ _ _ _ (sameChildren.mp childless)]
      exact alike (path :: rest)
    · have rightChildren : right.children ≠ [] := mt sameChildren.mpr childless
      rw [reach_cons, reach_cons, branchAt_inject _ _ _ _ _ childless,
        branchAt_inject _ _ _ _ _ rightChildren]
      rcases alike.branchAt path with
        ⟨noLeft, noRight⟩ | ⟨leftBranch, rightBranch, isLeft, isRight, branches⟩
      · rw [noLeft, noRight, Option.map_none, Option.map_none, Option.none_or,
          Option.none_or]
        split
        · exact alike_catchAll (sameViews _) rest
        · rfl
      · rw [isLeft, isRight, Option.map_some, Option.map_some, Option.some_or,
          Option.some_or, Option.bind_some, Option.bind_some,
          injectChild_of_branchAt _ _ isLeft,
          injectChild_of_branchAt _ _ isRight]
        split
        · exact branches rest
        · exact step branches (leftTidy.of_branchAt isLeft)
            (rightTidy.of_branchAt isRight)
            (route ++ [path.getD ""]) false

/-- Nodes that show the same render contents that show the same. -/
theorem Alike.outline_content (alike : Alike left right) :
    left.content.map (fun content => (indexOf content).outline) =
      right.content.map fun content => (indexOf content).outline := by
  have kinds := congrArg (fun face => face.own.content) alike.face_eq
  have sources := congrArg (fun face => face.own.source) alike.face_eq
  have loadings := congrArg (fun face => face.own.loading) alike.face_eq
  simp only [face, Place.face, place] at kinds sources loadings
  cases leftContent : left.content with
  | none =>
    rw [leftContent] at kinds
    cases rightContent : right.content with
    | none => rfl
    | some content =>
      rw [rightContent] at kinds
      cases kinds
  | some content =>
    rw [leftContent] at kinds sources loadings
    cases rightContent : right.content with
    | none =>
      rw [rightContent] at kinds
      cases kinds
    | some otherContent =>
      rw [rightContent] at kinds sources loadings
      rw [Option.map_some, Option.map_some, indexOf, indexOf, outline,
        outline, kinds, sources, loadings]

theorem Alike.openRoot (alike : Alike left right) (leftTidy : left.Tidy)
    (rightTidy : right.Tidy) : Alike left.openRoot right.openRoot := by
  have sameChildren := alike.children_eq_nil_iff leftTidy rightTidy
  have sameContent := alike.outline_content
  by_cases childless : left.children = []
  · cases leftContent : left.content with
    | none =>
      have rightContent : right.content = none := by
        rw [leftContent] at sameContent
        simpa using sameContent.symm
      rw [openRoot_of_bare leftContent, openRoot_of_bare rightContent]
      exact alike
    | some content =>
      cases rightContent : right.content with
      | none =>
        rw [leftContent, rightContent] at sameContent
        cases sameContent
      | some otherContent =>
        rw [leftContent, rightContent] at sameContent
        rw [openRoot_of_leaf childless leftContent,
          openRoot_of_leaf (sameChildren.mp childless) rightContent]
        have opened (node : RouteNode) (content : RouteContent) :
            face { node with content := none, children := [indexOf content] } =
              { own :=
                  { node.face.own with
                    content := none, source := none, loading := none }
                slot := (some content).map fun content =>
                  (indexOf content).outline } :=
          rfl
        refine .of_branchAt ?_ fun _ => Or.inl ⟨rfl, rfl⟩
        rw [opened, opened, alike.face_eq, sameContent]
  · rw [openRoot_of_children childless,
      openRoot_of_children (mt sameChildren.mpr childless)]
    exact alike

/-- Trees that look alike still do when they are completed. -/
theorem Alike.addNotFound (alike : Alike left right) (leftTidy : left.Tidy)
    (rightTidy : right.Tidy) (sameViews : SameViews views others) :
    Alike (left.addNotFound views) (right.addNotFound others) := by
  have opened := alike.openRoot leftTidy rightTidy
  have injected :=
    opened.inject leftTidy.openRoot rightTidy.openRoot sameViews [] true
  exact injected.withCatchAll (sameViews "")

end Complete

end RouteNode

/-! ## Guarding trees -/

/-- The same error views attached to trees that look alike have outcomes that
do. -/
theorem Boundary.alike_attachBoundaries {left right : RouteNode}
    (alike : left.Alike right) (leftTidy : left.Tidy) (rightTidy : right.Tidy)
    (guarded : List String) {boundaries others : List Boundary}
    (sameFiles : boundaries.map Boundary.parsed = others.map Boundary.parsed)
    (labels : ∀ boundary ∈ boundaries, boundary.file.id = boundary.parsed.id)
    (otherLabels : ∀ boundary ∈ others, boundary.file.id = boundary.parsed.id) :
    RouteNode.AlikeOutcomes (attachBoundaries guarded left boundaries).outcome
      (attachBoundaries guarded right others).outcome := by
  induction boundaries generalizing left right guarded others with
  | nil =>
    obtain rfl := List.map_eq_nil_iff.mp sameFiles.symm
    exact Or.inr ⟨left, right, rfl, rfl, leftTidy, rightTidy, alike⟩
  | cons boundary rest step =>
    obtain ⟨other, otherRest, isOthers, sameFile, sameRest⟩ :=
      List.map_eq_cons_iff.mp sameFiles.symm
    subst isOthers
    have restLabels :
        ∀ boundary ∈ rest, boundary.file.id = boundary.parsed.id :=
      fun boundary member => labels boundary (List.mem_cons_of_mem _ member)
    have otherRestLabels :
        ∀ boundary ∈ otherRest, boundary.file.id = boundary.parsed.id :=
      fun boundary member =>
        otherLabels boundary (List.mem_cons_of_mem _ member)
    by_cases known : boundary.parsed.routeKey ∈ guarded
    · have otherKnown : other.parsed.routeKey ∈ guarded := by rwa [sameFile]
      rw [attachBoundaries_guarded known, attachBoundaries_guarded otherKnown,
        (Logged.gives_record _).outcome_bind,
        (Logged.gives_record _).outcome_bind]
      exact step alike leftTidy rightTidy guarded sameRest.symm restLabels
        otherRestLabels
    · have otherUnknown : other.parsed.routeKey ∉ guarded := by rwa [sameFile]
      have sameLabel :
          View.label (.file boundary.file) = View.label (.file other.file) := by
        rw [View.label_file, View.label_file,
          labels boundary List.mem_cons_self,
          otherLabels other List.mem_cons_self, sameFile]
      rcases alike.outcomes_attachErrorView leftTidy rightTidy sameLabel
          boundary.parsed.routeTokens with ⟨error, fails, otherFails⟩ |
        ⟨attached, otherAttached, attaches, otherAttaches, tidy,
          otherTidy, results⟩
      · rw [← sameFile] at otherFails
        rw [attachBoundaries_failed known fails,
          attachBoundaries_failed otherUnknown otherFails]
        exact Or.inl ⟨error, rfl, rfl⟩
      · rw [← sameFile] at otherAttaches
        rw [attachBoundaries_attached known attaches,
          attachBoundaries_attached otherUnknown otherAttaches, sameFile]
        exact step results tidy otherTidy _ sameRest.symm restLabels
          otherRestLabels

end FileRoutes
