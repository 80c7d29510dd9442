import FileRoutes.Proofs.Attachment
import FileRoutes.Proofs.Completion
import FileRoutes.Proofs.Union

/-!
# Histories of a tree

A tree is built up from a bare root by merges, attachments of error views and
not-found passes, in any number and any order.  What is merged into it may be
any tree at all.
-/

namespace FileRoutes

/-- A step in the history of a tree. -/
inductive TreeStep
  /-- Another tree is merged in. -/
  | merge (options : MergeOptions) (source : RouteNode)
  /-- An error view is attached at a route. -/
  | attach (route : List String) (view : View)
  /-- The tree is completed with not-found nodes. -/
  | addNotFound (views : NotFoundViews)

namespace TreeStep

/-- The tree after a step; a step that fails leaves it as it was. -/
def apply (tree : RouteNode) : TreeStep -> RouteNode
  | merge options source =>
    match (RouteNode.merge options tree source).outcome with
    | .ok merged => merged
    | .error _ => tree
  | attach route view =>
    match tree.attachErrorView route view with
    | .ok attached => attached
    | .error _ => tree
  | addNotFound views => tree.addNotFound views

/-- The tree after several steps, from a bare root. -/
def run (steps : List TreeStep) : RouteNode :=
  steps.foldl apply .root

/-- Every step leaves a tidy tree tidy. -/
theorem apply_tidy {tree : RouteNode} (tidy : tree.Tidy) (step : TreeStep) :
    (apply tree step).Tidy := by
  cases step with
  | merge options source =>
    cases outcome : (RouteNode.merge options tree source).outcome with
    | error error => simpa only [apply, outcome] using tidy
    | ok merged =>
      have equal : merged = RouteNode.union tree source :=
        RouteNode.eq_union_of_gives tidy outcome
      simpa only [apply, outcome, equal] using tidy.union source
  | attach route view =>
    cases outcome : tree.attachErrorView route view with
    | error error => simpa only [apply, outcome] using tidy
    | ok attached =>
      simpa only [apply, outcome] using tidy.attachErrorView outcome
  | addNotFound views => exact tidy.addNotFound views

/-- Every history from the bare root gives a tidy tree. -/
theorem run_tidy (steps : List TreeStep) : (run steps).Tidy := by
  -- A later step starts from a tree that is no longer bare.
  have preserved (tree : RouteNode) (tidy : tree.Tidy) :
      (steps.foldl apply tree).Tidy := by
    induction steps generalizing tree with
    | nil => exact tidy
    | cons step rest inductionHypothesis =>
      exact inductionHypothesis (apply tree step) (apply_tidy tidy step)
  exact preserved .root .root

/-- After any history every node of the tree is tidy: pages stand on index nodes
only, an index node comes first, is alone of its kind and has content and
nothing else, and no two branches of a node share a path. -/
theorem tidyAt_of_mem_run (steps : List TreeStep) :
    ∀ node ∈ (run steps).nodes, node.TidyAt :=
  (run_tidy steps).tidyAt_of_mem_nodes

/-- A tree with a page on its root, two branches of one path and an index node
with a child. -/
def crowded (spec : RenderSpec) : RouteNode :=
  { RouteNode.root with
    content := some (.page spec)
    children :=
      [{ path := some "a", children := [.ofPath "b"] },
        { index := true, content := some (.layout spec),
          children := [.ofPath "c"] },
        { path := some "a", content := some (.page spec),
          children := [.ofPath "b"] }] }

theorem tidyAt_of_mem_run_crowded :
    RouteNode.indexOf (.page default) ∈
        (run [.merge .permissive (crowded default),
          .attach ["a"] (.builtin .notFound), .addNotFound {}]).nodes ∧
      (RouteNode.indexOf (.page default)).TidyAt := by
  have member : RouteNode.indexOf (.page default) ∈
      (run [.merge .permissive (crowded default),
        .attach ["a"] (.builtin .notFound), .addNotFound {}]).nodes := by
    have first : (run [.merge .permissive (crowded default),
        .attach ["a"] (.builtin .notFound), .addNotFound {}]).nodes[1]? =
          some (RouteNode.indexOf (.page default)) := rfl
    exact List.mem_of_getElem? first
  exact ⟨member, tidyAt_of_mem_run _ _ member⟩

end TreeStep
end FileRoutes
