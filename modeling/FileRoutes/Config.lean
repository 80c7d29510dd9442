/-!
# Configuration of the compiler

The configuration says which leading folders of an identifier are dropped and
what happens when two files claim the same place in the tree.
-/

namespace FileRoutes

/-- What happens when two files claim the same place. -/
inductive ConflictPolicy
  /-- Keep what was registered first and record a warning. -/
  | firstWins
  /-- Refuse to compile. -/
  | error
deriving DecidableEq, Repr, Inhabited

namespace ConflictPolicy

/-- The name of a policy in settings. -/
def name : ConflictPolicy -> String
  | firstWins => "first-wins"
  | error => "error"

/-- Every policy under its name. -/
def choices : List (String × ConflictPolicy) :=
  [(firstWins.name, firstWins), (error.name, error)]

theorem lookup_choices (policy : ConflictPolicy) :
    choices.lookup policy.name = some policy := by
  cases policy <;> decide

end ConflictPolicy

/-- The policies for the two ways in which files compete. -/
structure MergeOptions where
  /-- For a second page or layout in an occupied slot. -/
  duplicates : ConflictPolicy := .firstWins
  /-- For differently named dynamic segments at one level. -/
  dynamicSegments : ConflictPolicy := .firstWins
deriving DecidableEq, Repr, Inhabited

namespace MergeOptions

/-- The policies that refuse every ambiguity. -/
def strict : MergeOptions :=
  { duplicates := .error, dynamicSegments := .error }

end MergeOptions

/-- How identifiers are interpreted. -/
structure RoutingConfig where
  /-- The leading folders that are dropped from identifiers. -/
  rootPrefix : String := "app"
deriving DecidableEq, Repr, Inhabited

/-- The configuration of the compiler. -/
structure CompilerConfig where
  routing : RoutingConfig := {}
  conflicts : MergeOptions := {}
deriving DecidableEq, Repr, Inhabited

namespace CompilerConfig

/-- Replace the leading folders that are dropped from identifiers. -/
def withRootPrefix (config : CompilerConfig) (rootPrefix : String) :
    CompilerConfig :=
  { config with routing := { config.routing with rootPrefix := rootPrefix } }

/-- Replace the policies. -/
def withConflicts (config : CompilerConfig) (conflicts : MergeOptions) :
    CompilerConfig :=
  { config with conflicts := conflicts }

/-- The same configuration, with the policies that refuse every ambiguity. -/
def strict (config : CompilerConfig) : CompilerConfig :=
  config.withConflicts .strict

end CompilerConfig
end FileRoutes
