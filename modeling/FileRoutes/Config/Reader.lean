import FileRoutes.Config
import FileRoutes.Text.Blank
import FileRoutes.Toml.Document
import FileRoutes.Toml.Shape

/-!
# Configuration files

Configurations are read from documents with a table for the routing and one
for the conflicts.  Whatever is left out has its default, and a text of white
space alone is the default configuration.
-/

namespace FileRoutes

/-- Why a settings text could not be read. -/
inductive SettingsError
  /-- The text is no document. -/
  | notADocument
  /-- The document does not have the required shape. -/
  | mismatch (reason : Toml.Mismatch)

/-- Read a document and then its entries. -/
def readSettings {α : Type} (shape : Toml.Item -> Toml.Shaped α) (text : String) :
    Except SettingsError α :=
  match Toml.parse? text with
  | none => .error .notADocument
  | some entries =>
    match shape (.table .header entries) with
    | .ok settings => .ok settings
    | .error reason => .error (.mismatch reason)

namespace RoutingConfig

/-- Read the routing table. -/
def ofItem : Toml.Item -> Toml.Shaped RoutingConfig :=
  Toml.Item.toRecord "RoutingConfig" {} ["root_prefix"] fun config key item =>
    match key with
    | "root_prefix" => do
      let rootPrefix ← item.toText
      return { config with rootPrefix := rootPrefix }
    | _ => return config

end RoutingConfig

namespace MergeOptions

/-- Read the conflicts table. -/
def ofItem : Toml.Item -> Toml.Shaped MergeOptions :=
  Toml.Item.toRecord "MergeOptions" {} ["duplicates", "dynamic_segments"]
    fun options key item =>
      match key with
      | "duplicates" => do
        let policy ← item.toChoice ConflictPolicy.choices
        return { options with duplicates := policy }
      | "dynamic_segments" => do
        let policy ← item.toChoice ConflictPolicy.choices
        return { options with dynamicSegments := policy }
      | _ => return options

end MergeOptions

namespace CompilerConfig

/-- Read a configuration table. -/
def ofItem : Toml.Item -> Toml.Shaped CompilerConfig :=
  Toml.Item.toRecord "CompilerConfig" {} ["routing", "conflicts"]
    fun config key item =>
      match key with
      | "routing" => do
        let routing ← RoutingConfig.ofItem item
        return { config with routing := routing }
      | "conflicts" => do
        let conflicts ← MergeOptions.ofItem item
        return { config with conflicts := conflicts }
      | _ => return config

/-- Read a configuration text. -/
def ofText (text : String) : Except SettingsError CompilerConfig :=
  if Text.isBlankText text then
    .ok {}
  else
    readSettings ofItem text

end CompilerConfig
end FileRoutes
