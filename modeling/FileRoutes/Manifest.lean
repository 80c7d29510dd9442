import FileRoutes.Compiler
import FileRoutes.Config.Reader

/-!
# Manifests

A manifest lists the discovered files and may hold a configuration.  It is
compiled with that configuration or with one from a file of its own.
-/

namespace FileRoutes

/-- Why a file could not be read. -/
inductive FileFailure
  | notFound
  | notADirectory
  | isADirectory
  | notPermitted
  | nameTooLong
  | notText
deriving DecidableEq, Repr

namespace FileFailure

/-- The text of a failure. -/
def message : FileFailure -> String
  | notFound => "No such file or directory (os error 2)"
  | notADirectory => "Not a directory (os error 20)"
  | isADirectory => "Is a directory (os error 21)"
  | notPermitted => "Permission denied (os error 13)"
  | nameTooLong => "File name too long (os error 36)"
  | notText => "stream did not contain valid UTF-8"

/-- Whether there is something under the name of the file. -/
def exists? : FileFailure -> Bool
  | notFound | notADirectory | nameTooLong => false
  | isADirectory | notPermitted | notText => true

end FileFailure

/-- The texts of files by name. -/
abbrev FileTexts := String -> Except FileFailure String

namespace SettingsError

/-- The text of an error. -/
def message : SettingsError -> String
  | notADocument => "TOML parse error"
  | mismatch reason => "TOML parse error\n" ++ reason.message

end SettingsError

/-- A list of discovered files with a configuration. -/
structure Manifest where
  files : RouteFiles := {}
  compiler : CompilerConfig := {}
deriving DecidableEq, Repr, Inhabited

namespace Manifest

/-- Read a manifest table. -/
def ofItem : Toml.Item -> Toml.Shaped Manifest :=
  Toml.Item.toRecord "Manifest" {}
    ["pages", "errors", "not_found", "loading", "compiler"]
    fun manifest key item =>
      match key with
      | "pages" => do
        let ids ← item.toTexts
        return { manifest with files.pages := ids }
      | "errors" => do
        let ids ← item.toTexts
        return { manifest with files.errors := ids }
      | "not_found" => do
        let ids ← item.toTexts
        return { manifest with files.notFound := ids }
      | "loading" => do
        let ids ← item.toTexts
        return { manifest with files.loading := ids }
      | "compiler" => do
        let compiler ← CompilerConfig.ofItem item
        return { manifest with compiler := compiler }
      | _ => return manifest

/-- Read a manifest text. -/
def ofText (text : String) : Except SettingsError Manifest :=
  readSettings ofItem text

end Manifest

/-- Why a manifest could not be compiled. -/
inductive ManifestError
  /-- The configuration file asked for is not there. -/
  | missingConfig (path : String)
  | unreadableManifest (path : String) (failure : FileFailure)
  | badManifest (path : String) (reason : SettingsError)
  | unreadableConfig (path : String) (failure : FileFailure)
  | badConfig (path : String) (reason : SettingsError)
  | compilation (path : String) (error : RouteError)

namespace ManifestError

/-- What was being done. -/
def message : ManifestError -> String
  | missingConfig path => "Config file not found: " ++ Text.quoted path
  | unreadableManifest path _ => "Failed to read manifest: " ++ Text.quoted path
  | badManifest path _ => "Failed to parse manifest: " ++ Text.quoted path
  | unreadableConfig path _ => "Failed to read config file: " ++ Text.quoted path
  | badConfig path _ => "Failed to parse config file: " ++ Text.quoted path
  | compilation path _ => "Failed to compile routes from " ++ Text.quoted path

/-- The text of what went wrong while it was done. -/
def cause? : ManifestError -> Option String
  | missingConfig _ => none
  | unreadableManifest _ failure | unreadableConfig _ failure =>
    some failure.message
  | badManifest _ reason | badConfig _ reason => some reason.message
  | compilation _ error => some error.message

end ManifestError

namespace CompilerConfig

/-- Read a configuration file.  A file that is not there is the default
configuration. -/
def load (texts : FileTexts) (path : String) :
    Except ManifestError CompilerConfig :=
  match texts path with
  | .ok text => (ofText text).mapError (.badConfig path)
  | .error failure =>
    if failure.exists? then .error (.unreadableConfig path failure) else .ok {}

end CompilerConfig

/-- What compiling a manifest comes to, with the events on the way. -/
structure Compilation where
  log : List Event
  outcome : Except ManifestError RouteNode

namespace Manifest

/-- Read a manifest file. -/
def load (texts : FileTexts) (path : String) : Except ManifestError Manifest :=
  match texts path with
  | .ok text => (ofText text).mapError (.badManifest path)
  | .error failure => .error (.unreadableManifest path failure)

/-- The configuration in force: the one of the configuration file if one is
asked for, else the one of the manifest, made strict on demand. -/
def effectiveConfig (texts : FileTexts) (manifest : Manifest)
    (configPath : Option String) (strict : Bool) :
    Except ManifestError CompilerConfig := do
  let config ←
    match configPath with
    | some path => CompilerConfig.load texts path
    | none => .ok manifest.compiler
  return if strict then config.strict else config

/-- Whether there is something under a name. -/
def isPresent (texts : FileTexts) (path : String) : Bool :=
  match texts path with
  | .ok _ => true
  | .error failure => failure.exists?

/-- Read a manifest and the configuration in force. -/
def prepare (texts : FileTexts) (path : String) (configPath : Option String)
    (strict : Bool) : Except ManifestError (Manifest × CompilerConfig) := do
  match configPath with
  | some config =>
    if !isPresent texts config then
      throw (.missingConfig config)
  | none => pure ()
  let manifest ← load texts path
  let config ← effectiveConfig texts manifest configPath strict
  return (manifest, config)

/-- Compile a manifest file. -/
def compileFile (texts : FileTexts) (path : String) (configPath : Option String)
    (strict : Bool) : Compilation :=
  match prepare texts path configPath strict with
  | .error error => { log := [], outcome := .error error }
  | .ok (manifest, config) =>
    let compiled := compile config manifest.files
    { log :=
        .compilingManifest manifest.files.size path config.routing.rootPrefix ::
          compiled.log
      outcome := compiled.outcome.mapError (.compilation path) }

end Manifest
end FileRoutes
