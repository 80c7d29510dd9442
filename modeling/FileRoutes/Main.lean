import FileRoutes.Command.Run

/-!
# The command

The command reads the files that its command line names, runs on their texts
and writes what the run comes to: the log and the errors to the one stream,
the output to the other.
-/

namespace FileRoutes
namespace Command

/-- The failure behind an error of the system. -/
def failureOf : IO.Error -> FileFailure
  | .permissionDenied _ _ _ => .notPermitted
  | .invalidArgument _ _ _ => .nameTooLong
  | .inappropriateType _ code _ =>
    if code = 21 then .isADirectory else .notADirectory
  | _ => .notFound

/-- Read the text of a file. -/
def readText (name : String) : IO (Except FileFailure String) := do
  try
    let bytes ← IO.FS.readBinFile name
    match String.fromUTF8? bytes with
    | some text => return .ok text
    | none => return .error .notText
  catch error =>
    return .error (failureOf error)

/-- The names of the files that a command line refers to. -/
def fileNames (arguments : List String) : List String :=
  match Invocation.ofArguments arguments with
  | .ok invocation => invocation.manifest :: invocation.config.toList
  | .error _ => []

/-- Read files in advance; no others can be read afterwards. -/
def readTexts : List String -> IO FileTexts
  | [] => return fun _ => .error .notFound
  | name :: rest => do
    let text ← readText name
    let others ← readTexts rest
    return fun other => if other = name then text else others other

/-- An event as the log shows it. -/
def logLine (event : Event) : String :=
  event.level.name ++ " " ++ terminalText event

end Command
end FileRoutes

/-- Run the command. -/
def main (arguments : List String) : IO UInt32 := do
  let texts ← FileRoutes.Command.readTexts (FileRoutes.Command.fileNames arguments)
  let setting ← IO.getEnv "RUST_LOG"
  let plain ← IO.getEnv "NO_COLOR"
  let output ← IO.getStdout
  let errors ← IO.getStderr
  let terminal ← output.isTty
  let outcome :=
    FileRoutes.Command.run texts (terminal && plain.isNone) setting arguments
  for event in outcome.log do
    errors.putStrLn (FileRoutes.Command.logLine event)
  output.putStr outcome.output
  errors.putStr outcome.errors
  return UInt32.ofNat outcome.exit
