import FileRoutes.Command.Arguments
import FileRoutes.Command.LogFilter
import FileRoutes.Manifest
import FileRoutes.Outline.Printer
import FileRoutes.Summary

/-!
# Running commands

Running a command compiles a manifest and prints the tree or a summary.  What
a run comes to is a value: the exit code, the texts for the two output streams
and the events that the log shows.
-/

namespace FileRoutes
namespace Command

/-- What a run comes to. -/
structure Outcome where
  exit : Nat
  output : String := ""
  log : List Event := []
  errors : String := ""

/-- The text that answers a request for the version. -/
def versionText : String :=
  "trellis 0.1.0\n"

/-- The text that answers a request for help. -/
def helpText : String :=
  "Trellis CLI - compile file-based routes into a route tree\n\n" ++
  "Usage: trellis [OPTIONS] <COMMAND>\n\n" ++
  "Commands:\n" ++
  "  inspect  Compile a route manifest and print the route tree\n" ++
  "  check    Compile a route manifest and report a summary\n" ++
  "  help     Print this message or the help of the given subcommand(s)\n\n" ++
  "Options:\n" ++
  "  -v, --verbose...  Log more (-v info, -vv debug, -vvv trace); " ++
  "RUST_LOG takes precedence\n" ++
  "  -h, --help        Print help\n" ++
  "  -V, --version     Print version\n"

/-- The text that answers a mistake in the command line. -/
def usageText : String :=
  "Usage: trellis [OPTIONS] <COMMAND>\n\nFor more information, try '--help'.\n"

/-- Indent the lines of a text after the first. -/
def indentLines (text : String) : String :=
  String.ofList (text.toList.flatMap fun character =>
    if character = '\n' then "\n    ".toList else [character])

/-- The text that reports a failure. -/
def failureText (error : ManifestError) : String :=
  "Error: " ++ error.message ++
    (match error.cause? with
    | some cause => "\n\nCaused by:\n    " ++ indentLines cause
    | none => "") ++ "\n"

/-- The text of a summary. -/
def summaryText (colored : Bool) (summary : Summary) : String :=
  Text.paint colored [.bold, .green] "✓ Routes compiled" ++ "\n\n" ++
    "Nodes:            " ++ Text.paint colored [.cyan] (toString summary.nodes) ++
    "\nPages:            " ++ toString summary.pages ++
    "\nLayouts:          " ++ toString summary.layouts ++
    "\nDynamic segments: " ++ toString summary.dynamic ++
    "\nError boundaries: " ++ toString summary.errorBoundaries ++
    "\nCatch-alls:       " ++ toString summary.catchAlls ++ "\n" ++
    (if summary.pages = 0 then
      "\n" ++ Text.paint colored [.yellow]
        "⚠ No pages found - every route renders the not-found view" ++ "\n"
    else "")

/-- The text of a tree. -/
def treeText (colored : Bool) (format : Format) (root : RouteNode) : String :=
  match format with
  | .tree => root.outline.render colored
  | .json => root.outline.toValue.pretty ++ "\n"

/-- Run a command. -/
def Invocation.run (texts : FileTexts) (colored : Bool) (setting : Option String)
    (invocation : Invocation) : Outcome :=
  let compilation :=
    Manifest.compileFile texts invocation.manifest invocation.config
      invocation.strict
  let filter := LogFilter.effective setting invocation.verbosity
  let log := compilation.log.filter filter.admits
  match compilation.outcome with
  | .error error => { exit := 1, log := log, errors := failureText error }
  | .ok root =>
    let output :=
      match invocation.verb with
      | .inspect => treeText colored invocation.format root
      | .check => summaryText colored (Summary.ofTree root)
    { exit := 0, output := output, log := log }

/-- Answer a command line that names no command to run. -/
def Refusal.outcome : Refusal -> Outcome
  | .help => { exit := 0, output := helpText }
  | .version => { exit := 0, output := versionText }
  | .usage => { exit := 2, errors := usageText }

/-- Run a command line. -/
def run (texts : FileTexts) (colored : Bool) (setting : Option String)
    (arguments : List String) : Outcome :=
  match Invocation.ofArguments arguments with
  | .error refusal => refusal.outcome
  | .ok invocation => invocation.run texts colored setting

/-- How a character of an event is written to a terminal: characters that
could start a control sequence are written by their codes. -/
def terminalCharacter (character : Char) : List Char :=
  let code := character.toNat
  if code = 0x07 || code = 0x08 then ['\\', 'x', '0'] ++ Text.hexadecimal code
  else if code = 0x0c then ['\\', 'x', '0', 'c']
  else if code = 0x1b || code = 0x7f then ['\\', 'x'] ++ Text.hexadecimal code
  else if 0x80 ≤ code && code ≤ 0x9f then Text.codePointEscape character
  else [character]

/-- The text of an event as the log shows it. -/
def terminalText (event : Event) : String :=
  String.ofList (event.message.toList.flatMap terminalCharacter)

end Command
end FileRoutes
