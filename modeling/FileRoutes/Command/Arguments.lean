/-!
# Command lines

A command line names a command and a manifest and may hold options.  Reading
stops at the first argument that settles the matter: a request for help or for
the version, or a mistake.
-/

namespace FileRoutes
namespace Command

/-- How a tree is printed. -/
inductive Format
  | tree
  | json
deriving DecidableEq, Repr, Inhabited

namespace Format

/-- The format with a name. -/
def ofName? : String -> Option Format
  | "tree" => some tree
  | "json" => some json
  | _ => none

end Format

/-- The commands that take a manifest. -/
inductive Verb
  /-- Print the tree. -/
  | inspect
  /-- Print a summary. -/
  | check
deriving DecidableEq, Repr, Inhabited

namespace Verb

/-- The command with a name. -/
def ofName? : String -> Option Verb
  | "inspect" => some inspect
  | "check" => some check
  | _ => none

end Verb

/-- What a command is asked to do. -/
structure Invocation where
  verb : Verb
  manifest : String
  format : Format := .tree
  config : Option String := none
  strict : Bool := false
  /-- How often more logging was asked for. -/
  verbosity : Nat := 0
deriving DecidableEq, Repr

/-- Why no command is run. -/
inductive Refusal
  | help
  | version
  | usage
deriving DecidableEq, Repr

/-- The result of reading arguments. -/
abbrev Reading (α : Type) := Except Refusal α

/-- What has been read of the arguments of a command. -/
structure Draft where
  verb : Verb
  manifest : Option String := none
  format : Option Format := none
  config : Option String := none
  strict : Bool := false
  verbosity : Option Nat := none

/-- The options that take a value. -/
inductive ValueOption
  | format
  | config
deriving DecidableEq, Repr

namespace Draft

/-- Ask for more logging. -/
def raise (draft : Draft) : Draft :=
  { draft with verbosity := some (draft.verbosity.getD 0 + 1) }

/-- Ask for strict compilation, once. -/
def makeStrict (draft : Draft) : Reading Draft :=
  if draft.strict then .error .usage else .ok { draft with strict := true }

/-- Give the manifest, once; it has a name. -/
def giveManifest (draft : Draft) (name : String) : Reading Draft :=
  if draft.manifest.isSome || name.isEmpty then .error .usage
  else .ok { draft with manifest := some name }

/-- Give the value of an option, once. -/
def give (draft : Draft) (option : ValueOption) (value : String) :
    Reading Draft :=
  match option with
  | .config =>
    if draft.config.isSome || value.isEmpty then .error .usage
    else .ok { draft with config := some value }
  | .format =>
    match draft.format, Format.ofName? value with
    | none, some format => .ok { draft with format := some format }
    | _, _ => .error .usage

/-- The long option with a name that takes a value. -/
def longOption? (draft : Draft) (name : String) : Option ValueOption :=
  if name = "config" then some .config
  else if name = "format" && draft.verb = .inspect then some .format
  else none

/-- The short option with a letter that takes a value. -/
def shortOption? (draft : Draft) (letter : Char) : Option ValueOption :=
  if letter = 'c' then some .config
  else if letter = 'f' && draft.verb = .inspect then some .format
  else none

/-- Take in a long option without a value. -/
def longFlag (draft : Draft) (name : String) : Reading Draft :=
  if name = "verbose" then .ok draft.raise
  else if name = "strict" then draft.makeStrict
  else if name = "help" then .error .help
  else .error .usage

/-- Take in the letters of a short argument.  An option that takes a value
takes the remaining letters, or is left open for the next argument when there
are none. -/
def shortFlags (draft : Draft) :
    List Char -> Reading (Draft × Option ValueOption)
  | [] => .ok (draft, none)
  | letter :: rest =>
    if letter = 'v' then draft.raise.shortFlags rest
    else if letter = 'h' then .error .help
    else
      match draft.shortOption? letter, rest with
      | none, _ => .error .usage
      | some option, [] => .ok (draft, some option)
      | some option, first :: others => do
        let value := if first = '=' then others else first :: others
        let given ← draft.give option (String.ofList value)
        return (given, none)

end Draft

/-- The name of a long argument and its value, if it has one. -/
def splitLong (characters : List Char) : String × Option String :=
  let name := String.ofList (characters.takeWhile (· != '='))
  match characters.dropWhile (· != '=') with
  | [] => (name, none)
  | _ :: value => (name, some (String.ofList value))

/-- The kinds of arguments. -/
inductive Argument
  /-- The mark after which nothing is an option. -/
  | escape
  /-- An option after two dashes. -/
  | long (name : String) (value : Option String)
  /-- Options of one letter after one dash. -/
  | short (letters : List Char)
  | plain (text : String)

/-- Tell the kind of an argument. -/
def Argument.ofText (text : String) : Argument :=
  match text.toList with
  | ['-', '-'] => .escape
  | '-' :: '-' :: rest => .long (splitLong rest).1 (splitLong rest).2
  | '-' :: letter :: rest => .short (letter :: rest)
  | _ => .plain text

/-- Read the arguments of a command.  `opened` is an option whose value is the
next argument, and `escaped` holds after the mark that ends the options. -/
def readCommand (draft : Draft) (opened : Option ValueOption)
    (escaped : Bool) : List String -> Reading Draft
  | [] => if opened.isSome then .error .usage else .ok draft
  | text :: rest =>
    if escaped then do
      let given ← draft.giveManifest text
      readCommand given none true rest
    else
      match Argument.ofText text, opened with
      | .plain value, some option => do
        let given ← draft.give option value
        readCommand given none false rest
      | _, some _ => .error .usage
      | .plain name, none => do
        let given ← draft.giveManifest name
        readCommand given none false rest
      | .escape, none => readCommand draft none true rest
      | .long name value, none =>
        match draft.longOption? name, value with
        | some option, some value => do
          let given ← draft.give option value
          readCommand given none false rest
        | some option, none => readCommand draft (some option) false rest
        | none, none => do
          let given ← draft.longFlag name
          readCommand given none false rest
        | none, some _ => .error .usage
      | .short letters, none => do
        let (given, option) ← draft.shortFlags letters
        readCommand given option false rest

/-- Complete what was read of a command; a verbosity given with the command
counts before one given in front of it. -/
def Draft.complete (draft : Draft) (verbosity : Nat) : Reading Invocation :=
  match draft.manifest with
  | none => .error .usage
  | some manifest =>
    .ok { verb := draft.verb
          manifest := manifest
          format := draft.format.getD .tree
          config := draft.config
          strict := draft.strict
          verbosity := draft.verbosity.getD verbosity }

/-- Count the letters of a short argument in front of the command. -/
def leadingFlags (verbosity : Nat) : List Char -> Reading Nat
  | [] => .ok verbosity
  | letter :: rest =>
    if letter = 'v' then leadingFlags (verbosity + 1) rest
    else if letter = 'V' then .error .version
    else if letter = 'h' then .error .help
    else .error .usage

/-- Read a request for help, which may name one command. -/
def readHelp : List String -> Refusal
  | [] => .help
  | [name] =>
    if (Verb.ofName? name).isSome || name = "help" then .help else .usage
  | _ => .usage

/-- Read a command line. -/
def readArguments (verbosity : Nat) : List String -> Reading Invocation
  | [] => .error .usage
  | text :: rest =>
    match Argument.ofText text with
    | .escape => .error .usage
    | .long "verbose" none => readArguments (verbosity + 1) rest
    | .long "version" none => .error .version
    | .long "help" none => .error .help
    | .long _ _ => .error .usage
    | .short letters => do
      let raised ← leadingFlags verbosity letters
      readArguments raised rest
    | .plain name =>
      match Verb.ofName? name with
      | some verb => do
        let draft ← readCommand { verb := verb } none false rest
        draft.complete verbosity
      | none => .error (if name = "help" then readHelp rest else .usage)

/-- Read a whole command line. -/
def Invocation.ofArguments (arguments : List String) : Reading Invocation :=
  readArguments 0 arguments

end Command
end FileRoutes
