import FileRoutes.Pattern.Bracket
import FileRoutes.Text.Alphabetic

/-!
# Patterns

A pattern is a regular expression: alternatives of parts that may be repeated,
with groups in parentheses.  There is nothing here to match a pattern against,
so all that counts is whether it is well formed: its marks are in place, and
it is nested no deeper than the limit.
-/

namespace FileRoutes
namespace Pattern

/-- How deeply a pattern may be nested. -/
def nestingLimit : Nat := 250

/-- What has been read of a group. -/
structure Content where
  /-- How deeply the alternatives before the last one are nested, if there
  are any. -/
  alternatives : Option Nat := none
  /-- The number of parts of the last alternative. -/
  parts : Nat := 0
  /-- How deeply these parts are nested. -/
  depth : Nat := 0
  /-- How deeply the last part is nested, if it can be repeated. -/
  last : Option Nat := none

namespace Content

/-- Take in a part. -/
def add (content : Content) (depth : Nat) : Content :=
  { content with
    parts := content.parts + 1
    depth := max content.depth depth
    last := some depth }

/-- Take in a change of switches, which cannot be repeated. -/
def addSwitches (content : Content) : Content :=
  { content.add 0 with last := none }

/-- How deeply the last alternative is nested. -/
def sequenceDepth (content : Content) : Nat :=
  if content.parts ≤ 1 then content.depth else content.depth + 1

/-- How deeply the content is nested. -/
def nesting (content : Content) : Nat :=
  match content.alternatives with
  | none => content.sequenceDepth
  | some before => max before content.sequenceDepth + 1

/-- Begin another alternative. -/
def alternate (content : Content) : Content :=
  { alternatives :=
      some (max (content.alternatives.getD 0) content.sequenceDepth) }

/-- Repeat the last part. -/
def repeat? (content : Content) : Option Content :=
  content.last.map fun depth =>
    { content with
      depth := max content.depth (depth + 1)
      last := some (depth + 1) }

end Content

/-- The state of reading a pattern. -/
structure State where
  mode : Mode := {}
  content : Content := {}
  /-- The groups around the current one, with the modes to return to. -/
  outer : List (Mode × Content) := []
  /-- The names of groups so far. -/
  names : List (List Char) := []

/-- Whether a text can be the name of a group. -/
def isGroupName : List Char -> Bool
  | [] => false
  | first :: others =>
    (first == '_' || Text.isAlphabetic first) &&
      others.all fun character =>
        ['_', '.', '[', ']'].contains character || Text.isAlphanumeric character

namespace State

/-- Go on after a change of the content. -/
def withContent (state : State) (content : Content) (rest : List Char) :
    Progress State Nat :=
  .more { state with content := content } rest

/-- Take in a part without inner structure. -/
def add (state : State) (rest : List Char) : Progress State Nat :=
  state.withContent (state.content.add 0) rest

/-- Take in a character. -/
def addCharacter? (state : State) (rest : List Char) :
    Option (Progress State Nat) :=
  if state.mode.distinguishes then some (state.add rest) else none

/-- Enter a group. -/
def enter (state : State) (mode : Mode) (rest : List Char) :
    Progress State Nat :=
  .more
    { state with
      mode := mode
      content := {}
      outer := (state.mode, state.content) :: state.outer } rest

/-- Leave a group. -/
def leave? (state : State) (rest : List Char) : Option (Progress State Nat) :=
  match state.outer with
  | [] => none
  | (mode, content) :: outer =>
    some (.more
      { state with
        mode := mode
        content := content.add (state.content.nesting + 1)
        outer := outer } rest)

/-- Enter a group with a name, which no other group has. -/
def enterNamed? (state : State) (text : List Char) : Option (Progress State Nat) :=
  let name := text.takeWhile (· != '>')
  match text.dropWhile (· != '>') with
  | [] => none
  | _ :: rest =>
    if isGroupName name && !state.names.contains name then
      some ({ state with names := name :: state.names }.enter state.mode rest)
    else none

/-- Read what follows an opening parenthesis: a name, switches for the group
or for the rest of the group around it, or just the group. -/
def openGroup? (state : State) (text : List Char) : Option (Progress State Nat) :=
  match state.mode.skip text with
  | '?' :: 'P' :: '<' :: rest => state.enterNamed? rest
  | '?' :: '<' :: rest => state.enterNamed? rest
  | '?' :: rest => do
    let (switches, mark, rest) ← readSwitches? [] rest
    let mode := state.mode.switch switches
    if mark == ':' then some (state.enter mode rest)
    else if switches.isEmpty then none
    else
      some (.more
        { state with mode := mode, content := state.content.addSwitches } rest)
  | rest => some (state.enter state.mode rest)

/-- Take in an escape. -/
def addEscape? (state : State) (text : List Char) : Option (Progress State Nat) := do
  let (escape, rest) ← readEscape? state.mode text
  match escape with
  | .character _ => state.addCharacter? rest
  | .charClass | .place => some (state.add rest)

/-- Take one step; at the end the result is how deeply the pattern is nested.
An opening brace would have to be closed, and no pattern holds a closing
brace. -/
def step? (state : State) (text : List Char) : Option (Progress State Nat) :=
  match state.mode.skip text with
  | [] =>
    if state.outer.isEmpty then some (.done state.content.nesting []) else none
  | mark :: rest =>
    match mark with
    | '(' => state.openGroup? rest
    | ')' => state.leave? rest
    | '|' => some (state.withContent state.content.alternate rest)
    | '[' => do
      let (depth, rest) ← readBrackets? state.mode rest
      some (state.withContent (state.content.add depth) rest)
    | '?' | '*' | '+' => do
      let content ← state.content.repeat?
      let rest := if rest.head? == some '?' then rest.drop 1 else rest
      some (state.withContent content rest)
    | '\x7b' => none
    | '\\' => state.addEscape? rest
    | '.' => if state.mode.unicode then some (state.add rest) else none
    | '^' | '$' => some (state.add rest)
    | _ => state.addCharacter? rest

end State

/-- Whether a text without a closing brace is a pattern. -/
def isWellFormed (text : List Char) : Bool :=
  match advance? State.step? {} text with
  | some (depth, _) => depth ≤ nestingLimit
  | none => false

end Pattern
end FileRoutes
