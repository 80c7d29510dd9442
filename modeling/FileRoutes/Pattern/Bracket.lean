import FileRoutes.Pattern.Escape

/-!
# Brackets of patterns

Brackets hold a set of characters: single ones, ranges, named classes and
further brackets.  Operators between members take the common part, the
difference or the symmetric difference of what stands on their two sides.
-/

namespace FileRoutes
namespace Pattern

/-- The result of a step of a reader: it goes on from a state, or it is done. -/
inductive Progress (σ α : Type)
  | more (state : σ) (rest : List Char)
  | done (result : α) (rest : List Char)

/-- Take steps until one is done.  Each step takes at least one character. -/
def advance? {σ α : Type} (step : σ -> List Char -> Option (Progress σ α))
    (state : σ) (text : List Char) : Option (α × List Char) :=
  match step state text with
  | none => none
  | some (.done result rest) => some (result, rest)
  | some (.more next rest) =>
    if rest.length < text.length then advance? step next rest else none
termination_by text.length

/-- A bracket that has been opened. -/
structure Bracket where
  /-- Whether it stands for all characters that are not in its set. -/
  negated : Bool
  /-- Whether nothing but dashes has been read since it was opened. -/
  fresh : Bool := true
  /-- How deeply the left side of the last operator is nested, if there is
  one. -/
  left : Option Nat := none
  /-- The number of members since then. -/
  members : Nat := 0
  /-- How deeply these members are nested. -/
  depth : Nat := 0

namespace Bracket

/-- Take in a member. -/
def add (bracket : Bracket) (depth : Nat) : Bracket :=
  { bracket with
    members := bracket.members + 1
    depth := max bracket.depth depth }

/-- How deeply the members since the last operator are nested, together. -/
def right (bracket : Bracket) : Nat :=
  if bracket.members ≤ 1 then bracket.depth else bracket.depth + 1

/-- How deeply the set is nested. -/
def setDepth (bracket : Bracket) : Nat :=
  match bracket.left with
  | none => bracket.right
  | some left => max left bracket.right + 1

/-- Take in an operator. -/
def operate (bracket : Bracket) : Bracket :=
  { bracket with left := some bracket.setDepth, members := 0, depth := 0 }

end Bracket

/-- Open a bracket after its mark. -/
def openBracket (mode : Mode) (text : List Char) : Bracket × List Char :=
  match mode.skip text with
  | '^' :: rest => ({ negated := true }, rest)
  | rest => ({ negated := false }, rest)

/-- The names of the classes of ASCII. -/
def classNames : List String :=
  ["alnum", "alpha", "ascii", "blank", "cntrl", "digit", "graph", "lower",
    "print", "punct", "space", "upper", "word", "xdigit"]

/-- Read a named class after its bracket; true stands for its negation. -/
def readNamedClass? : List Char -> Option (Bool × List Char)
  | ':' :: text =>
    let (negated, text) :=
      match text with
      | '^' :: rest => (true, rest)
      | _ => (false, text)
    match text.dropWhile (· != ':') with
    | ':' :: ']' :: rest =>
      if classNames.contains (String.ofList (text.takeWhile (· != ':'))) then
        some (negated, rest)
      else none
    | _ => none
  | _ => none

/-- Read a single member of a set: a character with its code point, or a
class. -/
def readMember? (mode : Mode) : List Char -> Option (Option Nat × List Char)
  | [] => none
  | '\\' :: rest => do
    let (escape, rest) ← readEscape? mode rest
    match escape with
    | .character code => if isMember code then some (some code, rest) else none
    | .charClass => some (none, rest)
    | .place => none
  | character :: rest =>
    if isMember character.toNat then some (some character.toNat, rest) else none
where
  /-- Whether a set can hold a character. -/
  isMember (code : Nat) : Bool :=
    mode.unicode || code ≤ 0x7f

/-- The character that decides whether a dash makes a range: the next one, or
in verbose mode the next one after blanks and one hash. -/
def afterDash? (mode : Mode) (text : List Char) : Option Char :=
  if mode.verbose then
    match text.dropWhile Text.isBlank with
    | '#' :: rest => (rest.dropWhile Text.isBlank).head?
    | rest => rest.head?
  else text.head?

/-- Read a member of a set or a range of characters, and return what is
left. -/
def readRange? (mode : Mode) (text : List Char) : Option (List Char) := do
  let (first, rest) ← readMember? mode text
  match mode.skip rest with
  | '-' :: others =>
    let mark := afterDash? mode others
    if mark == some ']' || mark == some '-' then some rest
    else do
      let (last, rest) ← readMember? mode (mode.skip others)
      match first, last with
      | some first, some last => if first ≤ last then some rest else none
      | _, _ => none
  | _ => some rest

/-- The bracket that is being read and those around it. -/
structure Brackets where
  current : Bracket
  outer : List Bracket := []

namespace Brackets

/-- Take in a member that holds characters. -/
def add? (brackets : Brackets) (mode : Mode) (rest : List Char) :
    Option (Progress Brackets Nat) :=
  if mode.distinguishes then
    some (.more { brackets with current := brackets.current.add 0 } rest)
  else none

/-- Close the current bracket.  For bytes it cannot be negated, because it
would hold parts of characters. -/
def close? (brackets : Brackets) (mode : Mode) (rest : List Char) :
    Option (Progress Brackets Nat) :=
  let negated := brackets.current.negated
  let depth := brackets.current.setDepth + 1
  if negated && !mode.unicode then none
  else
    match brackets.outer with
    | [] => some (.done depth rest)
    | parent :: outer =>
      if negated && !mode.distinguishes then none
      else some (.more { current := parent.add depth, outer := outer } rest)

/-- Take one step.  Dashes at the front are members, and so is a closing mark
that is the very first. -/
def step? (mode : Mode) (brackets : Brackets) (text : List Char) :
    Option (Progress Brackets Nat) :=
  let current := brackets.current
  let settled := { brackets with current := { current with fresh := false } }
  match mode.skip text with
  | [] => none
  | mark :: rest =>
    if current.fresh && mark == '-' then brackets.add? mode rest
    else if mark == ']' then
      if current.fresh && current.members = 0 then settled.add? mode rest
      else settled.close? mode rest
    else if mark == '[' then
      match readNamedClass? rest with
      | some (negated, rest) =>
        if negated && !mode.unicode then none else settled.add? mode rest
      | none =>
        let (opened, rest) := openBracket mode rest
        some (.more { current := opened, outer := settled.current :: settled.outer } rest)
    else if ['&', '-', '~'].contains mark && rest.head? == some mark then
      some (.more { settled with current := settled.current.operate } (rest.drop 1))
    else do
      let rest ← readRange? mode (mark :: rest)
      settled.add? mode rest

end Brackets

/-- Read brackets after their first mark; the result is how deeply they are
nested. -/
def readBrackets? (mode : Mode) (text : List Char) : Option (Nat × List Char) :=
  let (opened, rest) := openBracket mode text
  advance? (Brackets.step? mode) { current := opened } rest

end Pattern
end FileRoutes
