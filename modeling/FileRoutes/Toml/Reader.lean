/-!
# Readers

A reader takes a value from the front of a character list and leaves the
rest, or refuses.  A refused reader leaves the characters to the next choice.
-/

namespace FileRoutes
namespace Toml

/-- A reader of values from the front of a character list. -/
abbrev Reader (α : Type) := StateT (List Char) Option α

namespace Reader

/-- Read one character that satisfies a test. -/
def satisfying (test : Char -> Bool) : Reader Char
  | [] => none
  | character :: rest => if test character then some (character, rest) else none

/-- Read one given character. -/
def character (expected : Char) : Reader Char :=
  satisfying (· == expected)

/-- Read a given text. -/
def literal (expected : String) : Reader Unit :=
  fun input => (expected.toList.isPrefixOf? input).map fun rest => ((), rest)

/-- Read as many characters as satisfy a test, perhaps none. -/
def zeroOrMore (test : Char -> Bool) : Reader (List Char) :=
  fun input => some (input.takeWhile test, input.dropWhile test)

/-- Read as many characters as satisfy a test, at least one. -/
def oneOrMore (test : Char -> Bool) : Reader (List Char) :=
  fun input =>
    match input.takeWhile test with
    | [] => none
    | found => some (found, input.dropWhile test)

/-- Read exactly `count` characters that satisfy a test. -/
def exactly (count : Nat) (test : Char -> Bool) : Reader (List Char) :=
  fun input =>
    let found := (input.take count).takeWhile test
    if found.length = count then some (found, input.drop count) else none

/-- Succeed without reading when the reader would. -/
def ahead {α : Type} (reader : Reader α) : Reader Unit :=
  fun input => (reader input).map fun _ => ((), input)

/-- Read values for as long as each takes at least one character. -/
def repeated {α : Type} (reader : Reader α) (input : List Char) :
    List α × List Char :=
  match reader input with
  | none => ([], input)
  | some (value, rest) =>
    if rest.length < input.length then
      let others := repeated reader rest
      (value :: others.1, others.2)
    else
      ([value], rest)
termination_by input.length

/-- Read values until the reader refuses, perhaps none. -/
def many {α : Type} (reader : Reader α) : Reader (List α) :=
  fun input => some (repeated reader input)

/-- Read values with a separator between each two, at least one value.  A
separator without a value after it is left unread. -/
def separated {α β : Type} (value : Reader α) (separator : Reader β) :
    Reader (List α) := do
  let first ← value
  let others ← many (separator *> value)
  return first :: others

/-- Succeed at the end of the input only. -/
def atEnd : Reader Unit
  | [] => some ((), [])
  | _ :: _ => none

/-- Refuse a value that fails a test. -/
def verified {α β : Type} (reader : Reader α) (test : α -> Option β) : Reader β :=
  fun input => do
    let (value, rest) ← reader input
    let result ← test value
    return (result, rest)

end Reader
end Toml
end FileRoutes
