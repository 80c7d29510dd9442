import FileRoutes.Pattern.Mode
import FileRoutes.Text.Digit

/-!
# Escapes of patterns

A backslash gives a meaning to the letter after it and takes the meaning from
a mark.
-/

namespace FileRoutes
namespace Pattern

/-- What an escape stands for. -/
inductive Escape
  /-- One character, by its code point. -/
  | character (code : Nat)
  /-- A class of characters. -/
  | charClass
  /-- A place between characters. -/
  | place
deriving DecidableEq, Repr

/-- Read a number of so many hexadecimal digits. -/
def readHexadecimal? (mode : Mode) (value : Nat) :
    Nat -> List Char -> Option (Nat × List Char)
  | 0, text => some (value, text)
  | count + 1, text =>
    match mode.skip text with
    | [] => none
    | digit :: rest =>
      if Text.isHexDigit digit then
        readHexadecimal? mode (16 * value + Text.digitValue digit) count rest
      else none

/-- The code points of the control characters that have a letter. -/
def controlCodes : List (Char × Nat) :=
  [('a', 0x07), ('f', 0x0c), ('t', 0x09), ('n', 0x0a), ('r', 0x0d), ('v', 0x0b)]

/-- Read an escape after its backslash.  The classes of words, digits and
blanks and the borders of words are those of ASCII, so that they are there
only for bytes. -/
def readEscape? (mode : Mode) : List Char -> Option (Escape × List Char)
  | [] => none
  | mark :: rest =>
    match mark with
    | 'x' => do
      let (code, rest) ← readHexadecimal? mode 0 2 rest
      if mode.unicode || code ≤ 0x7f then some (.character code, rest) else none
    | 'u' => readCodePoint 4 rest
    | 'U' => readCodePoint 8 rest
    | 'd' | 's' | 'w' => if mode.unicode then none else some (.charClass, rest)
    | 'b' | 'B' | '<' | '>' => if mode.unicode then none else some (.place, rest)
    | 'A' | 'z' => some (.place, rest)
    | _ =>
      match controlCodes.lookup mark with
      | some code => some (.character code, rest)
      | none =>
        if mark.toNat ≤ 0x7f && !mark.isAlphanum then
          some (.character mark.toNat, rest)
        else none
where
  /-- Read a code point of so many digits. -/
  readCodePoint (count : Nat) (text : List Char) : Option (Escape × List Char) := do
    let (code, rest) ← readHexadecimal? mode 0 count text
    if code.isValidChar then some (.character code, rest) else none

end Pattern
end FileRoutes
