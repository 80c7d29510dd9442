import FileRoutes.Toml.Scalar

/-!
# Quoted texts

Basic texts stand between double quotes and know escapes, literal texts stand
between apostrophes and know none.  Tripled quotes allow line breaks; a line
break right after the opening quotes is dropped.
-/

namespace FileRoutes
namespace Toml

open Reader
open Text (isDigit isHexDigit numberOf)

/-- Whether a character is a blank within a line. -/
def isLineBlank (character : Char) : Bool :=
  character == ' ' || character == '\t'

/-- Whether a character may stand in a comment or a text: a tab or any
character but the control characters of ASCII. -/
def isPlain (character : Char) : Bool :=
  character == '\t' || (0x20 ≤ character.toNat && character.toNat != 0x7f)

/-- A line break. -/
def lineBreak : Reader Unit :=
  literal "\n" <|> literal "\r\n"

/-- Blanks within a line. -/
def blanks : Reader Unit := do
  let _ ← zeroOrMore isLineBlank
  return ()

/-- A character given by a count of hexadecimal digits. -/
def codePoint (count : Nat) : Reader Char :=
  verified (exactly count isHexDigit) fun digits =>
    let code := numberOf 16 digits
    if code.isValidChar then some (Char.ofNat code) else none

/-- An escape in a basic text. -/
def escape : Reader Char := do
  let _ ← character '\\'
  let mark ← satisfying fun _ => true
  match mark with
  | 'b' => return '\x08'
  | 't' => return '\t'
  | 'n' => return '\n'
  | 'f' => return '\x0c'
  | 'r' => return '\r'
  | '"' => return '"'
  | '\\' => return '\\'
  | 'u' => codePoint 4
  | 'U' => codePoint 8
  | _ => failure

/-- An escape as a chunk of a text. -/
def escaped : Reader (List Char) := do
  let found ← escape
  return [found]

/-- A text on one line between double quotes. -/
def basicText : Reader String := do
  let _ ← character '"'
  let chunks ← many
    (oneOrMore (fun found => isPlain found && found != '"' && found != '\\') <|>
      escaped)
  let _ ← character '"'
  return String.ofList chunks.flatten

/-- A text on one line between apostrophes. -/
def literalText : Reader String := do
  let _ ← character '\''
  let characters ← zeroOrMore fun found => isPlain found && found != '\''
  let _ ← character '\''
  return String.ofList characters

/-- A backslash at the end of a line, with all white space after it. -/
def continuation : Reader (List Char) := do
  let _ ← character '\\'
  blanks
  lineBreak
  let _ ← many (lineBreak <|> (oneOrMore isLineBlank *> pure ()))
  return []

/-- One or two quotes inside a text between tripled quotes. -/
def innerQuotes (quote : Char) : Reader (List Char) :=
  fun input =>
    let run := input.takeWhile (· == quote)
    if run = [] || 3 ≤ run.length then none
    else some (run, input.dropWhile (· == quote))

/-- The quotes that close a text between tripled quotes; up to two more in
front belong to the text. -/
def closingQuotes (quote : Char) : Reader (List Char) :=
  fun input =>
    let run := input.takeWhile (· == quote)
    if 3 ≤ run.length && run.length ≤ 5 then
      some (run.drop 3, input.dropWhile (· == quote))
    else none

/-- A text between tripled quotes, from the readers of its escapes. -/
def tripledText (quote : Char) (escapes : Reader (List Char))
    (isText : Char -> Bool) : Reader String := do
  let _ ← exactly 3 (· == quote)
  let _ ← optional lineBreak
  let chunks ← many
    (oneOrMore isText <|> escapes <|> (lineBreak *> pure ['\n']) <|>
      innerQuotes quote)
  let last ← closingQuotes quote
  return String.ofList (chunks.flatten ++ last)

/-- A text between tripled double quotes. -/
def tripledBasicText : Reader String :=
  tripledText '"' (continuation <|> escaped)
    fun found => isPlain found && found != '"' && found != '\\'

/-- A text between tripled apostrophes. -/
def tripledLiteralText : Reader String :=
  tripledText '\'' failure fun found => isPlain found && found != '\''

/-- A text in any of the four forms. -/
def quotation : Reader String :=
  tripledBasicText <|> basicText <|> tripledLiteralText <|> literalText

/-- One name of a key. -/
def simpleKey : Reader String :=
  basicText <|> literalText <|> (do
    let name ← oneOrMore fun found =>
      isDigit found || ('a' ≤ found && found ≤ 'z') ||
        ('A' ≤ found && found ≤ 'Z') || found == '-' || found == '_'
    return String.ofList name)

/-- The number of names in a key and the depth of nested values stay below
this limit. -/
def nestingLimit : Nat := 80

/-- A key: names with dots between them. -/
def key : Reader (List String) :=
  verified
    (separated (blanks *> simpleKey <* blanks) (character '.'))
    fun names => if names.length < nestingLimit then some names else none

end Toml
end FileRoutes
