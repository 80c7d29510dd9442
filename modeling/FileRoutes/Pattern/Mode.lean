import FileRoutes.Text.Blank

/-!
# Modes of patterns

Patterns are regular expressions.  Switches inside a pattern decide how what
follows is read: whether case counts, whether the pattern is about characters
or about bytes, and whether blanks and comments are skipped.

No tables of letters come with patterns.  What would need them is refused:
ignoring case among characters, and the classes of digits, blanks and words
other than those of ASCII.
-/

namespace FileRoutes
namespace Pattern

/-- How a part of a pattern is read. -/
structure Mode where
  /-- Whether upper and lower case are the same. -/
  ignoresCase : Bool := false
  /-- Whether the pattern is about characters; otherwise it is about bytes. -/
  unicode : Bool := true
  /-- Whether blanks and comments are skipped. -/
  verbose : Bool := false
deriving DecidableEq, Repr

/-- Drop blanks and comments from the front.  A comment starts with a hash and
ends with its line. -/
def dropComments (inComment : Bool) : List Char -> List Char
  | [] => []
  | character :: rest =>
    if inComment then dropComments (character != '\n') rest
    else if Text.isBlank character then dropComments false rest
    else if character == '#' then dropComments true rest
    else character :: rest

namespace Mode

/-- Drop what the mode skips from the front. -/
def skip (mode : Mode) (text : List Char) : List Char :=
  if mode.verbose then dropComments false text else text

/-- Whether single characters can be told apart as the mode asks for. -/
def distinguishes (mode : Mode) : Bool :=
  !(mode.ignoresCase && mode.unicode)

end Mode

/-- The letters of the switches. -/
def switchLetters : List Char :=
  ['i', 'm', 's', 'U', 'u', 'R', 'x']

/-- Read switches up to the mark that ends them.  Each letter and the dash that
switches off stand there once at most, and the dash has a letter after it. -/
def readSwitches? (seen : List Char) :
    List Char -> Option (List Char × Char × List Char)
  | [] => none
  | mark :: rest =>
    if mark == ':' || mark == ')' then
      if seen.getLast? == some '-' then none else some (seen, mark, rest)
    else if ('-' :: switchLetters).contains mark && !seen.contains mark then
      readSwitches? (seen ++ [mark]) rest
    else none

/-- Where a switch stands after switches have been read: those behind the dash
are off. -/
def switched (switches : List Char) (letter : Char) (before : Bool) : Bool :=
  if switches.contains letter then
    (switches.takeWhile (· != '-')).contains letter
  else before

/-- The mode after switches have been read. -/
def Mode.switch (mode : Mode) (switches : List Char) : Mode :=
  { ignoresCase := switched switches 'i' mode.ignoresCase
    unicode := switched switches 'u' mode.unicode
    verbose := switched switches 'x' mode.verbose }

end Pattern
end FileRoutes
