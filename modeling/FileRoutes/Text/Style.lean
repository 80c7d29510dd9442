/-!
# Terminal styles

A styled word stands between an escape sequence that switches its styles on
and one that resets them.  Where styles are off the word stands alone.
-/

namespace FileRoutes
namespace Text

/-- A style of the terminal. -/
inductive Style
  | bold
  | dimmed
  | red
  | green
  | yellow
  | magenta
  | cyan
deriving DecidableEq, Repr

namespace Style

/-- The number that selects a style. -/
def code : Style -> String
  | bold => "1"
  | dimmed => "2"
  | red => "31"
  | green => "32"
  | yellow => "33"
  | magenta => "35"
  | cyan => "36"

end Style

/-- The sequence that ends every style. -/
def resetSequence : String :=
  "\x1b[0m"

/-- The sequence that starts the given styles. -/
def styleSequence (styles : List Style) : String :=
  "\x1b[" ++ ";".intercalate (styles.map Style.code) ++ "m"

/-- Repeat a sequence after every occurrence of a nonempty mark; `skip`
characters of the mark found last are still to be copied. -/
def repeatAfter (mark sequence : List Char) (skip : Nat) :
    List Char -> List Char
  | [] => []
  | character :: rest =>
    match skip with
    | 0 =>
      if mark.isPrefixOf (character :: rest) then
        match mark.length with
        | 0 => character :: repeatAfter mark sequence 0 rest
        | 1 => character :: sequence ++ repeatAfter mark sequence 0 rest
        | length + 2 => character :: repeatAfter mark sequence (length + 1) rest
      else
        character :: repeatAfter mark sequence 0 rest
    | 1 => character :: sequence ++ repeatAfter mark sequence 0 rest
    | remaining + 2 => character :: repeatAfter mark sequence (remaining + 1) rest

/-- Write a word in the given styles, when styles are on.  A reset inside the
word is followed by the styles again. -/
def paint (enabled : Bool) (styles : List Style) (word : String) : String :=
  if enabled then
    let start := styleSequence styles
    let inner := repeatAfter resetSequence.toList start.toList 0 word.toList
    start ++ String.ofList inner ++ resetSequence
  else
    word

@[simp] theorem paint_disabled (styles : List Style) (word : String) :
    paint false styles word = word := rfl

end Text
end FileRoutes
