/-!
# Cutting and joining text

Texts are cut at separator characters into pieces and joined again with a
slash.  A text always has at least one piece, and pieces may be empty.
-/

namespace FileRoutes
namespace Text

/-- Cut a character list at every separator; the separators are dropped. -/
def splitAt (isSeparator : Char -> Bool) : List Char -> List (List Char)
  | [] => [[]]
  | character :: rest =>
    if isSeparator character then
      [] :: splitAt isSeparator rest
    else
      match splitAt isSeparator rest with
      | [] => [[character]]
      | piece :: pieces => (character :: piece) :: pieces

@[simp] theorem splitAt_nil (isSeparator : Char -> Bool) :
    splitAt isSeparator [] = [[]] := rfl

theorem splitAt_ne_nil (isSeparator : Char -> Bool) (characters : List Char) :
    splitAt isSeparator characters ≠ [] := by
  cases characters with
  | nil => simp
  | cons character rest =>
    unfold splitAt
    split
    · simp
    · split <;> simp

/-- Cut a text at every separator. -/
def pieces (isSeparator : Char -> Bool) (text : String) : List String :=
  (splitAt isSeparator text.toList).map String.ofList

/-- The slash, which separates the components of a normalized identifier. -/
def isSlash (character : Char) : Bool :=
  character == '/'

/-- Slash or backslash, the separators of identifiers as discovered. -/
def isSeparator (character : Char) : Bool :=
  character == '/' || character == '\\'

/-- Join pieces with slashes. -/
def joinSlash (parts : List String) : String :=
  "/".intercalate parts

/-- Characters before and after the last occurrence of `mark`, if there is
one. -/
def splitLast (mark : Char) (characters : List Char) :
    Option (List Char × List Char) :=
  let reversed := characters.reverse
  match reversed.dropWhile (· != mark) with
  | [] => none
  | _ :: before =>
    some (before.reverse, (reversed.takeWhile (· != mark)).reverse)

/-- Drop every leading and trailing character that satisfies a test. -/
def trim (test : Char -> Bool) (characters : List Char) : List Char :=
  ((characters.dropWhile test).reverse.dropWhile test).reverse

/-- Whether two neighbouring characters are both slashes. -/
def hasDoubledSlash : List Char -> Bool
  | first :: second :: rest =>
    (isSlash first && isSlash second) || hasDoubledSlash (second :: rest)
  | _ => false

/-- Number of bytes in the UTF-8 form of a text. -/
def byteLength (text : String) : Nat :=
  text.utf8ByteSize

/-- Split a text after a number of bytes of its UTF-8 form; none when that is
inside a character or behind the end. -/
def splitAtByte? (count : Nat) : List Char -> Option (List Char × List Char)
  | [] => if count = 0 then some ([], []) else none
  | character :: rest =>
    if count = 0 then some ([], character :: rest)
    else if count < character.utf8Size then none
    else
      (splitAtByte? (count - character.utf8Size) rest).map
        fun (front, back) => (character :: front, back)

end Text
end FileRoutes
