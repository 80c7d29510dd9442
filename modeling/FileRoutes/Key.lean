import FileRoutes.Text.Split

/-!
# Lookup keys

Folders and routes are looked up by their names joined with slashes.  The
ancestors of a key are the key itself, then each key that is left when its
last name is dropped, down to the empty key.
-/

namespace FileRoutes
namespace Key

/-- The key left when the last name is dropped. -/
def parent (key : List Char) : List Char :=
  ((key.reverse.dropWhile fun character => !Text.isSlash character).drop 1).reverse

theorem parent_length_lt {key : List Char} (nonempty : key ≠ []) :
    (parent key).length < key.length := by
  have positive := List.length_pos_iff.mpr nonempty
  have bound := (List.dropWhile_sublist (l := key.reverse)
    fun character => !Text.isSlash character).length_le
  simp only [parent, List.length_reverse, List.length_drop] at *
  omega

/-- The ancestors of a key given by its characters. -/
def ancestorCharacters : List Char -> List (List Char)
  | [] => [[]]
  | character :: rest =>
    (character :: rest) :: ancestorCharacters (parent (character :: rest))
termination_by key => key.length
decreasing_by exact parent_length_lt (by simp)

/-- A key and all keys above it, nearest first; the last one is the empty
key. -/
def ancestors (key : String) : List String :=
  (ancestorCharacters key.toList).map String.ofList

/-- The last name of a key. -/
def lastName (key : String) : String :=
  String.ofList
    (key.toList.reverse.takeWhile fun character =>
      !Text.isSlash character).reverse

end Key
end FileRoutes
