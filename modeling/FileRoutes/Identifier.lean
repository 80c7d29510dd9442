import FileRoutes.Text.Split

/-!
# Identifiers

Files are discovered under identifiers whose components are separated by
slashes or backslashes.  The canonical form has single slashes between its
components, none at either end, and no component that is a lone dot.
-/

namespace FileRoutes
namespace Identifier

/-- The components of an identifier: nonempty pieces that are not a lone
dot. -/
def components (identifier : String) : List String :=
  (Text.pieces Text.isSeparator identifier).filter fun component =>
    component ≠ "" && component ≠ "."

/-- Whether an identifier is in canonical form, by inspection of the text. -/
def isCanonical (identifier : String) : Bool :=
  let characters := identifier.toList
  characters.isEmpty ||
    (!characters.contains '\\' && !Text.hasDoubledSlash characters &&
      !characters.head?.any Text.isSlash && !characters.getLast?.any Text.isSlash &&
      !(Text.pieces Text.isSlash identifier).contains ".")

/-- An identifier with slashes in place of its backslashes. -/
def withSlashes (identifier : String) : String :=
  String.ofList (identifier.toList.map fun character =>
    if character = '\\' then '/' else character)

/-- Bring an identifier into canonical form.  One that is canonical already is
left as it is. -/
def normalize (identifier : String) : String :=
  if isCanonical identifier then
    identifier
  else
    Text.joinSlash
      ((Text.pieces Text.isSlash (withSlashes identifier)).filter fun component =>
        component ≠ "" && component ≠ ".")

/-- Remove a leading root from an identifier, without the slashes around the
root.  An identifier outside the root is left as it is. -/
def stripRoot (root identifier : String) : String :=
  let beginning := Text.trim Text.isSlash root.toList
  if beginning.isEmpty then
    identifier
  else
    match beginning.isPrefixOf? identifier.toList with
    | some [] => ""
    | some (character :: rest) =>
      if Text.isSlash character then String.ofList rest else identifier
    | none => identifier

end Identifier
end FileRoutes
