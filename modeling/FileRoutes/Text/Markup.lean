/-!
# Markup

Views render to markup: text and nested elements.  Writing markup escapes the
characters that would end a text or an attribute.
-/

namespace FileRoutes
namespace Text

/-- A fragment of markup. -/
inductive Markup
  | text (content : String)
  | element (tag : String) (attributes : List (String × String))
      (children : List Markup)

namespace Markup

/-- How one character of a text or an attribute is written. -/
def escapeCharacter (character : Char) : List Char :=
  if character = '&' then "&amp;".toList
  else if character = '<' then "&lt;".toList
  else if character = '>' then "&gt;".toList
  else if character = '"' then "&quot;".toList
  else [character]

/-- Write a text so that it holds no markup. -/
def escape (content : String) : String :=
  String.ofList (content.toList.flatMap escapeCharacter)

/-- Write one attribute with the blank before it. -/
def renderAttribute (field : String × String) : String :=
  " " ++ field.1 ++ "=\"" ++ escape field.2 ++ "\""

mutual

/-- Write a fragment. -/
def render : Markup -> String
  | text content => escape content
  | element tag attributes children =>
    "<" ++ tag ++ String.join (attributes.map renderAttribute) ++ ">" ++
      renderAll children ++ "</" ++ tag ++ ">"

/-- Write fragments one after the other. -/
def renderAll : List Markup -> String
  | [] => ""
  | first :: rest => render first ++ renderAll rest

end

end Markup
end Text
end FileRoutes
