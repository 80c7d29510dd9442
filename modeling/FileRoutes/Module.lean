import FileRoutes.Data.Value
import FileRoutes.Text.Markup

/-!
# Modules

A page or layout module exports a component and perhaps a loader and an
action; a view module exports a component.  Components turn data into markup,
loaders fetch data for a page, actions handle what a page submits, and a
middleware wraps loaders.
-/

namespace FileRoutes

/-- Turns data into markup. -/
abbrev Component := Value -> Text.Markup

/-- What loaders and actions are called with. -/
structure RouteArguments where
  /-- The parameters bound by the dynamic segments of the route. -/
  parameters : List (String × String) := []
  url : String := ""
  /-- What was submitted to an action. -/
  payload : Option Value := none

/-- A loader or an action; failures have a text. -/
abbrev Handler := RouteArguments -> Except String Value

/-- A change made to every loader. -/
abbrev Middleware := Handler -> Handler

/-- What a page or layout file exports. -/
structure PageModule where
  component : Component
  loader : Option Handler := none
  action : Option Handler := none

/-- What a view file exports. -/
structure ViewModule where
  component : Component

namespace Component

/-- Show a label, also as an attribute. -/
def placeholder (label : String) : Component :=
  fun _ => .element "div" [("data-route", label)] [.text label]

/-- The loading view that comes with the library. -/
def loading : Component :=
  fun _ => .element "div" [] [.text "Loading..."]

/-- The not-found view that comes with the library. -/
def notFound : Component :=
  fun _ =>
    .element "div" []
      [.element "h1" [] [.text "404"],
        .element "p" [] [.text "This page could not be found."]]

/-- Show a text field of the data, or nothing when there is none. -/
def field (name : String) : Component :=
  fun data =>
    .element "p" []
      [.text (((data.field? name).bind Value.text?).getD "")]

end Component

namespace Handler

/-- The loader of modules that export none. -/
def null : Handler :=
  fun _ => .ok .null

/-- Always give the same value. -/
def constant (value : Value) : Handler :=
  fun _ => .ok value

/-- Give the value of one parameter. -/
def parameter (name : String) : Handler :=
  fun arguments =>
    let value :=
      match arguments.parameters.lookup name with
      | some text => Value.text text
      | none => .null
    .ok (.object [("value", value)])

/-- Give everything the handler is called with. -/
def echo : Handler :=
  fun arguments =>
    .ok (.object
      [("params",
          .object (arguments.parameters.map fun (name, text) =>
            (name, .text text))),
        ("url", .text arguments.url),
        ("payload", arguments.payload.getD .null)])

/-- Always fail. -/
def failing (reason : String) : Handler :=
  fun _ => .error reason

end Handler

namespace Middleware

/-- Leave loaders as they are. -/
def identity : Middleware :=
  fun loader => loader

/-- Put the value of a loader into a field of an object. -/
def wrapping (name : String) : Middleware :=
  fun loader arguments => do
    let value ← loader arguments
    return .object [(name, value)]

/-- Refuse URLs that start with a given text. -/
def guarding (start reason : String) : Middleware :=
  fun loader arguments =>
    if start.toList.isPrefixOf arguments.url.toList then
      .error reason
    else
      loader arguments

end Middleware
end FileRoutes
