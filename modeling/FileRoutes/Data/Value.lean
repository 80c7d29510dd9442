/-!
# Data values

Loaders, actions and views exchange data values: null, booleans, integers,
texts, lists and objects.  Objects keep their fields in the order given.
-/

namespace FileRoutes

/-- A data value. -/
inductive Value
  | null
  | boolean (value : Bool)
  | integer (value : Int)
  | text (value : String)
  | list (elements : List Value)
  | object (fields : List (String × Value))
deriving Inhabited

namespace Value

/-- The value of a field of an object. -/
def field? (name : String) : Value -> Option Value
  | object fields => fields.lookup name
  | _ => none

/-- The text held by a value, if it holds one. -/
def text? : Value -> Option String
  | text value => some value
  | _ => none

end Value
end FileRoutes
