import FileRoutes.Text.Split

/-!
# Segments

A folder name matches one piece of a route.  Brackets mark parameters:
`[name]`, `[name?]`, `[...name]` and `[[...name]]`; every other name matches
itself.  A name in parentheses is a group, which adds no piece to the route.
-/

namespace FileRoutes

/-- What a folder name matches. -/
inductive SegmentKind
  /-- The name itself. -/
  | static
  /-- One piece, written `[name]`. -/
  | dynamic (parameter : String)
  /-- One piece or none, written `[name?]`. -/
  | optionalDynamic (parameter : String)
  /-- All remaining pieces, written `[...name]`. -/
  | catchAll (parameter : String)
  /-- All remaining pieces or none, written `[[...name]]`. -/
  | optionalCatchAll (parameter : String)
deriving DecidableEq, Repr, Inhabited

/-- The matching shape of a segment. -/
inductive SegmentSlot
  /-- One literal piece. -/
  | literal
  /-- One arbitrary piece. -/
  | parameter
  /-- The remaining pieces. -/
  | splat
deriving DecidableEq, Repr

namespace SegmentKind

/-- Whether a segment binds a parameter. -/
def isDynamic : SegmentKind -> Bool
  | static => false
  | _ => true

/-- The parameter bound by a segment. -/
def parameter? : SegmentKind -> Option String
  | static => none
  | dynamic parameter | optionalDynamic parameter | catchAll parameter
  | optionalCatchAll parameter => some parameter

/-- The matching shape of a kind. -/
def slot : SegmentKind -> SegmentSlot
  | static => .literal
  | dynamic _ | optionalDynamic _ => .parameter
  | catchAll _ | optionalCatchAll _ => .splat

/-- The folder name that denotes a dynamic kind. -/
def written? : SegmentKind -> Option String
  | static => none
  | dynamic parameter => some ("[" ++ parameter ++ "]")
  | optionalDynamic parameter => some ("[" ++ parameter ++ "?]")
  | catchAll parameter => some ("[..." ++ parameter ++ "]")
  | optionalCatchAll parameter => some ("[[..." ++ parameter ++ "]]")

/-- The nonempty part of a token between a beginning and an ending. -/
def enclosed? (beginning ending token : List Char) : Option (List Char) := do
  let rest ← beginning.isPrefixOf? token
  let inner ← ending.isSuffixOf? rest
  if inner.isEmpty then none else some inner

/-- Classify the inside of single brackets. -/
def classifyBracketed (inner : List Char) : SegmentKind :=
  match ['.', '.', '.'].isPrefixOf? inner with
  | some parameter => .catchAll (String.ofList parameter)
  | none =>
    match ['?'].isSuffixOf? inner with
    | some parameter => .optionalDynamic (String.ofList parameter)
    | none => .dynamic (String.ofList inner)

/-- Classify a folder name.  Empty brackets are a name like any other. -/
def classify (token : String) : SegmentKind :=
  match enclosed? ['[', '[', '.', '.', '.'] [']', ']'] token.toList with
  | some parameter => .optionalCatchAll (String.ofList parameter)
  | none =>
    match enclosed? ['['] [']'] token.toList with
    | some inner => classifyBracketed inner
    | none => .static

/-- The kind of a folder name when it is dynamic. -/
def dynamic? (token : String) : Option SegmentKind :=
  let kind := classify token
  if kind.isDynamic then some kind else none

end SegmentKind

/-- Whether a folder name is a group: something between parentheses. -/
def isGroup (name : String) : Bool :=
  let characters := name.toList
  2 < Text.byteLength name && characters.head? == some '(' &&
    characters.getLast? == some ')'

end FileRoutes
