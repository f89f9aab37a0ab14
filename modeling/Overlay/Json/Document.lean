import Overlay.Json.Token

/-!
# JSON documents

How tokens nest. A machine takes one token at a time and keeps the arrays and objects that are
still open on a stack, so that a document may be nested to any depth; beside it stands the list of
tokens that a value is written as.
-/

namespace Overlay

namespace Json

/-- An array or object that is still open, with what it holds so far, last first. -/
inductive Frame where
  | array (items : List Json)
  | object (members : List (Option String × Json)) (key : Option String)

/-- What the machine waits for. -/
inductive Position where
  /-- A value. -/
  | value (stack : List Frame)
  /-- The first item of an array, or its end. -/
  | itemOrClose (stack : List Frame)
  /-- The first key of an object, or its end. -/
  | keyOrClose (stack : List Frame)
  /-- A key, after a comma. -/
  | nextKey (members : List (Option String × Json)) (stack : List Frame)
  /-- The colon behind a key. -/
  | colon (members : List (Option String × Json)) (key : Option String) (stack : List Frame)
  /-- What may follow a finished value. -/
  | done (v : Json) (stack : List Frame)

/-- A token where a value is due. -/
def Position.start (stack : List Frame) : Token → Option Position
  | .null => some (.done .null stack)
  | .bool b => some (.done (.bool b) stack)
  | .number n => some (.done (.number n) stack)
  | .string s => some (.done (.string s) stack)
  | .openBracket => some (.itemOrClose stack)
  | .openBrace => some (.keyOrClose stack)
  | _ => none

/-- One token. -/
def Position.step : Position → Token → Option Position
  | .value stack, t => start stack t
  | .itemOrClose stack, .closeBracket => some (.done (.array []) stack)
  | .itemOrClose stack, t => start (.array [] :: stack) t
  | .keyOrClose stack, .closeBrace => some (.done (.object []) stack)
  | .keyOrClose stack, .string key => some (.colon [] key stack)
  | .nextKey members stack, .string key => some (.colon members key stack)
  | .colon members key stack, .colon => some (.value (.object members key :: stack))
  | .done v (.array items :: stack), .comma => some (.value (.array (v :: items) :: stack))
  | .done v (.array items :: stack), .closeBracket =>
    some (.done (.array (v :: items).reverse) stack)
  | .done v (.object members key :: stack), .comma => some (.nextKey ((key, v) :: members) stack)
  | .done v (.object members key :: stack), .closeBrace =>
    some (.done (.object ((key, v) :: members).reverse) stack)
  | _, _ => none

/-- The value that a run of tokens makes. -/
def ofTokens? (ts : List Token) : Option Json :=
  match ts.foldlM Position.step (.value []) with
  | some (.done v []) => some v
  | _ => none

/-- The value that a run of characters spells. -/
def ofChars? (cs : List Char) : Option Json := (scan? cs).bind ofTokens?

/-- The value that a text spells. -/
def parse? (s : String) : Option Json := ofChars? s.toList

/-! ## Writing -/

mutual

/-- The tokens of a value. -/
def tokens : Json → List Token
  | .null => [.null]
  | .bool b => [.bool b]
  | .number n => [.number n]
  | .string s => [.string s]
  | .array items => .openBracket :: itemTokens items
  | .object members => .openBrace :: memberTokens members

/-- The tokens of the items of an array, up to its end. -/
def itemTokens : List Json → List Token
  | [] => [.closeBracket]
  | [v] => tokens v ++ [.closeBracket]
  | v :: rest => tokens v ++ .comma :: itemTokens rest

/-- The tokens of the members of an object, up to its end. -/
def memberTokens : List (Option String × Json) → List Token
  | [] => [.closeBrace]
  | [(key, v)] => .string key :: .colon :: (tokens v ++ [.closeBrace])
  | (key, v) :: rest => .string key :: .colon :: (tokens v ++ .comma :: memberTokens rest)

end

/-- The text of a value, without any blanks. -/
def render (v : Json) : String := String.ofList (v.tokens.flatMap Token.chars)

end Json

end Overlay
