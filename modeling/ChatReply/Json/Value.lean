import ChatReply.Text.Range

/-!
# JSON values

Numbers are integers, which is all that documents hold. An object keeps its fields in order.
-/

namespace ChatReply

/-- A JSON value. -/
inductive Json where
  | null
  | bool (value : Bool)
  | integer (value : Int)
  | string (text : Text)
  | array (items : List Json)
  | object (fields : List (String × Json))
deriving Repr

namespace Json

/-- The string value of a string literal. -/
def ofString (text : String) : Json :=
  string text.toList

/-- The value of a field of an object. -/
def field? (name : String) : Json → Option Json
  | object fields => fields.lookup name
  | _ => none

/-- The characters of a string value. -/
def text? : Json → Option Text
  | string text => some text
  | _ => none

/-- The value of a boolean. -/
def bool? : Json → Option Bool
  | bool value => some value
  | _ => none

/-- The value of an integer. -/
def integer? : Json → Option Int
  | integer value => some value
  | _ => none

/-- The items of an array. -/
def items? : Json → Option (List Json)
  | array items => some items
  | _ => none

end Json
end ChatReply
