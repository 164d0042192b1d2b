import ChatReply.Json.Print
import ChatReply.Settings.Moment
import ChatReply.Text.Quoted

/-!
# Values of settings

A setting may be given any value that a configuration file can hold, so settings are checked only
once all their sources have been put together.
-/

namespace ChatReply

/-- A value that a configuration file can hold, or none at all. -/
inductive Value where
  /-- No value. -/
  | null
  | boolean (value : Bool)
  | integer (value : Int)
  /-- A floating-point number, as the shortest decimal that denotes it. -/
  | float (text : String)
  | string (text : Text)
  | moment (value : Moment)
  | array (items : List Value)
  | table (fields : List (String × Value))
deriving Repr

namespace Value

mutual

/-- Whether two values are the same. -/
def decEq (first second : Value) : Decidable (first = second) :=
  match first with
  | null =>
    match second with
    | null => isTrue rfl
    | boolean _ | integer _ | float _ | string _ | moment _ | array _ | table _ => isFalse nofun
  | boolean value =>
    match second with
    | boolean other => decidable_of_iff (value = other) (by simp)
    | null | integer _ | float _ | string _ | moment _ | array _ | table _ => isFalse nofun
  | integer value =>
    match second with
    | integer other => decidable_of_iff (value = other) (by simp)
    | null | boolean _ | float _ | string _ | moment _ | array _ | table _ => isFalse nofun
  | float value =>
    match second with
    | float other => decidable_of_iff (value = other) (by simp)
    | null | boolean _ | integer _ | string _ | moment _ | array _ | table _ => isFalse nofun
  | string value =>
    match second with
    | string other => decidable_of_iff (value = other) (by simp)
    | null | boolean _ | integer _ | float _ | moment _ | array _ | table _ => isFalse nofun
  | moment value =>
    match second with
    | moment other => decidable_of_iff (value = other) (by simp)
    | null | boolean _ | integer _ | float _ | string _ | array _ | table _ => isFalse nofun
  | array value =>
    match second with
    | array other =>
      haveI := decEqItems value other
      decidable_of_iff (value = other) (by simp)
    | null | boolean _ | integer _ | float _ | string _ | moment _ | table _ => isFalse nofun
  | table value =>
    match second with
    | table other =>
      haveI := decEqFields value other
      decidable_of_iff (value = other) (by simp)
    | null | boolean _ | integer _ | float _ | string _ | moment _ | array _ => isFalse nofun

/-- Whether the items of two arrays are the same. -/
def decEqItems (first second : List Value) : Decidable (first = second) :=
  match first, second with
  | [], [] => isTrue rfl
  | item :: items, other :: others =>
    haveI := decEq item other
    haveI := decEqItems items others
    decidable_of_iff (item = other ∧ items = others) (by simp)
  | [], _ :: _ | _ :: _, [] => isFalse nofun

/-- Whether the fields of two tables are the same. -/
def decEqFields (first second : List (String × Value)) : Decidable (first = second) :=
  match first, second with
  | [], [] => isTrue rfl
  | (name, value) :: fields, (otherName, other) :: others =>
    haveI := decEq value other
    haveI := decEqFields fields others
    decidable_of_iff ((name = otherName ∧ value = other) ∧ fields = others) (by simp)
  | [], _ :: _ | _ :: _, [] => isFalse nofun

end

instance : DecidableEq Value := decEq

/-- The string value of a string literal. -/
def ofString (text : String) : Value :=
  string text.toList

/-- The value is none at all. -/
def isNull : Value → Bool
  | null => true
  | _ => false

/-- The value of a key of a table. -/
def field? (name : String) : Value → Option Value
  | table fields => fields.lookup name
  | _ => none

/-- The value found by following a path of keys through nested tables. -/
def find? (value : Value) : List String → Option Value
  | [] => some value
  | name :: path => (value.field? name).bind (find? · path)

/-- What a message calls the type of a value. -/
def typeName : Value → String
  | null => "NoneType"
  | boolean _ => "bool"
  | integer _ => "int"
  | float _ => "float"
  | string _ => "str"
  | moment value => "datetime." ++ value.kindName
  | array _ => "list"
  | table _ => "dict"

mutual

/-- The text of a value inside another one, where strings are quoted and moments made by calls. -/
def inner : Value → Text
  | null => "None".toList
  | boolean true => "True".toList
  | boolean false => "False".toList
  | integer value => Json.printInteger value
  | float text => text.toList
  | string text => quoted text
  | moment value => value.inner
  | array items => '[' :: joinWith [',', ' '] (innerItems items) ++ [']']
  | table fields => '\x7b' :: joinWith [',', ' '] (innerFields fields) ++ ['\x7d']

/-- The texts of the items of an array. -/
def innerItems : List Value → List Text
  | [] => []
  | item :: items => inner item :: innerItems items

/-- The texts of the fields of a table. -/
def innerFields : List (String × Value) → List Text
  | [] => []
  | (name, value) :: fields =>
    (quoted name.toList ++ [':', ' '] ++ inner value) :: innerFields fields

end

/-- The text of a value. -/
def display : Value → Text
  | string text => text
  | moment value => value.text
  | value => inner value

end Value
end ChatReply
