namespace PipeArrow

/-- Members of an object keep their order and may repeat a key. -/
inductive Json where
  | null
  | bool (value : Bool)
  /-- A whole number below 2^64, written with digits alone. -/
  | count (value : Nat)
  /-- Any other number, as it is written. -/
  | number (text : String)
  | string (text : String)
  /-- A string, or an object with a key, that holds half of a surrogate pair and so is no text. -/
  | garbled
  | array (elements : List Json)
  | object (members : List (String × Json))
  deriving Repr, Inhabited

namespace Json

/-- The whole numbers that a value can hold are the ones below this bound. -/
def countLimit : Nat := 18446744073709551616

def asString? : Json → Option String
  | string text => some text
  | _ => none

def asCount? : Json → Option Nat
  | count n => some n
  | _ => none

def asBool? : Json → Option Bool
  | bool b => some b
  | _ => none

def nullable {α : Type} (read : Json → Option α) : Json → Option (Option α)
  | null => some none
  | v => (read v).map some

def asArray? {α : Type} (read : Json → Option α) : Json → Option (List α)
  | array elements => elements.mapM read
  | _ => none

def valuesOf (key : String) (members : List (String × Json)) : List Json :=
  (members.filter (·.1 = key)).map (·.2)

/-- The value of a key that has to be there, and once. -/
def required? (key : String) (members : List (String × Json)) : Option Json :=
  match valuesOf key members with
  | [v] => some v
  | _ => none

/-- The value of a key that may be there once, and counts as `null` if it is not. -/
def optional? (key : String) (members : List (String × Json)) : Option Json :=
  match valuesOf key members with
  | [] => some null
  | [v] => some v
  | _ => none

def hasOnly (keys : List String) (members : List (String × Json)) : Bool :=
  members.all fun m => keys.contains m.1

end Json

end PipeArrow
