import LikedYou.Json.Fault

/-!
# Values that are in memory

A JSON value that was read already, without its text. It can be taken as one of some names, and what
is wrong then has a cause but no place.
-/

namespace LikedYou.Json

/-- A JSON value. -/
inductive Value where
  | null
  | flag (b : Bool)
  | int (n : Int)
  | float (x : Float)
  | text (s : String)
  | list (items : List Value)
  | object (members : List (String × Value))
  deriving Inhabited

namespace Value

/-- What a message says was found. -/
def found : Value → Found
  | null => .null
  | flag b => .flag b
  | int n => .int n
  | float x => .float x
  | text s => .text s
  | list _ => .list
  | object _ => .object

/-- The index of `name` in `names`. -/
def indexIn (names : List String) (name : String) : Except Cause (Fin names.length) :=
  match names.findFinIdx? (· = name) with
  | some i => .ok i
  | none => .error (.unknownName name names)

/-- Take a value as one of some names: a text, or an object whose only field has that name and holds
`null`. -/
def choice (names : List String) : Value → Except Cause (Fin names.length)
  | text s => indexIn names s
  | object [(name, value)] =>
    match indexIn names name with
    | .error c => .error c
    | .ok i =>
      match value with
      | null => .ok i
      | other => .error (.mismatch other.found "unit")
  | object _ => .error .objectWanted
  | other => .error (.mismatch other.found "string or map")

end Value

end LikedYou.Json
