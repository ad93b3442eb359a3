import Mathlib.Data.Rat.Defs

namespace Podmesh

/-- A finite JSON or YAML number: an integer or a decimal. -/
inductive Number where
  | int (i : Int)
  | float (q : ℚ)
  deriving DecidableEq

def Number.value : Number → ℚ
  | .int i => i
  | .float q => q

def Number.text : Number → String
  | .int i => toString i
  | .float q => toString q.num ++ "/" ++ toString q.den

inductive Json where
  | null
  | bool (b : Bool)
  | number (n : Number)
  | string (s : String)
  | array (items : List Json)
  | object (fields : List (String × Json))

/-! Partial evaluation over JSON: a missing field or an argument of the wrong type is undefined. -/

namespace Rego

def ref (v : Json) (key : String) : Option Json :=
  match v with
  | .object fields => fields.lookup key
  | _ => none

/-- `object.get`: a default for a missing key, undefined on anything but an object. -/
def objectGet (v : Json) (key : String) (default : Json) : Option Json :=
  match v with
  | .object fields => some ((fields.lookup key).getD default)
  | _ => none

/-- `array.concat`: undefined unless both arguments are arrays. -/
def arrayConcat : Json → Json → Option Json
  | .array xs, .array ys => some (.array (xs ++ ys))
  | _, _ => none

/-- `object.union`: the right argument wins; undefined unless both are objects. -/
def objectUnion : Json → Json → Option Json
  | .object xs, .object ys =>
    some (.object (xs.filter (fun e => !ys.any (·.1 == e.1)) ++ ys))
  | _, _ => none

def members : Json → List Json
  | .array items => items
  | .object fields => fields.map (·.2)
  | _ => []

def objectKeys : Json → List String
  | .object fields => fields.map (·.1)
  | _ => []

def count : Json → Option Nat
  | .array items => some items.length
  | .object fields => some fields.length
  | .string s => some s.length
  | _ => none

def isObject : Json → Bool
  | .object _ => true
  | _ => false

def isString : Json → Bool
  | .string _ => true
  | _ => false

def isText (s : String) : Json → Bool
  | .string t => t == s
  | _ => false

def isBool (b : Bool) : Json → Bool
  | .bool c => c == b
  | _ => false

def isZero : Json → Bool
  | .number n => n.value == 0
  | _ => false

def isOneOf (texts : List String) (v : Json) : Bool := texts.any fun s => isText s v

def startswith (s head : String) : Bool := head.toList.isPrefixOf s.toList

def contains (s part : String) : Bool := s.toList.tails.any fun t => part.toList.isPrefixOf t

mutual
/-- The text of a value inside a message; a string appears without quotes. -/
def display : Json → String
  | .null => "null"
  | .bool b => if b then "true" else "false"
  | .number n => n.text
  | .string s => s
  | .array items => "[" ++ displayItems items ++ "]"
  | .object fields => "\x7b" ++ displayFields fields ++ "\x7d"
def displayItems : List Json → String
  | [] => ""
  | [v] => display v
  | v :: w :: rest => display v ++ ", " ++ displayItems (w :: rest)
def displayFields : List (String × Json) → String
  | [] => ""
  | [(k, v)] => k ++ ": " ++ display v
  | (k, v) :: e :: rest => k ++ ": " ++ display v ++ ", " ++ displayFields (e :: rest)
end

/-- Replaces the verbs of a format by the texts of the arguments. -/
def format : List Char → List Json → List Char
  | '%' :: 's' :: rest, a :: args => (display a).toList ++ format rest args
  | '%' :: 'v' :: rest, a :: args => (display a).toList ++ format rest args
  | c :: rest, args => c :: format rest args
  | [], _ => []

def sprintf (fmt : String) (args : List Json) : String := String.ofList (format fmt.toList args)

theorem objectGet_of_ref (default : Json) (h : ref v key = some w) :
    objectGet v key default = some w := by
  cases v with
  | object fields =>
    simp only [ref] at h
    simp only [objectGet, h, Option.getD_some]
  | null => cases h
  | bool b => cases h
  | number n => cases h
  | string s => cases h
  | array items => cases h

theorem isObject_of_ref (h : ref v key = some w) : isObject v = true := by
  cases v with
  | object fields => rfl
  | null => cases h
  | bool b => cases h
  | number n => cases h
  | string s => cases h
  | array items => cases h

end Rego
end Podmesh
