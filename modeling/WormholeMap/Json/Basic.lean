import WormholeMap.Json.Written

/-!
JSON values. A written text becomes a value when its numerals have values, its strings have texts
and its containers nest at most 127 deep; of a repeated member the last one counts.
-/

namespace WormholeMap

/-- A JSON value. The members of an object are in the order of their first appearance. -/
inductive Json where
  | null
  | bool (b : Bool)
  | number (n : Json.Number)
  | string (s : String)
  | array (items : List Json)
  | object (members : List (String × Json))

namespace Json

/-- Sets a member, in its place if the object has it and at the end otherwise. -/
def insertMember (key : String) (value : Json) : List (String × Json) → List (String × Json)
  | [] => [(key, value)]
  | (k, v) :: rest => if k = key then (k, value) :: rest else (k, v) :: insertMember key value rest

/-- Members with repeated keys merged, the last value of each counting. -/
def mergeMembers (members : List (String × Json)) : List (String × Json) :=
  members.foldl (fun done m => insertMember m.1 m.2 done) []

def maxDepth : Nat := 127

/-- The value of a written text whose containers nest at most `depth` deep. -/
def ofWritten? : Nat → Written → Option Json
  | _, .null => some .null
  | _, .bool b => some (.bool b)
  | _, .numeral n => n.value?.map .number
  | _, .text s => s.map .string
  | 0, .array _ => none
  | 0, .object _ => none
  | depth + 1, .array items => (items.mapM (ofWritten? depth)).map .array
  | depth + 1, .object members =>
    (members.mapM fun (m : Option String × Written) => do
      return (← m.1, ← ofWritten? depth m.2)).map fun ms => .object (mergeMembers ms)

def parse? (bytes : List UInt8) : Option Json := Written.parse? bytes >>= ofWritten? maxDepth

def parseText? (text : String) : Option Json := parse? (Utf8.encode text)

def get? (key : String) : Json → Option Json
  | .object members => members.lookup key
  | _ => none

def text? : Json → Option String
  | .string s => some s
  | _ => none

def nat (n : Nat) : Json := .number (.whole n)

def int (n : Int64) : Json := .number (.whole n.toInt)

/-- A double, or null for one that is not finite. -/
def float (x : Float) : Json := if x.isFinite then .number (.real x) else .null

/-- A value, or null when there is none. -/
def option (toJson : α → Json) : Option α → Json
  | none => .null
  | some a => toJson a

def list (toJson : α → Json) (items : List α) : Json := .array (items.map toJson)

end Json

end WormholeMap
