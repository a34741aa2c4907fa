import WormholeMap.Json.Basic

/-!
Reading JSON into data. A reader works on any document that shows its outermost shape, so the same
reader serves a value and a text as written. What it does not ask for it does not look into: in a
written text, a member that no field asks for may hold numerals and strings without a value, and may
nest without limit. A written object that repeats a field cannot be read as a record; in a value no
member is repeated.
-/

namespace WormholeMap.Json

/-- The outermost shape of a document. -/
inductive Shape (δ : Type) where
  | null
  | bool (b : Bool)
  | number (n : Number)
  | string (s : String)
  | array (items : List δ)
  | object (members : List (String × δ))
  | unreadable

/-- Something that shows the shape of a JSON document. -/
class Document (δ : Type) where
  shape : δ → Shape δ

instance : Document Json where
  shape
    | .null => .null
    | .bool b => .bool b
    | .number n => .number n
    | .string s => .string s
    | .array items => .array items
    | .object members => .object members

instance : Document Written where
  shape
    | .null => .null
    | .bool b => .bool b
    | .numeral n => match n.value? with
      | some v => .number v
      | none => .unreadable
    | .text s => match s with
      | some s => .string s
      | none => .unreadable
    | .array items => .array items
    | .object members =>
      match members.mapM (fun (m : Option String × Written) => m.1.map (·, m.2)) with
      | some members => .object members
      | none => .unreadable

open Document (shape)

variable {δ : Type} [Document δ] {α : Type}

def readBool (d : δ) : Option Bool :=
  match shape d with
  | .bool b => some b
  | _ => none

def readInt (d : δ) : Option Int64 :=
  match shape d with
  | .number n => n.toInt64?
  | _ => none

def readFloat (d : δ) : Option Float :=
  match shape d with
  | .number n => some n.toFloat
  | _ => none

def readString (d : δ) : Option String :=
  match shape d with
  | .string s => some s
  | _ => none

def readNullable (read : δ → Option α) (d : δ) : Option (Option α) :=
  match shape d with
  | .null => some none
  | _ => (read d).map some

def readList (read : δ → Option α) (d : δ) : Option (List α) :=
  match shape d with
  | .array items => items.mapM read
  | _ => none

/-- One of a set of named cases: its name, or an object with the name as its only key and null as
the value. -/
def readCase (case? : String → Option α) (d : δ) : Option α :=
  match shape d with
  | .string name => case? name
  | .object [(name, v)] => match shape v with
    | .null => case? name
    | _ => none
  | _ => none

/-- The members of an object under any of the names of a field. -/
def holding (names : List String) (members : List (String × δ)) : List (String × δ) :=
  members.filter fun m => names.contains m.1

/-- The fields of a record by their main names. Each field is listed with its names, the main one
first. A record is an object, which may miss fields and have other members but repeat no field, or
an array of its fields in order, which may miss the last ones. -/
def readRecord (fields : List (List String)) (d : δ) : Option (List (String × δ)) :=
  match shape d with
  | .object members =>
    (fields.mapM fun names =>
      match holding names members with
      | [] => some []
      | [(_, v)] => some [(names.headD "", v)]
      | _ => none).map List.flatten
  | .array items =>
    if items.length ≤ fields.length then some ((fields.map (·.headD "")).zip items) else none
  | _ => none

def required (read : δ → Option α) (name : String) (fields : List (String × δ)) : Option α :=
  fields.lookup name >>= read

/-- A field with a value that stands in when it is missing. -/
def defaulted (default : α) (read : δ → Option α) (name : String) (fields : List (String × δ)) :
    Option α :=
  match fields.lookup name with
  | none => some default
  | some d => read d

def optional (read : δ → Option α) (name : String) (fields : List (String × δ)) :
    Option (Option α) :=
  defaulted none (readNullable read) name fields

end WormholeMap.Json
