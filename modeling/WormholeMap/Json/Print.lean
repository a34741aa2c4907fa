import WormholeMap.Json.Basic
import WormholeMap.Decimal.Shortest

/-!
JSON texts of values: in one line without blanks, or with a line for each item and member, two
blanks deeper for each level.
-/

namespace WormholeMap.Json

def hexChar (n : Nat) : Char := Nat.digitChar n

/-- A character of a string, escaped where JSON asks for it. -/
def escapeChar (c : Char) : List Char :=
  match c with
  | '"' => ['\\', '"']
  | '\\' => ['\\', '\\']
  | '\n' => ['\\', 'n']
  | '\r' => ['\\', 'r']
  | '\t' => ['\\', 't']
  | '\x08' => ['\\', 'b']
  | '\x0c' => ['\\', 'f']
  | c =>
    if c.toNat < 32 then ['\\', 'u', '0', '0', hexChar (c.toNat / 16), hexChar (c.toNat % 16)]
    else [c]

def quote (s : String) : String :=
  "\"" ++ String.ofList (s.toList.flatMap escapeChar) ++ "\""

/-- A double: positional from 1e-5 up to 1e16, with an exponent outside. -/
def printFloat (x : Float) : String :=
  let d := Decimal.ofFloat x
  let point := d.exponent + (d.digitChars.length : Nat)
  if d.digits = 0 ∨ (-5 < point ∧ point ≤ 16) then
    String.ofList (d.sign ++ d.positional ['.', '0'])
  else String.ofList (d.sign ++ d.scientific)

def Number.print : Number → String
  | .whole n => toString n
  | .real x => printFloat x

mutual

def print : Json → String
  | .null => "null"
  | .bool true => "true"
  | .bool false => "false"
  | .number n => n.print
  | .string s => quote s
  | .array items => "[" ++ ",".intercalate (printItems items) ++ "]"
  | .object members => "\x7b" ++ ",".intercalate (printMembers members) ++ "\x7d"

def printItems : List Json → List String
  | [] => []
  | v :: rest => print v :: printItems rest

def printMembers : List (String × Json) → List String
  | [] => []
  | (k, v) :: rest => (quote k ++ ":" ++ print v) :: printMembers rest

end

/-- The start of a line that is `level` deep. -/
def indent (level : Nat) : String := "\n" ++ String.ofList (List.replicate (2 * level) ' ')

mutual

/-- A value with a line for each item and member, itself `level` deep. -/
def pretty (level : Nat) : Json → String
  | .array [] => "[]"
  | .object [] => "\x7b\x7d"
  | .array items => "[" ++ ",".intercalate (prettyItems (level + 1) items) ++ indent level ++ "]"
  | .object members =>
    "\x7b" ++ ",".intercalate (prettyMembers (level + 1) members) ++ indent level ++ "\x7d"
  | v => print v

def prettyItems (level : Nat) : List Json → List String
  | [] => []
  | v :: rest => (indent level ++ pretty level v) :: prettyItems level rest

def prettyMembers (level : Nat) : List (String × Json) → List String
  | [] => []
  | (k, v) :: rest =>
    (indent level ++ quote k ++ ": " ++ pretty level v) :: prettyMembers level rest

end

end WormholeMap.Json
