/-!
Whole numbers written in digits, decimal ones but where a base is named.
-/

namespace WormholeMap.Whole

def digit? (c : Char) : Option Nat := if c.isDigit then some (c.toNat - 48) else none

/-- The value of a digit of a base up to 16. -/
def digitValue? (c : Char) : Option Nat :=
  if '0' ≤ c ∧ c ≤ '9' then some (c.toNat - 48)
  else if 'A' ≤ c ∧ c ≤ 'F' then some (c.toNat - 55)
  else if 'a' ≤ c ∧ c ≤ 'f' then some (c.toNat - 87)
  else none

/-- The number that digits of a base up to 16 write. -/
def ofBase? (base : Nat) (digits : List Char) : Option Nat :=
  digits.foldlM (fun n c =>
    match digitValue? c with
    | some d => if d < base then some (n * base + d) else none
    | none => none) 0

/-- The number that digits write, most significant first. -/
def ofDigits (digits : List Nat) : Nat := digits.foldl (fun n d => n * 10 + d) 0

/-- The number that one or more ASCII digits write. -/
def ofChars? (chars : List Char) : Option Nat :=
  if chars = [] then none else (chars.mapM digit?).map ofDigits

/-- The digits of a number, most significant first. -/
def digits (n : Nat) : List Nat := (Nat.toDigits 10 n).map (fun c => c.toNat - 48)

/-- An unsigned 64-bit number: one or more ASCII digits, which a single plus sign may precede. -/
def parse64? (text : String) : Option Nat :=
  let chars := match text.toList with
    | '+' :: rest => rest
    | chars => chars
  match ofChars? chars with
  | some n => if n < Nat.pow 2 64 then some n else none
  | none => none

end WormholeMap.Whole
