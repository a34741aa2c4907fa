import WormholeMap.Text.Whole

/-!
JSON numbers. A numeral is what the text spells; its value is a whole number when it is spelled
without fraction and exponent and fits 64 bits, and a double otherwise. Doubles are found by scaling
the leading digits that fit 64 bits by a power of ten, and one that would be infinite has no value.
-/

namespace WormholeMap.Json

/-- The value of a number: a whole number of 64 bits, signed or not, or a double. -/
inductive Number where
  | whole (n : Int)
  | real (x : Float)
  deriving DecidableEq

/-- The spelling of a number, as digits. A numeral without a point has no fraction digits, one
without an exponent has none. -/
structure Numeral where
  negative : Bool
  whole : List Nat
  fraction : List Nat
  exponent : Option (Bool × List Nat)
  deriving DecidableEq

namespace Numeral

/-- One or more digits at the front of `chars`, and what follows them. -/
def digits? (chars : List Char) : Option (List Nat × List Char) :=
  match chars.takeWhile Char.isDigit with
  | [] => none
  | ds => some (ds.map (fun c => c.toNat - 48), chars.dropWhile Char.isDigit)

/-- The digits before the point: a single zero, or digits that do not start with one. -/
def whole? (chars : List Char) : Option (List Nat × List Char) :=
  match digits? chars with
  | some (0 :: _ :: _, _) => none
  | r => r

/-- The exponent that ends a numeral, negative when the flag is set. -/
def exponent? : List Char → Option (Option (Bool × List Nat))
  | [] => some none
  | e :: chars =>
    if e = 'e' ∨ e = 'E' then
      let (negative, chars) := match chars with
        | '-' :: rest => (true, rest)
        | '+' :: rest => (false, rest)
        | rest => (false, rest)
      match digits? chars with
      | some (ds, []) => some (some (negative, ds))
      | _ => none
    else none

/-- The numeral that a text spells as a whole. -/
def parse? (chars : List Char) : Option Numeral := do
  let (negative, chars) := match chars with
    | '-' :: rest => (true, rest)
    | rest => (false, rest)
  let (whole, rest) ← whole? chars
  let (fraction, rest) ← match rest with
    | '.' :: rest => digits? rest
    | rest => some ([], rest)
  let exponent ← exponent? rest
  return { negative, whole, fraction, exponent }

/-- Takes up digits into a significand while it fits 64 bits. Gives the significand and the digits
left over. -/
def gather : Nat → List Nat → Nat × List Nat
  | n, [] => (n, [])
  | n, d :: ds => if n * 10 + d < Nat.pow 2 64 then gather (n * 10 + d) ds else (n, d :: ds)

def pow10 (e : Nat) : Float := Float.ofScientific 1 false e

/-- `x / 10 ^ e` in steps of at most 308 places, ending early at zero. -/
def shrink (x : Float) (e : Nat) : Float :=
  if e ≤ 308 then x / pow10 e
  else if x == 0.0 then x
  else shrink (x / pow10 308) (e - 308)
termination_by e

/-- `n * 10 ^ e` in double arithmetic; none when it is infinite. -/
def scale? (n : Nat) (e : Int) : Option Float :=
  let x := n.toUInt64.toFloat
  if e < 0 then some (shrink x (-e).toNat)
  else if e ≤ 308 then
    let y := x * pow10 e.toNat
    if y.isInf then none else some y
  else if x == 0.0 then some x
  else none

/-- The value of a numeral as a double. An exponent that does not fit 32 bits makes zero of a
negative one and of a zero significand, and leaves the others without a value. -/
def real? (n : Numeral) : Option Float :=
  let (lead, beyond) := gather 0 n.whole
  let (significand, unused) := if beyond = [] ∨ n.fraction ≠ [] then gather lead n.fraction
    else (lead, [])
  let e : Int := beyond.length - (n.fraction.length - unused.length : Nat)
  let size := match n.exponent with
    | none => scale? significand e
    | some (negative, ds) =>
      let x := Whole.ofDigits ds
      if Nat.pow 2 31 ≤ x then (if significand ≠ 0 ∧ !negative then none else some 0.0)
      else scale? significand (if negative then e - x else e + x)
  size.map fun x => if n.negative then -x else x

/-- The value of a numeral. Minus zero is a double. -/
def value? (n : Numeral) : Option Number :=
  if n.fraction = [] ∧ n.exponent = none then
    let m := Whole.ofDigits n.whole
    if !n.negative ∧ m < Nat.pow 2 64 then some (.whole m)
    else if n.negative ∧ m ≠ 0 ∧ m ≤ Nat.pow 2 63 then some (.whole (-(m : Int)))
    else n.real?.map .real
  else n.real?.map .real

end Numeral

/-- The signed 64-bit whole number that a number is. -/
def Number.toInt64? : Number → Option Int64
  | .whole n =>
    if Int64.minValue.toInt ≤ n ∧ n ≤ Int64.maxValue.toInt then some (Int64.ofInt n) else none
  | .real _ => none

/-- A number as a double, rounded to the nearest. -/
def Number.toFloat : Number → Float
  | .whole n => if n < 0 then -n.natAbs.toUInt64.toFloat else n.natAbs.toUInt64.toFloat
  | .real x => x

end WormholeMap.Json
