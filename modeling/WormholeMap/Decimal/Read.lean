import WormholeMap.Text.Whole
import WormholeMap.Decimal.Shortest

/-!
Decimals read as doubles. A decimal becomes the nearest double; the written form allows a sign, a
point with digits on at least one side of it, an exponent, and the names of the values that no
decimal has.
-/

namespace WormholeMap

/-- The double nearest to a decimal: infinite when it is too large, zero when it is too small. -/
def Decimal.toFloat (d : Decimal) : Float :=
  let size := d.exponent + (d.digitChars.length : Nat)
  let x : Float :=
    if d.digits = 0 ∨ size < -400 then 0.0
    else if 400 < size then 1.0 / 0.0
    else if 0 ≤ d.exponent then Float.ofScientific d.digits false d.exponent.toNat
    else Float.ofScientific d.digits true (-d.exponent).toNat
  if d.negative then -x else x

namespace Decimal

/-- A signed whole number with at least one digit. -/
def parseExponent? : List Char → Option Int
  | '-' :: rest => (Whole.ofChars? rest).map fun n => -(n : Int)
  | '+' :: rest => (Whole.ofChars? rest).map Int.ofNat
  | rest => (Whole.ofChars? rest).map Int.ofNat

/-- A decimal without its sign: digits, a point, digits, and an exponent after `e` or `E`. -/
def parseUnsigned? (chars : List Char) : Option (Nat × Int) :=
  let whole := chars.takeWhile Char.isDigit
  let rest := chars.dropWhile Char.isDigit
  let (fraction, rest) := match rest with
    | '.' :: rest => (rest.takeWhile Char.isDigit, rest.dropWhile Char.isDigit)
    | rest => ([], rest)
  match Whole.ofChars? (whole ++ fraction), rest with
  | some n, [] => some (n, -(fraction.length : Int))
  | some n, c :: rest =>
    if c = 'e' ∨ c = 'E' then (parseExponent? rest).map fun e => (n, e - fraction.length) else none
  | none, _ => none

def parseFloat? (text : String) : Option Float :=
  let (negative, chars) := match text.toList with
    | '-' :: rest => (true, rest)
    | '+' :: rest => (false, rest)
    | chars => (false, chars)
  let name := String.ofList (chars.map Char.toLower)
  let special := fun (x : Float) => if negative then -x else x
  if name = "inf" ∨ name = "infinity" then some (special (1.0 / 0.0))
  else if name = "nan" then some (special (0.0 / 0.0))
  else (parseUnsigned? chars).map fun (n, e) => Decimal.toFloat ⟨negative, n, e⟩

/-- A double written without exponent, and without a point where it is whole. -/
def displayFloat (x : Float) : String :=
  if x.isNaN then "NaN"
  else if x.isInf then (if x < 0.0 then "-inf" else "inf")
  else
    let d := ofFloat x
    String.ofList (d.sign ++ d.positional [])

end Decimal

end WormholeMap
