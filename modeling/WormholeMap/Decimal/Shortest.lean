/-!
The shortest decimal of a double: of all decimals that read back as the same double, those with the
fewest digits, and of these the nearest. Everything is decided in exact whole numbers.
-/

namespace WormholeMap

/-- The decimal `digits * 10 ^ exponent`, negated when `negative`. -/
structure Decimal where
  negative : Bool
  digits : Nat
  exponent : Int
  deriving DecidableEq, Repr

namespace Decimal

/-- A positive double as `significand * 2 ^ exponent`, with half the gap to its lower neighbour as
`lowerGap` quarters of a unit in the last place: one below a power of two, two otherwise. -/
structure Binary where
  significand : Nat
  exponent : Int
  lowerGap : Nat

/-- The parts of a finite double that is not zero, its sign left aside. -/
def Binary.ofBits (bits : Nat) : Binary :=
  let fraction : Nat := bits % Nat.pow 2 52
  let biased : Nat := bits / Nat.pow 2 52 % Nat.pow 2 11
  if biased = 0 then ⟨fraction, -1074, 2⟩
  else ⟨Nat.pow 2 52 + fraction, (biased : Int) - 1075, if fraction = 0 ∧ 1 < biased then 1 else 2⟩

/-- A fraction of whole numbers `num / den`. -/
structure Ratio where
  num : Nat
  den : Nat

/-- `n * 2 ^ e`. -/
def Ratio.scale2 (n : Nat) (e : Int) : Ratio :=
  if 0 ≤ e then ⟨n * Nat.pow 2 e.toNat, 1⟩ else ⟨n, Nat.pow 2 (-e).toNat⟩

/-- `r / 10 ^ k`. -/
def Ratio.unscale10 (r : Ratio) (k : Int) : Ratio :=
  if 0 ≤ k then ⟨r.num, r.den * Nat.pow 10 k.toNat⟩ else ⟨r.num * Nat.pow 10 (-k).toNat, r.den⟩

/-- The least `k` with `r < 10 ^ k`, for a positive `r`, searched from `k` upwards and downwards for
at most `fuel` steps. -/
def magnitude (r : Ratio) : Nat → Int → Int
  | 0, k => k
  | fuel + 1, k =>
    let above := r.unscale10 k
    if above.den ≤ above.num then magnitude r fuel (k + 1)
    else
      let below := r.unscale10 (k - 1)
      if below.num < below.den then magnitude r fuel (k - 1) else k

/-- Whether the whole number `d` on the grid `10 ^ k` lies among the reals that read as the double:
between the middles to its neighbours, the middles themselves included for an even significand. -/
def Binary.holds (b : Binary) (k : Int) (d : Nat) : Bool :=
  let unit := (Ratio.scale2 1 (b.exponent - 2)).unscale10 k
  let low := (4 * b.significand - b.lowerGap) * unit.num
  let high := (4 * b.significand + 2) * unit.num
  let x := d * unit.den
  if b.significand % 2 = 0 then low ≤ x && x ≤ high else low < x && x < high

/-- The decimal on the grid `10 ^ k` that reads as the double and is nearest to it, an exact tie
going to the even one; none when no decimal on the grid does. -/
def Binary.onGrid (b : Binary) (k : Int) : Option Nat :=
  let exact := (Ratio.scale2 b.significand b.exponent).unscale10 k
  let lower := exact.num / exact.den
  let upper := lower + 1
  match b.holds k lower && lower != 0, b.holds k upper with
  | false, false => none
  | true, false => some lower
  | false, true => some upper
  | true, true =>
    let twice := 2 * (exact.num % exact.den)
    if twice < exact.den then some lower
    else if exact.den < twice then some upper
    else some (if lower % 2 = 0 then lower else upper)

/-- Tries grids of one more digit until one holds a decimal; seventeen digits always do. -/
def Binary.search (b : Binary) (size : Int) : Nat → Nat × Int
  | 0 => (0, 0)
  | fuel + 1 =>
    match b.onGrid (size - (17 - fuel : Nat)) with
    | some d => (d, size - (17 - fuel : Nat))
    | none => b.search size fuel

/-- Digits without the zeros they end in, which the exponent takes up. -/
def stripZeros : Nat → Nat → Int → Nat × Int
  | 0, d, e => (d, e)
  | fuel + 1, d, e => if d ≠ 0 ∧ d % 10 = 0 then stripZeros fuel (d / 10) (e + 1) else (d, e)

/-- The shortest decimal of a finite double. Zero is `0`, its sign kept. -/
def ofFloat (x : Float) : Decimal :=
  let bits := x.toBits.toNat
  let negative : Bool := Nat.pow 2 63 ≤ bits
  let b := Binary.ofBits bits
  if b.significand = 0 then ⟨negative, 0, 0⟩
  else
    let guess : Int := (b.exponent + (Nat.log2 b.significand : Nat)) * 1233 / 4096
    let size := magnitude (Ratio.scale2 b.significand b.exponent) 40 guess
    let (d, e) := b.search size 17
    let (d, e) := stripZeros 20 d e
    ⟨negative, d, e⟩

/-- The text of a decimal's digits, most significant first. -/
def digitChars (d : Decimal) : List Char := Nat.toDigits 10 d.digits

/-- The digits of a decimal with the point where it belongs and no exponent. `whole` is what a
decimal without fraction ends in. -/
def positional (d : Decimal) (whole : List Char) : List Char :=
  let digits := d.digitChars
  if 0 ≤ d.exponent then digits ++ List.replicate d.exponent.toNat '0' ++ whole
  else
    let places := (-d.exponent).toNat
    if places < digits.length then
      digits.take (digits.length - places) ++ '.' :: digits.drop (digits.length - places)
    else '0' :: '.' :: List.replicate (places - digits.length) '0' ++ digits

/-- The digits of a decimal as one digit, its fraction, and a signed exponent. -/
def scientific (d : Decimal) : List Char :=
  let digits := d.digitChars
  let e := d.exponent + (digits.length - 1 : Nat)
  let exponent := (if 0 ≤ e then ['+'] else ['-']) ++ Nat.toDigits 10 e.natAbs
  let fraction := if digits.length = 1 then [] else '.' :: digits.drop 1
  digits.take 1 ++ fraction ++ 'e' :: exponent

/-- The sign that a decimal is written with. -/
def sign (d : Decimal) : List Char := if d.negative then ['-'] else []

end Decimal

end WormholeMap
