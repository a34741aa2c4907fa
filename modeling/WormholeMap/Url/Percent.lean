import WormholeMap.Text.Utf8
import WormholeMap.Text.Whole

/-!
Percent encoding: characters that have no place in a part of a URL are written as a percent sign and
two hexadecimal digits for each byte of their UTF-8.
-/

namespace WormholeMap.Percent

/-- A hexadecimal digit, in capitals. -/
def hexChar (n : Nat) : Char := if n < 10 then Char.ofNat (48 + n) else Char.ofNat (55 + n)

def escape (b : UInt8) : List Char := ['%', hexChar (b.toNat / 16), hexChar (b.toNat % 16)]

/-- A text in which the characters that are not kept are written out. -/
def encode (keeps : Char → Bool) (text : List Char) : List Char :=
  text.flatMap fun c => if keeps c then [c] else (Utf8.encode (String.singleton c)).flatMap escape

/-- The printable ASCII characters but for some. -/
def printableBut (escaped : List Char) (c : Char) : Bool :=
  ' ' ≤ c && c ≤ '~' && !escaped.contains c

/-- The bytes of a text in which some may be written out. -/
def decode : List Char → List UInt8
  | '%' :: a :: b :: rest =>
    match Whole.digitValue? a, Whole.digitValue? b with
    | some x, some y => (x * 16 + y).toUInt8 :: decode rest
    | _, _ => 37 :: decode (a :: b :: rest)
  | c :: rest => Utf8.encode (String.singleton c) ++ decode rest
  | [] => []

def isFormChar (c : Char) : Bool := c.isAlphanum || ['*', '-', '.', '_'].contains c

/-- A value of a form: a space becomes a plus sign, and all but letters, digits and `*-._` is
written out. -/
def encodeForm (value : String) : String :=
  String.ofList (value.toList.flatMap fun c => if c = ' ' then ['+'] else encode isFormChar [c])

end WormholeMap.Percent
