import WormholeMap.Json.Document

/-!
Universally unique identifiers. They are read in four written forms, of any case, and written in
one: lower-case hexadecimal digits in groups of 8, 4, 4, 4 and 12.
-/

namespace WormholeMap

/-- An identifier of 128 bits, as its 32 hexadecimal digits. -/
structure Uuid where
  digits : List (Fin 16)
  length_digits : digits.length = 32
  deriving DecidableEq

namespace Uuid

/-- The value of a hexadecimal digit of either case. -/
def digit? (c : Char) : Option (Fin 16) :=
  let n := c.toNat
  if 48 ≤ n ∧ n ≤ 57 then some (Fin.ofNat 16 (n - 48))
  else if 97 ≤ n ∧ n ≤ 102 then some (Fin.ofNat 16 (n - 87))
  else if 65 ≤ n ∧ n ≤ 70 then some (Fin.ofNat 16 (n - 55))
  else none

def ofDigits? (digits : List (Fin 16)) : Option Uuid :=
  if h : digits.length = 32 then some ⟨digits, h⟩ else none

def parseSimple? (chars : List Char) : Option Uuid := chars.mapM digit? >>= ofDigits?

/-- The form with hyphens after 8, 12, 16 and 20 digits. -/
def parseHyphenated? (chars : List Char) : Option Uuid :=
  if chars.length = 36 ∧ chars[8]? = some '-' ∧ chars[13]? = some '-' ∧ chars[18]? = some '-'
      ∧ chars[23]? = some '-' then
    parseSimple? (chars.take 8 ++ (chars.drop 9).take 4 ++ (chars.drop 14).take 4
      ++ (chars.drop 19).take 4 ++ chars.drop 24)
  else none

/-- Reads an identifier: 32 digits, the hyphenated form, that form in braces, or that form after
`urn:uuid:` of any case. -/
def parse? (text : String) : Option Uuid :=
  let chars := text.toList
  if chars.length = 32 then parseSimple? chars
  else if chars.length = 45 ∧ (chars.take 9).map Char.toLower = "urn:uuid:".toList then
    parseHyphenated? (chars.drop 9)
  else if chars.length = 38 ∧ chars.head? = some '\x7b' ∧ chars.getLast? = some '\x7d' then
    parseHyphenated? (chars.drop 1).dropLast
  else parseHyphenated? chars

def digitChar (d : Fin 16) : Char := Nat.digitChar d.val

def toChars (u : Uuid) : List Char :=
  let cs := u.digits.map digitChar
  cs.take 8 ++ '-' :: (cs.drop 8).take 4 ++ '-' :: (cs.drop 12).take 4 ++ '-'
    :: (cs.drop 16).take 4 ++ '-' :: cs.drop 20

def toText (u : Uuid) : String := String.ofList u.toChars

instance : ToString Uuid := ⟨toText⟩

/-- Reads an identifier from a JSON string. -/
def read {δ : Type} [Json.Document δ] (d : δ) : Option Uuid := Json.readString d >>= parse?

def toJson (u : Uuid) : Json := .string u.toText

/-- A random identifier: version 4 in the thirteenth digit, variant binary 10 in the
seventeenth. -/
def random (gen : StdGen) : Uuid × StdGen :=
  let pick := fun (s : List (Fin 16) × StdGen) (_ : Nat) =>
    let (n, g) := randNat s.2 0 15
    (Fin.ofNat 16 n :: s.1, g)
  let (ds, gen) := (List.range 30).foldl pick ([], gen)
  let (v, gen) := randNat gen 8 11
  let digits := ds.take 12 ++ 4 :: (ds.drop 12).take 3 ++ Fin.ofNat 16 v :: (ds.drop 15).take 15
  (⟨(digits ++ List.replicate 32 0).take 32, by simp⟩, gen)

def version (u : Uuid) : Nat := (u.digits.getD 12 0).val

/-- Whether an identifier has the variant binary 10. -/
def isStandardVariant (u : Uuid) : Bool := (u.digits.getD 16 0).val / 4 = 2

end Uuid

end WormholeMap
