/-!
Punycode: a label written in the characters of ASCII. First come its own ASCII characters, and after
a hyphen the places of the others, as differences in digits of base 36 whose weights adapt to what
has been written.
-/

namespace WormholeMap.Punycode

/-! ### Digits -/

/-- A digit of base 36: letters come first. -/
def digitChar (d : Nat) : Char := if d < 26 then Char.ofNat (97 + d) else Char.ofNat (22 + d)

def digitValue? (c : Char) : Option Nat :=
  if 'a' ≤ c ∧ c ≤ 'z' then some (c.toNat - 97)
  else if '0' ≤ c ∧ c ≤ '9' then some (c.toNat - 22)
  else none

/-- The least value of a digit after which another one follows. -/
def threshold (place bias : Nat) : Nat := max 1 (min 26 (place - bias))

/-- A difference in digits, the least significant first. -/
def writeDelta (bias place delta : Nat) : List Char :=
  let t := threshold place bias
  if _h : delta < t then [digitChar delta]
  else digitChar (t + (delta - t) % (36 - t)) ::
    writeDelta bias (place + 36) ((delta - t) / (36 - t))
termination_by delta
decreasing_by
  have ht : 1 ≤ threshold place bias := Nat.le_max_left ..
  have _h : ¬delta < threshold place bias := _h
  have := Nat.div_le_self (delta - threshold place bias) (36 - threshold place bias)
  omega

/-! ### Bias -/

/-- Halves the scale of a difference until it is small, and counts the digits that takes. -/
def scale (delta count : Nat) : Nat × Nat :=
  if _h : 455 < delta then scale (delta / 35) (count + 36) else (delta, count)
termination_by delta
decreasing_by omega

def adapt (delta points : Nat) (first : Bool) : Nat :=
  let delta := if first then delta / 700 else delta / 2
  let (delta, count) := scale (delta + delta / points) 0
  count + 36 * delta / (delta + 38)

/-! ### Labels -/

/-- What has been written of a label: the code reached, the places passed since the last character,
the bias, how many characters are written, and the digits. -/
structure Progress where
  code : Nat
  passed : Nat
  bias : Nat
  written : Nat
  output : List Char

/-- Passes the characters of a label in order and writes the places of one code. -/
def writeCode (plain : Nat) (label : List Char) (s : Progress) (code : Nat) : Progress :=
  let start := { s with code, passed := s.passed + (code - s.code) * (s.written + 1) }
  let done := label.foldl (fun s c =>
    if c.toNat < code then { s with passed := s.passed + 1 }
    else if c.toNat = code then
      { s with
        passed := 0
        bias := adapt s.passed (s.written + 1) (s.written = plain)
        written := s.written + 1
        output := s.output ++ writeDelta s.bias 36 s.passed }
    else s) start
  { done with code := code + 1, passed := done.passed + 1 }

def encode (label : List Char) : List Char :=
  let plain := label.filter (·.toNat < 128)
  let codes := ((label.map Char.toNat).filter (128 ≤ ·)).eraseDups.mergeSort
  let done := codes.foldl (writeCode plain.length label) ⟨128, 0, 72, plain.length, []⟩
  (if plain = [] then [] else plain ++ ['-']) ++ done.output

/-- Reads a difference: its value, and what follows it. -/
def readDelta? (bias place weight : Nat) : List Char → Option (Nat × List Char)
  | [] => none
  | c :: rest => do
    let digit ← digitValue? c
    let t := threshold place bias
    if digit < t then some (digit * weight, rest)
    else
      let (more, rest) ← readDelta? bias (place + 36) (weight * (36 - t)) rest
      some (digit * weight + more, rest)

/-- Reads the differences of a label and puts the characters they stand for into it. -/
def readPlaces? : Nat → Progress → List Char → Option (List Char)
  | _, s, [] => some s.output
  | 0, _, _ => none
  | fuel + 1, s, digits => do
    let (delta, rest) ← readDelta? s.bias 36 1 digits
    let total := s.passed + delta
    let code := s.code + total / (s.written + 1)
    let place := total % (s.written + 1)
    if code.isValidChar then
      readPlaces? fuel
        { code
          passed := place + 1
          bias := adapt delta (s.written + 1) (s.passed = 0)
          written := s.written + 1
          output := s.output.take place ++ Char.ofNat code :: s.output.drop place } rest
    else none

/-- The label that a text in Punycode stands for. -/
def decode? (text : List Char) : Option (List Char) :=
  let backwards := text.reverse
  let digits := (backwards.takeWhile (· ≠ '-')).reverse
  let plain := (backwards.dropWhile (· ≠ '-')).drop 1 |>.reverse
  readPlaces? digits.length ⟨128, 0, 72, plain.length, plain⟩ digits

end WormholeMap.Punycode
