import WormholeMap.Url.Domain
import WormholeMap.Url.Percent

/-!
Hosts of URLs: domains, addresses of either length, and, in a URL whose scheme is not special, any
other name.
-/

namespace WormholeMap

/-- The host of a URL. An IPv6 address is eight pieces of 16 bits. -/
inductive Host where
  | domain (name : String)
  | ipv4 (address : Nat)
  | ipv6 (pieces : List Nat)
  | opaqueName (name : String)
  | empty
  deriving DecidableEq

namespace Host

/-! ### Addresses -/

/-- A number of an IPv4 address: hexadecimal after `0x`, octal after `0`, decimal otherwise. -/
def ipv4Number? : List Char → Option Nat
  | [] => none
  | ['0'] => some 0
  | '0' :: c :: rest =>
    if c = 'x' ∨ c = 'X' then Whole.ofBase? 16 rest else Whole.ofBase? 8 (c :: rest)
  | digits => Whole.ofBase? 10 digits

/-- The parts of a name without the empty one after a final full stop. -/
def numberParts (name : List Char) : List (List Char) :=
  let parts := Domain.labels name
  if parts.length ≠ 1 ∧ parts.getLast? = some [] then parts.dropLast else parts

/-- Whether a name can only be an IPv4 address. -/
def endsInNumber (name : List Char) : Bool :=
  match (numberParts name).getLast? with
  | some part => (part ≠ [] && part.all Char.isDigit) || (ipv4Number? part).isSome
  | none => false

/-- An IPv4 address of one to four numbers, of which the last fills all bytes that are left. -/
def ipv4? (name : List Char) : Option Host := do
  let numbers ← (numberParts name).mapM ipv4Number?
  let last ← numbers.getLast?
  let firsts := numbers.dropLast
  if numbers.length ≤ 4 ∧ firsts.all (· ≤ 255) ∧ last < Nat.pow 256 (5 - numbers.length) then
    some (.ipv4 (firsts.zipIdx.foldl (fun sum (n, i) => sum + n * Nat.pow 256 (3 - i)) last))
  else none

/-- A number of an IPv4 address at the end of an IPv6 address. -/
def byte? (digits : List Char) : Option Nat := do
  let n ← Whole.ofChars? digits
  if n ≤ 255 ∧ (digits.length = 1 ∨ digits.head? ≠ some '0') then some n else none

/-- The pieces that a part of an IPv6 address writes: one, or two where the last part is an IPv4
address. -/
def pieces? (isLast : Bool) (part : List Char) : Option (List Nat) :=
  if isLast && part.contains '.' then do
    match ← (Domain.labels part).mapM byte? with
    | [a, b, c, d] => some [a * 256 + b, c * 256 + d]
    | _ => none
  else if 1 ≤ part.length ∧ part.length ≤ 4 then (Whole.ofBase? 16 part).map ([·])
  else none

/-- The parts of a text that colons separate. -/
def colonParts (text : List Char) : List (List Char) :=
  text.foldr (fun c done =>
    match c, done with
    | ':', _ => [] :: done
    | _, part :: rest => (c :: part) :: rest
    | _, [] => [[c]]) [[]]

/-- The pieces of parts in order, the last of which may be an IPv4 address if they end the whole. -/
def allPieces? (mayEnd : Bool) (parts : List (List Char)) : Option (List Nat) :=
  ((parts.zipIdx).mapM fun (part, i) => pieces? (mayEnd && i + 1 = parts.length) part).map
    List.flatten

/-- Splits at the first two colons in a row. -/
def splitGap? : List Char → Option (List Char × List Char)
  | ':' :: ':' :: rest => some ([], rest)
  | c :: rest => (splitGap? rest).map fun (before, after) => (c :: before, after)
  | [] => none

/-- The parts on one side of a gap; an empty side has none. -/
def sideParts (side : List Char) : List (List Char) := if side = [] then [] else colonParts side

/-- An IPv6 address: eight pieces, of which a gap may stand for one or more that are zero. -/
def ipv6? (text : List Char) : Option Host :=
  match splitGap? text with
  | none => do
    let pieces ← allPieces? true (colonParts text)
    if pieces.length = 8 then some (.ipv6 pieces) else none
  | some (before, after) => do
    let front ← allPieces? false (sideParts before)
    let back ← allPieces? true (sideParts after)
    if front.length + back.length ≤ 7 then
      some (.ipv6 (front ++ List.replicate (8 - front.length - back.length) 0 ++ back))
    else none

/-! ### Names -/

def isForbidden (c : Char) : Bool :=
  ['\x00', '\t', '\n', '\r', ' ', '#', '/', ':', '<', '>', '?', '@', '[', '\\', ']', '^',
    '|'].contains c

def isForbiddenInDomain (c : Char) : Bool := isForbidden c || c < ' ' || c = '%' || c = '\x7f'

/-- The host of a URL whose scheme is special. -/
def special? (text : List Char) : Option Host := do
  let name ← Domain.toAscii? (Utf8.decodeLossy (Percent.decode text)).toList
  if name = [] ∨ name.any isForbiddenInDomain then none
  else if endsInNumber name then ipv4? name
  else some (.domain (String.ofList name))

def parse? (isSpecial : Bool) (text : List Char) : Option Host :=
  match text with
  | '[' :: rest =>
    if rest.getLast? = some ']' then ipv6? rest.dropLast else none
  | _ =>
    if isSpecial then special? text
    else if text = [] then some .empty
    else if text.any isForbidden then none
    else some (.opaqueName (String.ofList (Percent.encode (Percent.printableBut []) text)))

/-! ### Text -/

/-- The longest run of two or more zeros, as where it starts and how long it is. -/
def longestGap (pieces : List Nat) : Option (Nat × Nat) :=
  let runs := (List.range pieces.length).map fun i =>
    (i, ((pieces.drop i).takeWhile (· = 0)).length)
  runs.foldl (fun best run =>
    let size := match best with
      | some (_, n) => n
      | none => 1
    if size < run.2 then some run else best) none

def pieceText (n : Nat) : String := String.ofList (Nat.toDigits 16 n)

def toText : Host → String
  | domain name | opaqueName name => name
  | empty => ""
  | ipv4 a => ".".intercalate ([3, 2, 1, 0].map fun i => toString (a / Nat.pow 256 i % 256))
  | ipv6 pieces =>
    let join (ps : List Nat) : String := ":".intercalate (ps.map pieceText)
    match longestGap pieces with
    | some (i, n) => "[" ++ join (pieces.take i) ++ "::" ++ join (pieces.drop (i + n)) ++ "]"
    | none => "[" ++ join pieces ++ "]"

end Host

end WormholeMap
