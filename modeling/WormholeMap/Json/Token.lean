import WormholeMap.Json.Number
import WormholeMap.Text.Utf8

/-!
The tokens of a JSON text, found by one pass over its bytes. A numeral is kept as spelled, and a
string that is well written but names no text, for a lone surrogate or invalid UTF-8, is kept as a
string without a text.
-/

namespace WormholeMap.Json

/-- A token. -/
inductive Token where
  | openArray
  | closeArray
  | openObject
  | closeObject
  | comma
  | colon
  | null
  | bool (b : Bool)
  | numeral (n : Numeral)
  | text (s : Option String)
  deriving DecidableEq

/-- A piece of a string between its quotes: a byte, or the UTF-16 unit of a `\u` escape. -/
inductive Piece where
  | byte (b : UInt8)
  | unit (u : Nat)
  deriving DecidableEq

/-- The bytes that the pieces of a string stand for; surrogates must come in pairs. -/
def Piece.bytes? : List Piece → Option (List UInt8)
  | [] => some []
  | .byte b :: rest => (bytes? rest).map (b :: ·)
  | .unit u :: rest =>
    if u < 0xD800 ∨ 0xE000 ≤ u then
      (bytes? rest).map (Utf8.encode (String.singleton (Char.ofNat u)) ++ ·)
    else if u < 0xDC00 then
      match rest with
      | .unit v :: rest =>
        if 0xDC00 ≤ v ∧ v < 0xE000 then
          let c := Char.ofNat (0x10000 + (u - 0xD800) * 1024 + (v - 0xDC00))
          (bytes? rest).map (Utf8.encode (String.singleton c) ++ ·)
        else none
      | _ => none
    else none

/-- The text that the pieces of a string stand for. -/
def Piece.text? (pieces : List Piece) : Option String := bytes? pieces >>= Utf8.decode?

/-- Where the pass stands between two bytes; what a token has shown so far is held in reverse. -/
inductive Lexer where
  | between
  | word (letters : List Char)
  | numeral (chars : List Char)
  | text (pieces : List Piece)
  | escape (pieces : List Piece)
  | hex (pieces : List Piece) (value : Nat) (left : Nat)

namespace Lexer

def char (b : UInt8) : Char := Char.ofNat b.toNat

def wordToken? (letters : List Char) : Option Token :=
  if letters.reverse = "null".toList then some .null
  else if letters.reverse = "true".toList then some (.bool true)
  else if letters.reverse = "false".toList then some (.bool false)
  else none

def numeralToken? (chars : List Char) : Option Token :=
  (Numeral.parse? chars.reverse).map .numeral

def inNumeral (b : UInt8) : Bool :=
  (char b).isDigit || char b == '.' || char b == 'e' || char b == 'E' || char b == '+'
    || char b == '-'

def hexDigit? (b : UInt8) : Option Nat :=
  let c := char b
  if c.isDigit then some (c.toNat - 48)
  else if 'a' ≤ c ∧ c ≤ 'f' then some (c.toNat - 87)
  else if 'A' ≤ c ∧ c ≤ 'F' then some (c.toNat - 55)
  else none

/-- The byte that a one-letter escape stands for. -/
def escaped? (b : UInt8) : Option UInt8 :=
  match char b with
  | '"' => some 34
  | '\\' => some 92
  | '/' => some 47
  | 'b' => some 8
  | 'f' => some 12
  | 'n' => some 10
  | 'r' => some 13
  | 't' => some 9
  | _ => none

/-- A byte that starts a token, is one, or separates two. -/
def start (b : UInt8) (done : List Token) : Option (Lexer × List Token) :=
  match char b with
  | ' ' | '\n' | '\t' | '\r' => some (.between, done)
  | '[' => some (.between, .openArray :: done)
  | ']' => some (.between, .closeArray :: done)
  | '\x7b' => some (.between, .openObject :: done)
  | '\x7d' => some (.between, .closeObject :: done)
  | ',' => some (.between, .comma :: done)
  | ':' => some (.between, .colon :: done)
  | '"' => some (.text [], done)
  | c =>
    if c.isLower then some (.word [c], done)
    else if c.isDigit ∨ c = '-' then some (.numeral [c], done)
    else none

/-- One byte. `done` are the tokens so far, the last one first. -/
def step (b : UInt8) (done : List Token) : Lexer → Option (Lexer × List Token)
  | .between => start b done
  | .word letters =>
    if (char b).isLower then some (.word (char b :: letters), done)
    else do start b ((← wordToken? letters) :: done)
  | .numeral chars =>
    if inNumeral b then some (.numeral (char b :: chars), done)
    else do start b ((← numeralToken? chars) :: done)
  | .text pieces =>
    if b = 34 then some (.between, .text (Piece.text? pieces.reverse) :: done)
    else if b = 92 then some (.escape pieces, done)
    else if b < 32 then none
    else some (.text (.byte b :: pieces), done)
  | .escape pieces =>
    if b = 117 then some (.hex pieces 0 4, done)
    else (escaped? b).map fun e => (.text (.byte e :: pieces), done)
  | .hex pieces value left =>
    (hexDigit? b).map fun d =>
      (if left ≤ 1 then .text (.unit (value * 16 + d) :: pieces)
        else .hex pieces (value * 16 + d) (left - 1), done)

def finish (done : List Token) : Lexer → Option (List Token)
  | .between => some done.reverse
  | .word letters => do return ((← wordToken? letters) :: done).reverse
  | .numeral chars => do return ((← numeralToken? chars) :: done).reverse
  | _ => none

end Lexer

def tokens? (bytes : List UInt8) : Option (List Token) := do
  let (lexer, done) ← bytes.foldlM (fun s b => Lexer.step b s.2 s.1) (Lexer.between, [])
  lexer.finish done

end WormholeMap.Json
