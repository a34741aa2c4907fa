import WormholeMap.Text.Whole

/-!
Tables of characters by their codes, written as texts: words apart by blanks, in each a code in
hexadecimal, or the first and the last code of a range with a hyphen between them. The tables of the
library follow version 17 of Unicode and have additions of version 18.
-/

namespace WormholeMap

/-- Codes in a row. -/
structure CodeRange where
  first : Nat
  last : Nat
  deriving DecidableEq

namespace CodeRange

def contains (r : CodeRange) (n : Nat) : Bool := r.first ≤ n && n ≤ r.last

/-- The parts of a text that a character separates. -/
def parts (separator : Char) (text : List Char) : List (List Char) :=
  text.foldr (fun c done =>
    if c = separator then [] :: done
    else match done with
      | part :: rest => (c :: part) :: rest
      | [] => [[c]]) [[]]

def words (text : String) : List (List Char) :=
  (parts ' ' (text.toList.map fun c => if c = '\n' then ' ' else c)).filter (· ≠ [])

/-- The code that hexadecimal digits write. -/
def code? (digits : List Char) : Option Nat := Whole.ofBase? 16 digits

/-- A code, or two with a hyphen between them. -/
def ofWord? (word : List Char) : Option CodeRange :=
  match (parts '-' word).mapM code? with
  | some [code] => some ⟨code, code⟩
  | some [first, last] => some ⟨first, last⟩
  | _ => none

def ofText (text : String) : List CodeRange := (words text).filterMap ofWord?

end CodeRange

/-- Whether one of the ranges of a table contains a code. -/
def isListed (table : List CodeRange) (n : Nat) : Bool := table.any (·.contains n)

end WormholeMap
