import WormholeMap.Text.CombiningClass
import WormholeMap.Text.Composition

/-!
The composed form of texts. Two texts that look alike have it in common: characters are taken apart,
the marks on each are put in the order of their classes, and what composes is put together again.
-/

namespace WormholeMap.Normal

/-- The parts of a character, taken apart a number of times. -/
def partsOf : Nat → Char → List Char
  | 0, c => [c]
  | times + 1, c =>
    match Composition.split? c with
    | some (first, second) => partsOf times first ++ [second]
    | none => [c]

/-- Puts a character before others: a mark after the marks of lower classes. -/
def insert (c : Char) : List Char → List Char
  | [] => [c]
  | d :: rest =>
    let n := CombiningClass.ofChar d
    if 0 < n ∧ n < CombiningClass.ofChar c then d :: insert c rest else c :: d :: rest

/-- A text taken apart, with its marks in order. No character has more than three marks. -/
def decomposed (text : List Char) : List Char := (text.flatMap (partsOf 3)).foldr insert []

/-- Composes a character with what follows it. The marks that it passed without composing, the last
of them first, keep it from those of the same class or a lower one. -/
def composeAfter (base : Char) (passed : List Char) : List Char → List Char
  | [] => base :: passed.reverse
  | c :: rest =>
    let isNear := passed.head?.all fun d => CombiningClass.ofChar d < CombiningClass.ofChar c
    match if isNear then Composition.compose? base c else none with
    | some whole => composeAfter whole passed rest
    | none =>
      if CombiningClass.ofChar c = 0 then base :: passed.reverse ++ composeAfter c [] rest
      else composeAfter base (c :: passed) rest

/-- A text taken apart and put together. Characters before the first mark are alone as they are. -/
def composed (text : List Char) : List Char :=
  if text.all (·.toNat < 0x300) then text
  else match decomposed text with
    | [] => []
    | c :: rest => composeAfter c [] rest

end WormholeMap.Normal
