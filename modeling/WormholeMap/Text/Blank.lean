/-!
White space in the sense of Unicode, and text without it at either end.
-/

namespace WormholeMap

/-- The characters with the Unicode property `White_Space`. -/
def isBlank (c : Char) : Bool :=
  let n := c.toNat
  (9 ≤ n && n ≤ 13) || n == 0x20 || n == 0x85 || n == 0xA0 || n == 0x1680
    || (0x2000 ≤ n && n ≤ 0x200A) || n == 0x2028 || n == 0x2029 || n == 0x202F || n == 0x205F
    || n == 0x3000

/-- A text without the white space it starts and ends with. -/
def trimBlank (text : String) : String :=
  String.ofList ((text.toList.dropWhile isBlank).reverse.dropWhile isBlank).reverse

/-- A trimmed text, unless nothing is left of it. -/
def nonBlank? (text : String) : Option String :=
  if trimBlank text = "" then none else some (trimBlank text)

end WormholeMap
