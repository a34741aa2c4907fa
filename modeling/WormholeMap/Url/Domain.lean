import WormholeMap.Text.Direction
import WormholeMap.Text.Joining
import WormholeMap.Url.Folding
import WormholeMap.Url.Punycode

/-!
Domain names, as users write them and in ASCII. The characters of a domain are folded first. A label
that is not ASCII then is written in Punycode after `xn--`; one that is written so already has to
stand for a label that folding leaves as it is. What the labels show has to be readable: none starts
with a mark, joiners stand where they have an effect, and directions do not mix within a label.
-/

namespace WormholeMap.Domain

/-! ### Labels -/

/-- The labels of a domain, which full stops separate. -/
def labels (domain : List Char) : List (List Char) :=
  domain.foldr (fun c done =>
    match c, done with
    | '.', _ => [] :: done
    | _, label :: rest => (c :: label) :: rest
    | _, [] => [[c]]) [[]]

/-- A label as it is shown, and in ASCII. -/
structure Label where
  shown : List Char
  ascii : List Char
  deriving DecidableEq

def punycodeMark : List Char := ['x', 'n', '-', '-']

def isAscii (label : List Char) : Bool := label.all (·.toNat < 128)

/-- The label of a text in Punycode. A label has one form: what is ASCII or is changed by folding is
never written so. -/
def ofPunycode? (text : List Char) : Option Label := do
  let shown ← if text.length ≤ 2000 then Punycode.decode? text else none
  if !isAscii shown ∧ Folding.fold? shown = some shown ∧ Punycode.encode shown = text then
    some ⟨shown, punycodeMark ++ text⟩
  else none

def ofFolded? (text : List Char) : Option Label :=
  if punycodeMark.isPrefixOf text then ofPunycode? (text.drop punycodeMark.length)
  else if isAscii text then some ⟨text, text⟩
  else some ⟨text, punycodeMark ++ Punycode.encode text⟩

/-! ### What labels show -/

/-- Whether a character lets its neighbours join, or keeps them from joining. -/
def isJoiner (c : Char) : Bool := c = '\u200c' || c = '\u200d'

/-- Whether each joiner has an effect: it follows a virama, or it keeps two letters from joining
that otherwise would. What is before the text is given backwards. -/
def joinersFit (backwards : List Char) : List Char → Bool
  | [] => true
  | c :: rest =>
    (!isJoiner c || backwards.head?.any (CombiningClass.ofChar · == CombiningClass.virama)
      || (c = '\u200c' && Joining.join backwards rest))
      && joinersFit (c :: backwards) rest

def isReadable (label : List Char) : Bool :=
  isAscii label
    || (label.length ≤ 1000 && !label.head?.any Mark.isMark && joinersFit [] label)

/-- Whether a label keeps one direction. One that runs from the left starts with a letter and ends
in a letter or a European number; one that runs from the right may also end in an Arabic number, but
not have numbers of both kinds. Marks at the end do not count. -/
def keepsDirection (label : List Char) : Bool :=
  let directions := label.map Direction.ofChar
  let last := (directions.reverse.dropWhile (· = .mark)).head?
  match directions.head? with
  | none => true
  | some .left =>
    directions.all [.left, .europeanNumber, .neutral, .mark].contains
      && last.any [.left, .europeanNumber].contains
  | some .right =>
    !directions.contains .left && last.any [.right, .europeanNumber, .arabicNumber].contains
      && !(directions.contains .europeanNumber && directions.contains .arabicNumber)
  | some _ => false

/-! ### Domains -/

/-- The labels of a domain as users write it. Where one of them has text that runs from the right,
each of them has to keep one direction. -/
def labels? (domain : List Char) : Option (List Label) := do
  let found ← (labels (← Folding.fold? domain)).mapM ofFolded?
  let shown := found.map Label.shown
  if shown.all isReadable
      ∧ (shown.any (·.any Direction.isRightward) → shown.all keepsDirection) then
    some found
  else none

def toAscii? (domain : List Char) : Option (List Char) :=
  (labels? domain).map fun found => ['.'].intercalate (found.map Label.ascii)

end WormholeMap.Domain
