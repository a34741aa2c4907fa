import WormholeMap.Json.Token

/-!
A JSON text as it is written: the tree of its values, with numerals still spelled out, strings that
may name no text, and members in their order, repeated or not. Nesting has no limit here.
-/

namespace WormholeMap.Json

/-- A JSON text as a tree. -/
inductive Written where
  | null
  | bool (b : Bool)
  | numeral (n : Numeral)
  | text (s : Option String)
  | array (items : List Written)
  | object (members : List (Option String × Written))

namespace Written

/-- A container whose end is still to come, its parts so far held in reverse. -/
inductive Frame where
  | items (done : List Written)
  | member (done : List (Option String × Written)) (key : Option String)

/-- What may come next, inside the open containers `outer`, the innermost first. -/
inductive Place where
  | value (outer : List Frame)
  | firstItem (outer : List Frame)
  | afterItem (done : List Written) (outer : List Frame)
  | firstKey (outer : List Frame)
  | laterKey (done : List (Option String × Written)) (outer : List Frame)
  | colon (done : List (Option String × Written)) (key : Option String) (outer : List Frame)
  | afterMember (done : List (Option String × Written)) (outer : List Frame)
  | finished (value : Written)

def put (value : Written) : List Frame → Place
  | [] => .finished value
  | .items done :: outer => .afterItem (value :: done) outer
  | .member done key :: outer => .afterMember ((key, value) :: done) outer

/-- The place after a token that starts a value, or is one. -/
def open? (outer : List Frame) : Token → Option Place
  | .null => some (put .null outer)
  | .bool b => some (put (.bool b) outer)
  | .numeral n => some (put (.numeral n) outer)
  | .text s => some (put (.text s) outer)
  | .openArray => some (.firstItem outer)
  | .openObject => some (.firstKey outer)
  | _ => none

def step : Place → Token → Option Place
  | .value outer, t => open? outer t
  | .firstItem outer, .closeArray => some (put (.array []) outer)
  | .firstItem outer, t => open? (.items [] :: outer) t
  | .afterItem done outer, .comma => some (.value (.items done :: outer))
  | .afterItem done outer, .closeArray => some (put (.array done.reverse) outer)
  | .firstKey outer, .closeObject => some (put (.object []) outer)
  | .firstKey outer, .text key => some (.colon [] key outer)
  | .laterKey done outer, .text key => some (.colon done key outer)
  | .colon done key outer, .colon => some (.value (.member done key :: outer))
  | .afterMember done outer, .comma => some (.laterKey done outer)
  | .afterMember done outer, .closeObject => some (put (.object done.reverse) outer)
  | _, _ => none

def parse? (bytes : List UInt8) : Option Written := do
  match ← (← tokens? bytes).foldlM step (.value []) with
  | .finished value => some value
  | _ => none

end Written

end WormholeMap.Json
