import WormholeMap.Config
import WormholeMap.Decimal.Read
import WormholeMap.Map.Geometry
import WormholeMap.Map.Id

/-!
Command lines: options that stand before or after the name of a command, and what the command works
on.
-/

namespace WormholeMap.Cli

/-- The options that every command has. -/
structure Options where
  apiUrl : Option String
  session : Option String
  reconnectMs : Option Nat

/-- A command. Statuses are still names here. -/
inductive Command where
  | watch (map : MapId)
  | events (map : MapId) (resume : Option Cursor)
  | snapshot (map : MapId)
  | lock (map : MapId) (node : NodeId)
  | move (map : MapId) (node : NodeId) (position : Position)
  | reverse (map : MapId) (link : LinkId)
  | mass (map : MapId) (link : LinkId) (status : String)
  | lifetime (map : MapId) (link : LinkId) (status : String)
  | delete (map : MapId) (nodes : List NodeId) (links : List LinkId)

/-! ### Words -/

/-- A word that names an option, with the value attached to it, if there is one. -/
def longOption? (word : String) : Option (String × Option String) :=
  match word.toList with
  | '-' :: '-' :: rest =>
    let value := match rest.dropWhile (· ≠ '=') with
      | _ :: value => some (String.ofList value)
      | [] => none
    some (String.ofList (rest.takeWhile (· ≠ '=')), value)
  | _ => none

/-- Whether a word starts with a hyphen and goes on. -/
def isHyphenated (word : String) : Bool :=
  match word.toList with
  | '-' :: _ :: _ => true
  | _ => false

/-- Whether characters are digits, which a point and more digits may follow, and then an exponent
mark and its digits. -/
def isPlainNumber (chars : List Char) : Bool :=
  let rest := chars.dropWhile Char.isDigit
  let exponent (rest : List Char) : Bool :=
    match rest with
    | [] => true
    | c :: digits => (c = 'e' || c = 'E') && digits ≠ [] && digits.all Char.isDigit
  (chars.head?.map Char.isDigit).getD false &&
    match rest with
    | '.' :: rest => exponent (rest.dropWhile Char.isDigit)
    | rest => exponent rest

/-- Whether a word is a negative number rather than an option. -/
def isNegativeNumber (word : String) : Bool :=
  match word.toList with
  | '-' :: rest => isPlainNumber rest
  | _ => false

/-- The words after the name of a command: options with their values, and the others. -/
structure Words where
  options : List (String × String)
  others : List String

/-- Words with one more option before them. -/
def Words.addOption (w : Words) (name value : String) : Words :=
  { w with options := (name, value) :: w.options }

/-- Words with one more other word before them. -/
def Words.addOther (w : Words) (word : String) : Words := { w with others := word :: w.others }

/-- Sorts words, of which the first may be the value that an option waits for. After two hyphens
every word counts as no option, and so does a negative number where a number is due, as the count of
the other words before it tells. -/
def sort? (names : List String) (numberDue : Nat → Bool) :
    Option String → Nat → List String → Option Words
  | none, _, [] => some ⟨[], []⟩
  | some _, _, [] => none
  | some name, count, value :: rest =>
    if isHyphenated value then none
    else (sort? names numberDue none count rest).map (·.addOption name value)
  | none, count, word :: rest =>
    if word = "--" then some ⟨[], rest⟩
    else
      match longOption? word with
      | some (name, value) =>
        if names.contains name then
          match value with
          | some value => (sort? names numberDue none count rest).map (·.addOption name value)
          | none => sort? names numberDue (some name) count rest
        else none
      | none =>
        if isHyphenated word ∧ !(numberDue count && isNegativeNumber word) then none
        else (sort? names numberDue none (count + 1) rest).map (·.addOther word)

/-- The names of the options that every command has. -/
def commonNames : List String := ["api-url", "session", "reconnect-ms"]

/-- Splits off the options that stand before the name of a command; the first word may be the value
that one of them waits for. -/
def splitCommand? : Option String → List String →
    Option (List (String × String) × String × List String)
  | _, [] => none
  | some name, value :: rest =>
    if isHyphenated value then none
    else (splitCommand? none rest).map fun (options, more) => ((name, value) :: options, more)
  | none, word :: rest =>
    match longOption? word with
    | some (name, value) =>
      if commonNames.contains name then
        match value with
        | some value =>
          (splitCommand? none rest).map fun (options, more) => ((name, value) :: options, more)
        | none => splitCommand? (some name) rest
      else none
    | none => if isHyphenated word then none else some ([], word, rest)

/-! ### Options -/

/-- The value of an option that may stand once. -/
def single? (name : String) (options : List (String × String)) : Option (Option String) :=
  match options.filter (·.1 = name) with
  | [] => some none
  | [(_, value)] => some (some value)
  | _ => none

def values (name : String) (options : List (String × String)) : List String :=
  (options.filter (·.1 = name)).map (·.2)

def readOptions? (options : List (String × String)) : Option Options := do
  let reconnect ← single? "reconnect-ms" options
  return {
    apiUrl := ← single? "api-url" options
    session := ← single? "session" options
    reconnectMs := ← match reconnect with
      | none => some none
      | some text => (Whole.parse64? text).map some }

/-- Options after the name of the command win over those before it. -/
def Options.orElse (later earlier : Options) : Options where
  apiUrl := later.apiUrl <|> earlier.apiUrl
  session := later.session <|> earlier.session
  reconnectMs := later.reconnectMs <|> earlier.reconnectMs

/-- Variables as the options override them. -/
def Options.lookup (o : Options) (env : String → Option String) (name : String) :
    Option String :=
  let option :=
    if name = Config.urlVariable then o.apiUrl
    else if name = Config.sessionVariable then o.session
    else if name = Config.reconnectVariable then o.reconnectMs.map toString
    else none
  option <|> env name

/-! ### Commands -/

def map? (text : String) : Option MapId := (Uuid.parse? text).map MapId.mk
def node? (text : String) : Option NodeId := (Uuid.parse? text).map NodeId.mk
def link? (text : String) : Option LinkId := (Uuid.parse? text).map LinkId.mk

def ownNames : String → List String
  | "events" => ["from"]
  | "delete" => ["node", "link"]
  | _ => []

/-- Whether the word of a command with a number of words before it is a number: the coordinates of a
move come after the map and the node. -/
def isNumberDue (name : String) (count : Nat) : Bool := name = "move" && 2 ≤ count

/-- A command by its name, its options and its other words. -/
def readCommand? (name : String) (options : List (String × String)) :
    List String → Option Command
  | [map] => do
    let map ← map? map
    match name with
    | "watch" => some (.watch map)
    | "events" => return .events map (← single? "from" options)
    | "snapshot" => some (.snapshot map)
    | "delete" =>
      return .delete map (← (values "node" options).mapM node?)
        (← (values "link" options).mapM link?)
    | _ => none
  | [map, subject] => do
    let map ← map? map
    match name with
    | "lock" => return .lock map (← node? subject)
    | "reverse" => return .reverse map (← link? subject)
    | _ => none
  | [map, subject, status] => do
    let map ← map? map
    let link ← link? subject
    match name with
    | "mass" => some (.mass map link status)
    | "lifetime" => some (.lifetime map link status)
    | _ => none
  | [map, node, x, y] => do
    if name = "move" then
      return .move (← map? map) (← node? node)
        ⟨← Decimal.parseFloat? x, ← Decimal.parseFloat? y⟩
    else none
  | _ => none

/-- The options and the command of a command line, if it is well formed. -/
def parse? (args : List String) : Option (Options × Command) := do
  let (before, name, rest) ← splitCommand? none args
  let words ← sort? (commonNames ++ ownNames name) (isNumberDue name) none 0 rest
  let command ← readCommand? name words.options words.others
  return ((← readOptions? words.options).orElse (← readOptions? before), command)

end WormholeMap.Cli
