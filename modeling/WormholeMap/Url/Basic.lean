import WormholeMap.Url.Host

/-!
URLs: reading an absolute one in whatever form users write it, and its one normal form. A scheme is
special if its URLs have a host: reading these is lenient about slashes, and a missing path is the
root.
-/

namespace WormholeMap

/-- Where a URL leads: credentials, a host, and a port unless it is the usual one. -/
structure Authority where
  username : String
  password : String
  host : Host
  port : Option Nat
  deriving DecidableEq

/-- The path of a URL: a text of no structure, or segments. -/
inductive UrlPath where
  | opaqueText (text : String)
  | segments (segments : List String)
  deriving DecidableEq

/-- An absolute URL in its parts. -/
structure Url where
  scheme : String
  authority : Option Authority
  path : UrlPath
  query : Option String
  fragment : Option String
  deriving DecidableEq

namespace Url

/-! ### Schemes -/

def usualPort? : String → Option Nat
  | "http" => some 80
  | "https" => some 443
  | "ws" => some 80
  | "wss" => some 443
  | "ftp" => some 21
  | _ => none

/-- Whether the URLs of a scheme have a host. -/
def isSpecial (scheme : String) : Bool := (usualPort? scheme).isSome || scheme == "file"

/-- Splits off a scheme: a letter, then letters, digits and `+-.`, up to a colon. -/
def splitScheme? (text : List Char) : Option (String × List Char) :=
  let name := text.takeWhile (· ≠ ':')
  match name, text.dropWhile (· ≠ ':') with
  | c :: more, _ :: rest =>
    if c.isAlpha ∧ more.all (fun c => c.isAlphanum || ['+', '-', '.'].contains c) then
      some (String.ofList (name.map Char.toLower), rest)
    else none
  | _, _ => none

/-! ### What is written out in each part -/

def fragmentSet : List Char := [' ', '"', '<', '>', '\x60']
def querySet : List Char := [' ', '"', '#', '<', '>']
def specialQuerySet : List Char := '\x27' :: querySet
def pathSet : List Char := ['#', '?', '\x7b', '\x7d'] ++ fragmentSet
def userSet : List Char := ['/', ':', ';', '=', '@', '[', '\\', ']', '^', '|'] ++ pathSet

/-- A part with the characters of a set written out, and all that are not printable ASCII. -/
def writeOut (escaped : List Char) (text : List Char) : String :=
  String.ofList (Percent.encode (Percent.printableBut escaped) text)

/-! ### Authority -/

/-- Whether a character ends a segment of a path. -/
def isSlash (special : Bool) (c : Char) : Bool := c = '/' || (special && c = '\\')

def splitUser (text : List Char) : Option (List Char) × List Char :=
  if text.contains '@' then
    let backwards := text.reverse
    (some ((backwards.dropWhile (· ≠ '@')).drop 1).reverse, (backwards.takeWhile (· ≠ '@')).reverse)
  else (none, text)

/-- Splits at the first colon outside brackets, which starts the port. -/
def splitPort (inBrackets : Bool) : List Char → List Char × Option (List Char)
  | [] => ([], none)
  | c :: rest =>
    if c = ':' ∧ !inBrackets then ([], some rest)
    else
      let inBrackets := if c = '[' then true else if c = ']' then false else inBrackets
      let (host, port) := splitPort inBrackets rest
      (c :: host, port)

/-- A port, unless it is the usual one or empty. -/
def readPort? (scheme : String) (digits : List Char) : Option (Option Nat) :=
  if digits = [] then some none
  else do
    let port ← Whole.ofChars? digits
    if port < 65536 then some (if usualPort? scheme = some port then none else some port) else none

/-- The authority that a text starts with, and the path after it; a backslash too ends a port. A
host may be left out only where the scheme is not special and nothing stands beside the host: no
port, no credentials that are written, and no at sign before more of the URL. -/
def readAuthority? (scheme : String) (isWhole : Bool) (text : List Char) :
    Option (Authority × List Char) := do
  let special := isSpecial scheme
  let written := text.takeWhile fun c => !isSlash special c
  let rest := text.drop written.length
  let (user, place) := splitUser written
  let (hostText, portText) := splitPort false place
  let digits := (portText.getD []).takeWhile (· ≠ '\\')
  let rest := (portText.getD []).drop digits.length ++ rest
  let username := writeOut userSet ((user.getD []).takeWhile (· ≠ ':'))
  let password := writeOut userSet (((user.getD []).dropWhile (· ≠ ':')).drop 1)
  if hostText = [] ∧ (special ∨ portText.isSome ∨ username ≠ "" ∨ password ≠ ""
      ∨ (user = some [] ∧ !(isWhole && rest.isEmpty))) then none
  else
    let host ← Host.parse? special hostText
    let port ← readPort? scheme digits
    some ({ username, password, host, port }, rest)

/-! ### Path -/

/-- Whether a segment stands for the directory it is in. -/
def isSingleDot (segment : List Char) : Bool :=
  [".", "%2e"].contains (String.ofList (segment.map Char.toLower))

/-- Whether a segment stands for the directory above. -/
def isDoubleDot (segment : List Char) : Bool :=
  ["..", ".%2e", "%2e.", "%2e%2e"].contains (String.ofList (segment.map Char.toLower))

/-- Whether a segment names a drive: a letter and a colon or a bar. -/
def isDrive : List Char → Bool
  | [c, d] => c.isAlpha && (d = ':' || d = '|')
  | _ => false

/-- The segments of a path, as the slashes separate them. -/
def splitPath (special : Bool) (text : List Char) : List (List Char) :=
  text.foldr (fun c done =>
    match isSlash special c, done with
    | true, _ => [] :: done
    | false, segment :: rest => (c :: segment) :: rest
    | false, [] => [[c]]) [[]]

/-- The directory above. A drive has none. -/
def parent (done : List String) : List String :=
  if done.getLast?.any (isDrive ·.toList) then done else done.dropLast

def walk (scheme : String) (done : List String) : List (List Char) → List String
  | [] => done
  | segment :: rest =>
    let isLast := rest.isEmpty
    if isDoubleDot segment then
      let above := parent done
      walk scheme (if isLast then above ++ [""] else above) rest
    else if isSingleDot segment then walk scheme (if isLast then done ++ [""] else done) rest
    else
      let segment :=
        if scheme = "file" ∧ done = [] ∧ isDrive segment then [segment.headD ' ', ':'] else segment
      walk scheme (done ++ [writeOut pathSet segment]) rest

/-- The segments of the path that follows an authority, or takes the place of one. -/
def readPath (scheme : String) (text : List Char) : List String :=
  let special := isSpecial scheme
  match text with
  | [] => if special then [""] else []
  | c :: rest =>
    walk scheme [] (splitPath special (if isSlash special c then rest else c :: rest))

/-! ### Reading -/

/-- Splits off the query and the fragment, each after its mark. -/
def splitEnds (text : List Char) : List Char × Option (List Char) × Option (List Char) :=
  let main := text.takeWhile (· ≠ '#')
  let fragment := match text.dropWhile (· ≠ '#') with
    | _ :: rest => some rest
    | [] => none
  let query := match main.dropWhile (· ≠ '?') with
    | _ :: rest => some rest
    | [] => none
  (main.takeWhile (· ≠ '?'), query, fragment)

/-- The place of a file at a host: a path that starts with a drive has no host, and empty segments
do not start a path. -/
def filePlace (host : Host) (text : List Char) : Authority × UrlPath :=
  let segments := readPath "file" text
  let host := if segments.head?.any (isDrive ·.toList) then .empty else host
  let named := segments.dropWhile (· = "")
  (⟨"", "", host, none⟩, .segments (if named = [] then [""] else named))

def readFile? (text : List Char) : Option (Authority × UrlPath) :=
  match text with
  | a :: b :: rest =>
    if isSlash true a ∧ isSlash true b then
      let name := rest.takeWhile fun c => !isSlash true c
      let path := rest.drop name.length
      if isDrive name then some (filePlace .empty rest)
      else if name = [] then some (filePlace .empty path)
      else
        (Host.parse? true name).map fun host =>
          filePlace (if host = .domain "localhost" then .empty else host) path
    else some (filePlace .empty text)
  | _ => some (filePlace .empty text)

/-- The authority, if any, and the path that follow a scheme. -/
def readPlace? (scheme : String) (isWhole : Bool) (text : List Char) :
    Option (Option Authority × UrlPath) :=
  let special := isSpecial scheme
  let after (text : List Char) : Option (Option Authority × UrlPath) :=
    (readAuthority? scheme isWhole text).map fun (authority, rest) =>
      (some authority, .segments (readPath scheme rest))
  if scheme = "file" then (readFile? text).map fun (authority, path) => (some authority, path)
  else if special then after (text.dropWhile (isSlash true))
  else
    match text with
    | '/' :: '/' :: rest => after rest
    | '/' :: _ => some (none, .segments (readPath scheme text))
    | _ => some (none, .opaqueText (writeOut [] text))

/-- A text without the control characters and spaces around it, and without tabs and line ends. -/
def tidy (text : String) : List Char :=
  let inner := ((text.toList.dropWhile (· ≤ ' ')).reverse.dropWhile (· ≤ ' ')).reverse
  inner.filter fun c => !(['\t', '\n', '\r'].contains c)

def parse? (text : String) : Option Url := do
  let (scheme, rest) ← splitScheme? (tidy text)
  let (place, query, fragment) := splitEnds rest
  let (authority, path) ← readPlace? scheme (query.isNone && fragment.isNone) place
  some {
    scheme
    authority
    path
    query := query.map (writeOut (if isSpecial scheme then specialQuerySet else querySet))
    fragment := fragment.map (writeOut fragmentSet) }

/-! ### Text -/

/-- The credentials before a host, with their at sign. -/
def Authority.userText (a : Authority) : String :=
  if a.username = "" ∧ a.password = "" then ""
  else a.username ++ (if a.password = "" then "" else ":" ++ a.password) ++ "@"

/-- An authority with the slashes before it. -/
def Authority.toText (a : Authority) : String :=
  "//" ++ Authority.userText a ++ a.host.toText ++ match a.port with
    | some port => ":" ++ toString port
    | none => ""

def pathText (u : Url) : String :=
  match u.path with
  | .opaqueText text => text
  | .segments segments => String.join (segments.map ("/" ++ ·))

/-- The normal form of a URL. Where a path could be taken for an authority, a dot comes first. -/
def toText (u : Url) : String :=
  let place := match u.authority, u.path with
    | some a, _ => Authority.toText a
    | none, .segments ("" :: _ :: _) => "/."
    | none, _ => ""
  let ending (mark : String) : Option String → String
    | some text => mark ++ text
    | none => ""
  u.scheme ++ ":" ++ place ++ u.pathText ++ ending "?" u.query ++ ending "#" u.fragment

/-- The URL with a parameter of a form added to its query. -/
def withParameter (u : Url) (name value : String) : Url :=
  let parameter := Percent.encodeForm name ++ "=" ++ Percent.encodeForm value
  let query := match u.query with
    | none | some "" => parameter
    | some query => query ++ "&" ++ parameter
  { u with query := some query }

end Url

end WormholeMap
