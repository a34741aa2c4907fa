import WormholeMap.Text.Blank
import WormholeMap.Url.Basic

/-!
The configuration of a client, read from named variables.
-/

namespace WormholeMap

/-- Where the backend is, the session that the viewer is known by, and two spans in milliseconds:
the wait before a dropped stream is reopened, and the quiet period before a viewport is saved. -/
structure Config where
  apiUrl : Url
  session : Option String
  reconnectMs : Nat
  debounceMs : Nat

/-- Why variables are no configuration. -/
inductive ConfigError where
  | invalidUrl (name value : String)
  | invalidMillis (name value : String)
  deriving DecidableEq

def ConfigError.message : ConfigError → String
  | invalidUrl name value => s!"{name} is not a valid URL: '{value}'"
  | invalidMillis name value => s!"{name} must be a whole number of milliseconds, got '{value}'"

namespace Config

def urlVariable : String := "LINKED_API_URL"
def sessionVariable : String := "LINKED_SESSION"
def reconnectVariable : String := "LINKED_RECONNECT_MS"
def debounceVariable : String := "LINKED_VIEWPORT_DEBOUNCE_MS"

/-- The address of a backend on this machine. -/
def defaultUrl : String := "http://localhost:8000"

/-- The wait before a dropped stream is reopened, where none is given. -/
def defaultReconnectMs : Nat := 3000

/-- The quiet period before a viewport is saved, where none is given. -/
def defaultDebounceMs : Nat := 500

/-- A span in milliseconds: white space around the number does not count. -/
def readMillis (lookup : String → Option String) (name : String) (default : Nat) :
    Except ConfigError Nat :=
  match lookup name with
  | none => .ok default
  | some value =>
    match Whole.parse64? (trimBlank value) with
    | some ms => .ok ms
    | none => .error (.invalidMillis name value)

def readUrl (lookup : String → Option String) : Except ConfigError Url :=
  let text := (lookup urlVariable).getD defaultUrl
  match Url.parse? text with
  | some url => .ok url
  | none => .error (.invalidUrl urlVariable text)

/-- The configuration that variables describe. An empty session is none. -/
def ofVariables (lookup : String → Option String) : Except ConfigError Config := do
  let apiUrl ← readUrl lookup
  let reconnectMs ← readMillis lookup reconnectVariable defaultReconnectMs
  let debounceMs ← readMillis lookup debounceVariable defaultDebounceMs
  return { apiUrl, session := (lookup sessionVariable).filter (· ≠ ""), reconnectMs, debounceMs }

/-- The URL of the backend as text, without slashes at its end, so that a path can follow. -/
def baseUrl (c : Config) : String :=
  String.ofList (c.apiUrl.toText.toList.reverse.dropWhile (· = '/')).reverse

end Config

end WormholeMap
