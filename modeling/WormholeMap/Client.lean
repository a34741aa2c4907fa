import WormholeMap.Backend.Basic
import WormholeMap.Config
import WormholeMap.Map.Record
import WormholeMap.Toast

/-!
The client of a backend: it makes requests, tells success from failure, and reads what comes back.
-/

namespace WormholeMap

/-! ### What a client acts on -/

/-- What a client acts on: a wire, and the user who is shown toasts. -/
structure Context (σ : Type) where
  wire : Wire σ
  toasts : ToastLog

abbrev Run (σ : Type) := StateM (Context σ)

def notify (t : Toast) : Run σ Unit := modify fun c => { c with toasts := c.toasts.notify t }

def sleep (ms : Nat) : Run σ Unit := modify fun c => { c with wire := c.wire.wait ms }

/-! ### Failures -/

/-- Why a request failed: no whole response came back, the backend refused it, or the response is
not what was asked for. -/
inductive ApiError where
  | network
  | rejected (status : Nat) (detail : Option String)
  | decode
  deriving DecidableEq

/-- The detail in the body of a refusal: a text that is not blank, under `detail`. -/
def refusalDetail (body : List UInt8) : Option String :=
  ((Json.parseText? (Utf8.decodeLossy body) >>= Json.get? "detail") >>= Json.text?) >>= nonBlank?

def rejectionMessage (status : Nat) (detail : Option String) : String :=
  s!"backend rejected request ({status}): " ++ detail.getD "no detail"

namespace Reply

/-- The response that a reply is, if it is one of success. A refusal whose body breaks off has no
detail. -/
def check : Reply → Except ApiError Response
  | response r =>
    if r.isSuccess then .ok r else .error (.rejected r.status (refusalDetail (r.body?.getD [])))
  | _ => .error .network

end Reply

def Response.read (read : Json.Written → Option α) (r : Response) : Except ApiError α :=
  match r.body? with
  | none => .error .network
  | some bytes =>
    match Json.Written.parse? bytes >>= read with
    | some a => .ok a
    | none => .error .decode

/-! ### The client -/

/-- Where to send requests, the session they are sent in, and the wait in milliseconds before a
stream is reopened, as long as the backend asks for no other. -/
structure Client where
  baseUrl : String
  session : Option String
  reconnectMs : Nat

/-- The client that a configuration describes. -/
def Config.client (c : Config) : Client := ⟨c.baseUrl, c.session, c.reconnectMs⟩

namespace Client

/-- The parameter of a request that carries a cursor. -/
def cursorParameter : String := "last_event_id"

def message (c : Client) (r : Request) : Message where
  request := r
  url := (Url.parse? (c.baseUrl ++ r.path)).map fun url =>
    match r.cursor? with
    | some cursor => url.withParameter cursorParameter cursor
    | none => url
  cookie := c.session.map ("session=" ++ ·)

def send (c : Client) (r : Request) : Run σ Reply := fun ctx =>
  let (reply, wire) := ctx.wire.send (c.message r)
  (reply, { ctx with wire })

/-- Makes a request and discards the body of the response. -/
def submit (c : Client) (r : Request) : Run σ (Except ApiError Unit) := do
  return (← c.send r).check.map fun _ => ()

/-- Makes a request and reads the body of the response. -/
def fetch (c : Client) (read : Json.Written → Option α) (r : Request) :
    Run σ (Except ApiError α) := do
  return (← c.send r).check.bind (·.read read)

def loadMap (c : Client) (map : MapId) : Run σ (Except ApiError MapDetail) :=
  c.fetch MapDetail.read (.loadMap map)

/-- Reads a list under the only field of a record, which may be missing. -/
def readListing {δ : Type} [Json.Document δ] (name : String) (read : δ → Option α) (d : δ) :
    Option (List α) := do
  Json.defaulted [] (Json.readList read) name (← Json.readRecord [[name]] d)

def fetchSignatures (c : Client) (map : MapId) (node : NodeId) :
    Run σ (Except ApiError (List Signature)) :=
  c.fetch (readListing "signatures" Signature.read) (.listSignatures map node)

def fetchNotes (c : Client) (map : MapId) (system : Int64) : Run σ (Except ApiError (List Note)) :=
  c.fetch (readListing "notes" Note.read) (.listNotes map system)

def saveViewport (c : Client) (map : MapId) (viewport : Viewport) : Run σ (Except ApiError Unit) :=
  c.submit (.saveViewport map viewport)

/-- Saves a viewport after a quiet period in milliseconds, and gives the one that is saved then. -/
def saveWhenQuiet (c : Client) (map : MapId) (quietMs : Nat) (viewport : Viewport) :
    Run σ (Option Viewport) := do
  sleep quietMs
  match ← c.saveViewport map viewport with
  | .ok _ => return some viewport
  | .error _ => return none

end Client

end WormholeMap
