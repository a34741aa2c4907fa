import WormholeMap.Client
import WormholeMap.EventStream.Decoder

/-!
Following a map over connections that may drop. A connection is taken up step by step. When it is
lost, it is opened again after a while, from the cursor reached, so that the backend sends what was
missed. A backend that answers with 204 or a client error wants no further request.
-/

namespace WormholeMap.EventStream

/-- Why a connection failed: it could not be made or broke off, it was refused, or it ended. -/
inductive Fault where
  | request
  | status (code : Nat)
  | ended
  deriving DecidableEq

def Fault.message : Fault → String
  | request => "event stream request failed"
  | status code => s!"event stream refused with status {code}"
  | ended => "event stream ended"

/-- Where a connection is: about to be made, perhaps after the delay, open with the chunks that are
still to come, or over. -/
inductive Stage where
  | connecting (delayed : Bool)
  | reading (chunks : List (List UInt8)) (ending : Ending)
  | finished
  deriving DecidableEq

/-- A connection that is made again whenever it is lost, with the frames that have arrived and are
not handed out yet, and the delay in milliseconds before it is made again. -/
structure Connection where
  client : Client
  map : MapId
  decoder : Decoder
  delay : Nat
  pending : List Frame
  stage : Stage

/-- What a step yields: the connection has been made, something has arrived, it has failed, it is
over, or nothing will come on it any more though it stays open. -/
inductive Signal (α : Type) where
  | opened
  | arrived (item : α)
  | failed (fault : Fault)
  | closed
  | silent
  deriving DecidableEq

namespace Connection

/-- A connection still to be made, from a cursor. -/
def start (client : Client) (map : MapId) (resume : Option Cursor) : Connection where
  client := client
  map := map
  decoder := .start resume
  delay := client.reconnectMs
  pending := []
  stage := .connecting false

/-- The cursor that the connection is made from the next time. -/
def cursor (c : Connection) : Option Cursor := c.decoder.lastId

def take (c : Connection) : Item → Connection
  | .frame f => { c with pending := c.pending ++ [f] }
  | .retry ms => { c with delay := ms }

def receive (c : Connection) (chunk : List UInt8) : Connection :=
  let (decoder, items) := c.decoder.push chunk
  items.foldl take { c with decoder }

/-- The first frame that is accepted, as what it is accepted for, and the frames after it. -/
def firstAccepted (accept : Frame → Option α) : List Frame → Option (α × List Frame)
  | [] => none
  | f :: rest =>
    match accept f with
    | some a => some (a, rest)
    | none => firstAccepted accept rest

/-- Hands out the first frame that is accepted, of those pending and then of those in the chunks to
come; the end of the chunks is a failure. Frames that are not accepted are dropped. -/
def read (accept : Frame → Option α) (c : Connection) (ending : Ending) :
    List (List UInt8) → Signal α × Connection
  | [] =>
    let lost := { c with pending := [], stage := .connecting true }
    match ending with
    | .closed => (.failed .ended, lost)
    | .broken => (.failed .request, lost)
    | .held => (.silent, { c with pending := [], stage := .reading [] .held })
  | chunk :: rest =>
    let c := { c with pending := [] }.receive chunk
    match firstAccepted accept c.pending with
    | some (a, pending) => (.arrived a, { c with pending, stage := .reading rest ending })
    | none => read accept c ending rest

/-- Takes up the reply to a request to follow the map. -/
def accepted (c : Connection) : Reply → Signal α × Connection
  | .response r =>
    let again := { c with stage := .connecting true }
    let done := { c with stage := .finished }
    if r.status = 204 then (.closed, done)
    else if 400 ≤ r.status ∧ r.status < 500 then (.failed (.status r.status), done)
    else if r.isSuccess then
      (.opened, { c with decoder := c.decoder.reset, stage := .reading r.chunks r.ending })
    else (.failed (.status r.status), again)
  | _ => (.failed .request, { c with stage := .connecting true })

def connect (c : Connection) : Run σ (Signal α × Connection) := do
  return c.accepted (← c.client.send (.followMap c.map c.cursor))

/-- The next signal, with frames as what they are accepted for. -/
def next (accept : Frame → Option α) (c : Connection) : Run σ (Signal α × Connection) :=
  match firstAccepted accept c.pending with
  | some (a, pending) => return (.arrived a, { c with pending })
  | none =>
    let c := { c with pending := [] }
    match c.stage with
    | .finished => return (.closed, c)
    | .reading chunks ending => return c.read accept ending chunks
    | .connecting delayed => do
      if delayed then sleep c.delay
      c.connect

end Connection

end WormholeMap.EventStream
