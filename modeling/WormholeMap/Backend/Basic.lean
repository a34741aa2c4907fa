import WormholeMap.Request
import WormholeMap.Url.Basic

/-!
Backends, and the wire that a client reaches one by. A backend is any way of replying to messages in
turn. The wire keeps a clock, which only waiting moves, and everything that has been exchanged.
-/

namespace WormholeMap

/-- How the body of a response ends: as it should, by the connection breaking off, or not at all. -/
inductive Ending where
  | closed
  | broken
  | held
  deriving DecidableEq

/-- A response: its status, and its body in the chunks that arrive. -/
structure Response where
  status : Nat
  chunks : List (List UInt8)
  ending : Ending
  deriving DecidableEq

/-- What comes back for a message: nothing as it never left, nothing as the connection broke, or a
response. -/
inductive Reply where
  | unsent
  | dropped
  | response (response : Response)
  deriving DecidableEq

namespace Response

def isSuccess (r : Response) : Bool := 200 ≤ r.status && r.status < 300

/-- The body, if it could be read to its end. One that never ends counts as one that breaks off, as
the program, which waits for the rest of it, goes no further. -/
def body? (r : Response) : Option (List UInt8) :=
  if r.ending = .closed then some r.chunks.flatten else none

end Response

/-- A request on its way: where it goes, if its address is a URL, and the cookie it carries. -/
structure Message where
  request : Request
  url : Option Url
  cookie : Option String

namespace Message

/-- Whether a text can stand in a header: it has no control characters but tabs. -/
def isHeaderText (text : String) : Bool :=
  text.toList.all fun c => (' ' ≤ c && c ≠ '\x7f') || c = '\t'

/-- Whether the message can be sent at all. -/
def canLeave (m : Message) : Bool :=
  (match m.url with
    | some url => (url.scheme == "http" || url.scheme == "https") && url.authority.isSome
    | none => false)
    && (m.cookie.map isHeaderText).getD true

end Message

/-- A way of replying to messages, in states of its own, at times in milliseconds. -/
structure Backend (σ : Type) where
  reply : σ → Nat → Message → Reply × σ

def Backend.unreachable : Backend Unit := ⟨fun s _ _ => (.unsent, s)⟩

/-- A message, when it was sent, and what came back. -/
structure Exchange where
  time : Nat
  message : Message
  reply : Reply

/-- A backend in a state, the time in milliseconds, and the exchanges so far, in order. -/
structure Wire (σ : Type) where
  backend : Backend σ
  state : σ
  clock : Nat
  exchanges : List Exchange

namespace Wire

def start (backend : Backend σ) (state : σ) : Wire σ := ⟨backend, state, 0, []⟩

def send (w : Wire σ) (message : Message) : Reply × Wire σ :=
  let (reply, state) :=
    if message.canLeave then w.backend.reply w.state w.clock message else (.unsent, w.state)
  (reply, { w with state, exchanges := w.exchanges ++ [⟨w.clock, message, reply⟩] })

def wait (w : Wire σ) (ms : Nat) : Wire σ := { w with clock := w.clock + ms }

/-- The requests that have been made, whether they arrived or not. -/
def requests (w : Wire σ) : List Request := w.exchanges.map (·.message.request)

end Wire

end WormholeMap
