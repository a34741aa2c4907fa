import WormholeMap.Backend.Basic

/-!
Scripted backends: the replies to each method and path are laid down in advance, and so are the
replies to those who follow a map.
-/

namespace WormholeMap

/-- A script: where its backend is, the replies to each method and path, of which the last one
stays, and the replies to those who follow a map, each given once. -/
structure Script where
  host : Host
  port : Option Nat
  replies : List (String × List Reply)
  streams : List Reply

namespace Script

/-- A response with a status and a body. Responses that say that there is no body have none. -/
def respond (status : Nat) (body : List UInt8) (ending : Ending) : Reply :=
  .response ⟨status, if status = 204 ∨ status = 304 then [] else [body], ending⟩

/-- The reply where the script has none: a change is accepted, and anything else is not found. -/
def standardReply : Method → Reply
  | .patch | .delete => respond 204 [] .closed
  | _ =>
    respond 404
      (Utf8.encode "\x7b\"status_code\":404,\"detail\":\"Not found\"\x7d") .closed

/-- Takes the next reply of a list, whose last one stays. -/
def takeReply (key : String) : List (String × List Reply) →
    Option (Reply × List (String × List Reply))
  | [] => none
  | (k, replies) :: rest =>
    if k = key then
      match replies with
      | reply :: next :: more => some (reply, (k, next :: more) :: rest)
      | [reply] => some (reply, (k, [reply]) :: rest)
      | [] => none
    else (takeReply key rest).map fun (reply, rest) => (reply, (k, replies) :: rest)

/-- Whether a message asks to follow a map. -/
def asksToFollow (method : Method) (path : String) : Bool :=
  method = .get && "/events".toList.isSuffixOf path.toList

/-- Replies to a message. One that goes elsewhere does not arrive. -/
def reply (s : Script) (_ : Nat) (m : Message) : Reply × Script :=
  match m.url with
  | none => (.unsent, s)
  | some url =>
    let place := url.authority.map fun a => (a.host, a.port)
    let method := m.request.method
    if url.scheme ≠ "http" ∨ place ≠ some (s.host, s.port) then (.unsent, s)
    else if asksToFollow method url.pathText then
      match s.streams with
      | r :: rest => (r, { s with streams := rest })
      | [] => (respond 204 [] .closed, s)
    else
      match takeReply (method.name ++ " " ++ url.pathText) s.replies with
      | some (r, replies) => (r, { s with replies })
      | none => (standardReply method, s)

def backend : Backend Script := ⟨reply⟩

end Script

end WormholeMap
