import WormholeMap.Proofs.Client.Exchanges
import WormholeMap.Proofs.Text.Blank

/-!
What comes of an action of a single request. Whatever the backend answers, the request goes out once,
the action succeeds exactly if the answer is one of success that brings what is asked for, and of a
failure the user is told once, in the words of the backend where it has any (`Action.run_settles`).
-/

namespace WormholeMap

/-! ### Responses -/

namespace Response

/-- The status is one of success. -/
def Accepts (r : Response) : Prop := 200 ≤ r.status ∧ r.status < 300

/-- The body has come to its end, and is read as a value. -/
def Brings (read : Json.Written → Option α) (r : Response) (a : α) : Prop :=
  r.ending = .closed ∧ ∃ written, Json.Written.parse? r.chunks.flatten = some written ∧
    read written = some a

/-- The body has come to its end, and is JSON with a text under `detail` that is not blank. The
detail is this text, trimmed. -/
def Details (r : Response) (detail : String) : Prop :=
  r.ending = .closed ∧ ∃ value text,
    Json.parseText? (Utf8.decodeLossy r.chunks.flatten) = some value ∧
      Json.get? "detail" value = some (.string text) ∧ ¬Blank text ∧ detail = trimBlank text

variable {r : Response}

theorem isSuccess_iff : r.isSuccess = true ↔ r.Accepts := by
  simp [isSuccess, Accepts]

theorem read_unfinished (read : Json.Written → Option α) (h : r.ending ≠ .closed) :
    r.read read = .error .network := by
  rw [Response.read, body?, if_neg h]

theorem read_finished (read : Json.Written → Option α) (h : r.ending = .closed) :
    (∃ a, r.Brings read a ∧ r.read read = .ok a) ∨
      (∀ a, ¬r.Brings read a) ∧ r.read read = .error .decode := by
  have hbrings {a : α} :
      r.Brings read a ↔ (Json.Written.parse? r.chunks.flatten >>= read) = some a := by
    rw [Brings, Option.bind_eq_bind, Option.bind_eq_some_iff]
    exact and_iff_right h
  rw [Response.read, body?, if_pos h]
  simp only [hbrings]
  cases Json.Written.parse? r.chunks.flatten >>= read with
  | none => exact .inr ⟨fun a => (Option.some_ne_none a).symm, rfl⟩
  | some a => exact .inl ⟨a, rfl, rfl⟩

theorem Brings.unique {read : Json.Written → Option α} {a b : α} (ha : r.Brings read a)
    (hb : r.Brings read b) : a = b := by
  obtain ⟨-, written, hwritten, ha⟩ := ha
  obtain ⟨-, written', hwritten', hb⟩ := hb
  rw [hwritten] at hwritten'
  cases hwritten'
  exact Option.some.inj (ha.symm.trans hb)

/-- A body that breaks off has no detail, like one that has none. -/
theorem refusalDetail_eq_some_iff {detail : String} :
    refusalDetail (r.body?.getD []) = some detail ↔ r.Details detail := by
  have htext {value : Json} {text : String} : value.text? = some text ↔ value = .string text := by
    cases value <;> simp [Json.text?]
  have hdetail (body : List UInt8) : refusalDetail body = some detail ↔ ∃ value text,
      Json.parseText? (Utf8.decodeLossy body) = some value ∧
        Json.get? "detail" value = some (.string text) ∧ ¬Blank text ∧ detail = trimBlank text := by
    simp only [refusalDetail, Option.bind_eq_bind, Option.bind_eq_some_iff, nonBlank?_eq_some_iff,
      htext]
    constructor
    · rintro ⟨text, ⟨_, ⟨value, hvalue, hget⟩, rfl⟩, hblank, hdetail⟩
      exact ⟨value, text, hvalue, hget, hblank, hdetail⟩
    · rintro ⟨value, text, hvalue, hget, hblank, hdetail⟩
      exact ⟨text, ⟨_, ⟨value, hvalue, hget⟩, rfl⟩, hblank, hdetail⟩
  unfold Details body?
  split
  · rename_i hending
    rw [Option.getD_some, hdetail]
    exact (and_iff_right hending).symm
  · rename_i hending
    refine iff_of_false ?_ fun h => hending h.1
    have hnone : refusalDetail [] = none := by decide +kernel
    rw [Option.getD_none, hnone]
    nofun

end Response

/-! ### Actions -/

/-- A change that the user asks for, and of which nothing is read back. -/
inductive Change where
  | deleteNode (node : NodeId)
  | toggleLock (node : Node)
  | moveNode (node : NodeId) (position : Position)
  | setSystem (node : NodeId) (system : Int64)
  | deleteLink (link : LinkId)
  | setMass (link : LinkId) (mass : MassUsage)
  | setLifetime (link : LinkId) (lifetime : Lifetime)
  | reverseLink (link : LinkId)
  | setWormhole (link : LinkId) (wormhole : Int64) (source : NodeId)
  | selectMap

/-- An action of a single request, with what it gives when it succeeds. -/
inductive Action : Type → Type where
  | createNode (system : Int64) (position : Position) : Action Node
  | createLink (source target : NodeId) (wormhole : Option Int64) : Action Link
  | plain (change : Change) : Action Unit

namespace Change

def run (c : Client) (map : MapId) : Change → Run σ (Except ActionError Unit)
  | deleteNode node => c.mutate map (.deleteNode node)
  | toggleLock node => c.toggleLock map node
  | moveNode node position => c.mutate map (.moveNode node position)
  | setSystem node system => c.mutate map (.setSystem node system)
  | deleteLink link => c.mutate map (.deleteLink link)
  | setMass link mass => c.mutate map (.setMass link mass)
  | setLifetime link lifetime => c.mutate map (.setLifetime link lifetime)
  | reverseLink link => c.mutate map (.reverseLink link)
  | setWormhole link wormhole source => c.mutate map (.setWormhole link wormhole source)
  | selectMap => c.selectMap map

/-- The mutation of the map that the change is. To select the map is none. -/
def mutation? : Change → Option Mutation
  | deleteNode node => some (.deleteNode node)
  | toggleLock node => some (.setLock node.id (!node.locked))
  | moveNode node position => some (.moveNode node position)
  | setSystem node system => some (.setSystem node system)
  | deleteLink link => some (.deleteLink link)
  | setMass link mass => some (.setMass link mass)
  | setLifetime link lifetime => some (.setLifetime link lifetime)
  | reverseLink link => some (.reverseLink link)
  | setWormhole link wormhole source => some (.setWormhole link wormhole source)
  | selectMap => none

def request (map : MapId) (change : Change) : Request :=
  (change.mutation?.map (.mutate map)).getD (.selectMap map)

/-- What the user is told when the change fails and the backend does not say why. -/
def fallback (change : Change) : String :=
  (change.mutation?.map (·.failure)).getD "Failed to save selected map"

/-- Every change submits its request, and reports what comes of it. -/
theorem run_eq (change : Change) (c : Client) (map : MapId) : change.run c map =
    (do Client.report change.fallback (← c.submit (change.request map)) :
      Run σ (Except ActionError Unit)) := by
  cases change <;> rfl

end Change

namespace Action

def run (c : Client) (map : MapId) : Action α → Run σ (Except ActionError α)
  | createNode system position => c.createNode map system position
  | createLink source target wormhole => c.createLink map source target wormhole
  | plain change => change.run c map

def request (map : MapId) : Action α → Request
  | createNode system position => .mutate map (.createNode system position)
  | createLink source target wormhole => .mutate map (.createLink source target wormhole)
  | plain change => change.request map

/-- What the user is told when the action fails and the backend does not say why. -/
def fallback : Action α → String
  | createNode .. => "Failed to create node"
  | createLink .. => "Failed to create connection"
  | plain change => change.fallback

/-- What a response of success has to bring for the action to succeed, where it has to bring any. -/
def Gives : Action α → Response → α → Prop
  | createNode .., r, node => r.Brings Node.read node
  | createLink .., r, link => r.Brings Link.read link
  | plain _, _, _ => True

/-- How the action fails on a reply: with which fault, and what the user is told. -/
inductive Fails (a : Action α) : Reply → ActionError → Prop
  | unanswered {reply : Reply} (h : reply = .unsent ∨ reply = .dropped) :
    Fails a reply ⟨.network, a.fallback⟩
  | refused {r : Response} {detail : String} (hstatus : ¬r.Accepts) (h : r.Details detail) :
    Fails a (.response r) ⟨.rejected r.status, detail⟩
  | refusedSilently {r : Response} (hstatus : ¬r.Accepts) (h : ∀ detail, ¬r.Details detail) :
    Fails a (.response r) ⟨.rejected r.status, a.fallback⟩
  | unread {r : Response} (hstatus : r.Accepts) (h : ∀ given, ¬a.Gives r given)
    (hending : r.ending ≠ .closed) : Fails a (.response r) ⟨.network, a.fallback⟩
  | undecoded {r : Response} (hstatus : r.Accepts) (h : ∀ given, ¬a.Gives r given)
    (hending : r.ending = .closed) : Fails a (.response r) ⟨.decode, a.fallback⟩

/-- What the action makes of a reply. -/
def answer : Action α → Reply → Except ApiError α
  | createNode .., reply => reply.check.bind (·.read Node.read)
  | createLink .., reply => reply.check.bind (·.read Link.read)
  | plain _, reply => reply.check.map fun _ => ()

/-- What comes of the action by a reply: its result, and the toasts shown for it. -/
structure Settles (a : Action α) (reply : Reply) (toasts : List Toast)
    (result : Except ActionError α) : Prop where
  succeeds : ∀ given, result = .ok given ↔
    ∃ r, reply = .response r ∧ r.Accepts ∧ a.Gives r given
  quiet : ∀ given, result = .ok given → toasts = []
  told : ∀ error, result = .error error →
    toasts = [.error "Error" error.message] ∧ a.Fails reply error

variable {a : Action α} {reply : Reply}

/-- Every action sends its request and reports what it makes of the reply. -/
theorem run_eq (a : Action α) (c : Client) (map : MapId) : a.run c map =
    (do Client.report a.fallback (a.answer (← c.send (a.request map))) :
      Run σ (Except ActionError α)) := by
  cases a with
  | plain change =>
    rw [run, change.run_eq, Client.submit]
    rfl
  | _ => rfl

/-- A refusal is told in its own words where it has any. -/
theorem fails_refused (a : Action α) {r : Response} (hstatus : ¬r.Accepts) :
    a.Fails (.response r)
      (.ofApi a.fallback (.rejected r.status (refusalDetail (r.body?.getD [])))) := by
  cases hdetail : refusalDetail (r.body?.getD []) with
  | none =>
    refine .refusedSilently hstatus fun detail h => ?_
    rw [Response.refusalDetail_eq_some_iff.mpr h] at hdetail
    cases hdetail
  | some detail =>
    have hdetails := Response.refusalDetail_eq_some_iff.mp hdetail
    have hblank : ¬Blank detail := by
      obtain ⟨-, value, text, -, -, hblank, rfl⟩ := hdetails
      exact not_blank_trimBlank hblank
    -- The detail is trimmed when it is read, so it is kept as it is when it is told.
    have hkept : (some detail).filter (fun d => (nonBlank? d).isSome) = some detail :=
      Option.filter_some_pos (Option.isSome_iff_ne_none.mpr (mt nonBlank?_eq_none_iff.mp hblank))
    rw [ActionError.ofApi, hkept]
    exact .refused hstatus hdetails

/-- A reply is a response of success, or the action fails on it. -/
theorem check_cases (a : Action α) (reply : Reply) :
    (∃ r, reply = .response r ∧ r.Accepts ∧ reply.check = .ok r) ∨
      ∃ e, reply.check = .error e ∧ a.Fails reply (.ofApi a.fallback e) := by
  cases reply with
  | unsent => exact .inr ⟨.network, rfl, .unanswered (.inl rfl)⟩
  | dropped => exact .inr ⟨.network, rfl, .unanswered (.inr rfl)⟩
  | response r =>
    by_cases hstatus : r.Accepts
    · exact .inl ⟨r, rfl, hstatus, if_pos (Response.isSuccess_iff.mpr hstatus)⟩
    · exact .inr ⟨_, if_neg (mt Response.isSuccess_iff.mp hstatus), a.fails_refused hstatus⟩

/-- An action makes a success or a failure of a reply, as the reply is one for it. -/
def Answers (a : Action α) (reply : Reply) : Prop :=
  (∃ r given, reply = .response r ∧ r.Accepts ∧ a.Gives r given ∧ a.answer reply = .ok given) ∨
    ∃ e, a.answer reply = .error e ∧ a.Fails reply (.ofApi a.fallback e)

theorem answers_reading {read : Json.Written → Option α}
    (hanswer : a.answer reply = reply.check.bind (·.read read)) (hgives : a.Gives = (·.Brings read)) :
    a.Answers reply := by
  rcases a.check_cases reply with ⟨r, rfl, hstatus, hcheck⟩ | ⟨e, hcheck, hfails⟩
  · rw [hcheck] at hanswer
    by_cases hending : r.ending = .closed
    · rcases r.read_finished read hending with ⟨given, hbrings, hread⟩ | ⟨hnone, hread⟩
      · exact .inl ⟨r, given, rfl, hstatus, by rw [hgives]; exact hbrings, hanswer.trans hread⟩
      · have hgiven (given : α) : ¬a.Gives r given := by
          rw [hgives]
          exact hnone given
        exact .inr ⟨.decode, hanswer.trans hread, .undecoded hstatus hgiven hending⟩
    · have hgiven (given : α) : ¬a.Gives r given := by
        rw [hgives]
        exact fun hbrings => hending hbrings.1
      have hread := r.read_unfinished read hending
      exact .inr ⟨.network, hanswer.trans hread, .unread hstatus hgiven hending⟩
  · rw [hcheck] at hanswer
    exact .inr ⟨e, hanswer, hfails⟩

theorem answers (a : Action α) (reply : Reply) : a.Answers reply := by
  cases a with
  | createNode system position => exact answers_reading rfl rfl
  | createLink source target wormhole => exact answers_reading rfl rfl
  | plain change =>
    rcases (plain change).check_cases reply with ⟨r, rfl, hstatus, hcheck⟩ | ⟨e, hcheck, hfails⟩
    · exact .inl ⟨r, (), rfl, hstatus, trivial, by rw [answer, hcheck]; rfl⟩
    · exact .inr ⟨e, by rw [answer, hcheck]; rfl, hfails⟩

theorem Gives.unique {r : Response} {given given' : α} (h : a.Gives r given)
    (h' : a.Gives r given') : given = given' := by
  cases a with
  | plain change => rfl
  | _ => exact Response.Brings.unique h h'

/-- No action both fails on a reply and is given what it succeeds with. -/
theorem Fails.not_gives {error : ActionError} (h : a.Fails reply error) {r : Response}
    (hreply : reply = .response r) (hstatus : r.Accepts) (given : α) : ¬a.Gives r given := by
  cases h with
  | unanswered h =>
    subst hreply
    rcases h with h | h <;> cases h
  | refused hrefused => cases hreply; exact absurd hstatus hrefused
  | refusedSilently hrefused => cases hreply; exact absurd hstatus hrefused
  | unread _ hnone => cases hreply; exact hnone given
  | undecoded _ hnone => cases hreply; exact hnone given

/-- An action makes one request. It succeeds with what the answer gives, or it fails on the answer
and the user is told. -/
theorem run_cases (a : Action α) (c : Client) (map : MapId) (ctx : Context σ) :
    ∃ e wire, ctx.wire.Sent e wire ∧ e.message = c.message (a.request map) ∧
      ((∃ r given, e.reply = .response r ∧ r.Accepts ∧ a.Gives r given ∧
          (a.run c map).run ctx = (.ok given, { ctx with wire })) ∨
        ∃ error, a.Fails e.reply error ∧ (a.run c map).run ctx =
          (.error error, ⟨wire, ctx.toasts.notify (.error "Error" error.message)⟩)) := by
  have hsent := ctx.wire.sent_send (c.message (a.request map))
  have hrun : (a.run c map).run ctx =
      let sent := ctx.wire.send (c.message (a.request map))
      (Client.report a.fallback (a.answer sent.1)).run { ctx with wire := sent.2 } := by
    rw [run_eq]
    rfl
  generalize ctx.wire.send (c.message (a.request map)) = sent at hsent hrun
  rw [Client.run_report] at hrun
  refine ⟨_, _, hsent, rfl, ?_⟩
  rcases a.answers sent.1 with ⟨r, given, hreply, hstatus, hgives, hanswer⟩ | ⟨e, hanswer, hfails⟩
  · rw [hanswer] at hrun
    exact .inl ⟨r, given, hreply, hstatus, hgives, hrun⟩
  · rw [hanswer] at hrun
    exact .inr ⟨_, hfails, hrun⟩

/-- An action makes exactly one request, and what comes of it is settled by the reply. A body that
never ends settles it as one that breaks off; the program waits there. -/
theorem run_settles (c : Client) (map : MapId) (a : Action α) (ctx : Context σ) :
    let after := (a.run c map).run ctx
    ∃ e toasts, ctx.wire.Sent e after.2.wire ∧ e.message = c.message (a.request map) ∧
      after.2.toasts.toasts = ctx.toasts.toasts ++ toasts ∧ a.Settles e.reply toasts after.1 := by
  intro after
  have hsent := ctx.wire.sent_send (c.message (a.request map))
  have hafter : after =
      let sent := ctx.wire.send (c.message (a.request map))
      (Client.report a.fallback (a.answer sent.1)).run { ctx with wire := sent.2 } := by
    rw [← show (a.run c map).run ctx = after from rfl, run_eq]
    rfl
  generalize ctx.wire.send (c.message (a.request map)) = sent at hsent hafter
  simp only [Client.run_report] at hafter
  rcases a.answers sent.1 with ⟨r, given, hreply, hstatus, hgives, hanswer⟩ | ⟨e, hanswer, hfails⟩
  · rw [hanswer] at hafter
    rw [hafter]
    refine ⟨_, [], hsent, rfl, (List.append_nil _).symm, ?_, fun _ _ => rfl, nofun⟩
    intro given'
    constructor
    · rintro ⟨⟩
      exact ⟨r, hreply, hstatus, hgives⟩
    · rintro ⟨r', hreply', -, hgives'⟩
      obtain rfl : r = r' := Reply.response.inj (hreply.symm.trans hreply')
      rw [hgives.unique hgives']
  · rw [hanswer] at hafter
    rw [hafter]
    refine ⟨_, _, hsent, rfl, rfl, ?_, nofun, ?_⟩
    · intro given
      refine iff_of_false nofun ?_
      rintro ⟨r, hreply, hstatus, hgives⟩
      exact hfails.not_gives hreply hstatus given hgives
    · rintro error ⟨⟩
      exact ⟨rfl, hfails⟩

end Action

end WormholeMap
