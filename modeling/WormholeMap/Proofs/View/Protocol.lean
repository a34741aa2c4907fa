import WormholeMap.Proofs.View.Moments

/-!
How a view goes about its requests, and how it ends. It first makes the map the viewer's first one,
and then goes from load to load, each of which begins a round: the requests by which the map is
followed from its start until an event asks for another load (`Round`). When the view has ended, its
result says what ended it, nothing is left of the map in store and session, and nothing is asked for
any more (`View.ends`).
-/

namespace WormholeMap

/-! ### Rounds -/

/-- A load, and the requests to follow the map that come after it. -/
structure Round where
  load : Exchange
  follow : List Exchange

namespace Round

def exchanges (r : Round) : List Exchange := r.load :: r.follow

/-- The map is loaded, and it is followed from its start. -/
structure Proper (map : MapId) (r : Round) : Prop where
  load : r.load.message.request = .loadMap map
  follow : ∀ e ∈ r.follow, ∃ cursor, e.message.request = .followMap map cursor
  first : ∀ e ∈ r.follow.head?, e.message.request = .followMap map none

/-- A round that has come to an event: the map has been loaded, and followed. -/
structure Complete (map : MapId) (r : Round) : Prop extends Proper map r where
  succeeds : r.load.Succeeds
  followed : r.follow ≠ []

end Round

def Outcome.isReload : Outcome → Bool
  | .reload _ => true
  | _ => false

/-- Nothing is left of a map: the store is empty, and in the session no map is open, none is read-only
and no node selected. -/
structure Workspace.Cleared (w : Workspace) : Prop where
  map : w.store.value.map = none
  nodes : w.store.value.nodes = []
  links : w.store.value.links = []
  display : w.store.value.display = .standard
  mapId : w.session.value.mapId = none
  selected : w.session.value.selected = none
  readOnly : w.session.value.readOnly = false

theorem Workspace.cleared_leave (w : Workspace) : w.leave.Cleared :=
  ⟨rfl, rfl, rfl, rfl, rfl, rfl, rfl⟩

namespace View

open ReadAhead (Turn)

/-- A view has ended: the exchanges that it has made, what the events that it has taken have asked
for, and the messages that it has taken, with its result. The exchanges are the choice of the map
and the rounds, of which only the last one may be a load that failed. -/
structure Ends (map : MapId) (made : List Exchange) (outcomes : List Outcome)
    (taken : List Delivery) (result : Except ActionError ViewExit) (select : Exchange)
    (rounds : List Round) (last : Round) : Prop where
  made_eq : made = select :: (rounds ++ [last]).flatMap Round.exchanges
  select : select.message.request = .selectMap map
  complete : ∀ r ∈ rounds, r.Complete map
  proper : last.Proper map
  followed : last.load.Succeeds ↔ last.follow ≠ []
  loads : (rounds ++ [last]).length = 1 + outcomes.countP Outcome.isReload
  failed : (∃ error, result = .error error) ↔ ¬last.load.Succeeds
  left : ∀ reason, result = .ok (.left reason) ↔ outcomes.getLast? = some (.leave reason)
  closed : result = .ok .streamClosed ↔ taken.getLast? = some .closed
  refused : result = .ok .streamClosed → Refused last.follow

/-- The requests of a view that goes on, before it makes those of a round. -/
structure Going (map : MapId) (outcomes : List Outcome) (taken : List Delivery) (select : Exchange)
    (rounds : List Round) : Prop where
  select : select.message.request = .selectMap map
  complete : ∀ r ∈ rounds, r.Complete map
  loads : rounds.length = outcomes.countP Outcome.isReload
  going : ∀ reason, .leave reason ∉ outcomes
  untaken : .closed ∉ taken

/-- What is known of a run, by what the view does next. Where nothing is read ahead, as `lazy` says,
no answer waits. -/
def Progress (lazy : Prop) (map : MapId) (made : List Exchange) (outcomes : List Outcome)
    (taken : List Delivery) (v : View) (waiting : List (Option Delivery)) : Prop :=
  match v.phase with
  | .opening => made = [] ∧ outcomes = [] ∧ taken = []
  | .loading => ∃ select rounds, made = select :: rounds.flatMap Round.exchanges ∧
      Going map outcomes taken select rounds
  | .following s => ∃ select rounds last,
      made = select :: (rounds ++ [last]).flatMap Round.exchanges ∧
      Going map outcomes taken select rounds ∧ last.load.message.request = .loadMap map ∧
      last.load.Succeeds ∧ s.Runs map last.follow waiting ∧ (lazy → waiting = [])
  | .ended result => ∃ select rounds last, Ends map made outcomes taken result select rounds last ∧
      (lazy → Refused last.follow → result = .ok .streamClosed) ∧
      ∃ w : Workspace, v.workspace = w.leave

section

variable {lazy : Prop} {map : MapId} {made : List Exchange} {outcomes : List Outcome}
  {taken : List Delivery} {select : Exchange} {rounds : List Round} {last : Round} {v : View}
  {s : Subscription} {waiting : List (Option Delivery)}

theorem Going.take (h : Going map outcomes taken select rounds) {d : Delivery} (hd : d ≠ .closed) :
    Going map outcomes (taken ++ [d]) select rounds where
  select := h.select
  complete := h.complete
  loads := h.loads
  going := h.going
  untaken hmem := by
    rcases List.mem_append.mp hmem with hmem | hmem
    · exact h.untaken hmem
    · exact hd (List.mem_singleton.mp hmem).symm

theorem Going.proceed (h : Going map outcomes taken select rounds) :
    Going map (outcomes ++ [.proceed]) taken select rounds where
  select := h.select
  complete := h.complete
  loads := by rw [h.loads, List.countP_append]; rfl
  going reason hmem := by
    rcases List.mem_append.mp hmem with hmem | hmem
    · exact h.going reason hmem
    · cases List.mem_singleton.mp hmem
  untaken := h.untaken

/-- Another load is asked for, and the round is over. -/
theorem Going.reload (h : Going map outcomes taken select rounds) (hlast : last.Complete map)
    (message : Option String) :
    Going map (outcomes ++ [.reload message]) taken select (rounds ++ [last]) where
  select := h.select
  complete r hr := by
    rcases List.mem_append.mp hr with hr | hr
    · exact h.complete r hr
    · rw [List.mem_singleton.mp hr]
      exact hlast
  loads := by rw [List.length_append, h.loads, List.countP_append]; rfl
  going reason hmem := by
    rcases List.mem_append.mp hmem with hmem | hmem
    · exact h.going reason hmem
    · cases List.mem_singleton.mp hmem
  untaken := h.untaken

theorem Going.last_outcome (h : Going map outcomes taken select rounds) (reason : LeaveReason) :
    outcomes.getLast? ≠ some (.leave reason) :=
  fun hlast => h.going reason (List.mem_of_getLast? hlast)

theorem Going.last_taken (h : Going map outcomes taken select rounds) :
    taken.getLast? ≠ some .closed :=
  fun hlast => h.untaken (List.mem_of_getLast? hlast)

/-- The load of the round that is to begin fails. -/
theorem Going.fails (h : Going map outcomes taken select rounds) {e : Exchange}
    (hrequest : e.message.request = .loadMap map) (hfails : ¬e.Succeeds) (error : ActionError) :
    Ends map (select :: rounds.flatMap Round.exchanges ++ [e]) outcomes taken (.error error) select
      rounds ⟨e, []⟩ where
  made_eq := by simp [Round.exchanges]
  select := h.select
  complete := h.complete
  proper := ⟨hrequest, fun _ he => absurd he List.not_mem_nil,
    fun _ he => absurd he (Option.not_mem_none _)⟩
  followed := iff_of_false hfails (absurd rfl)
  loads := by rw [List.length_append, h.loads, Nat.add_comm]; rfl
  failed := iff_of_true ⟨error, rfl⟩ hfails
  left reason := iff_of_false nofun (h.last_outcome reason)
  closed := iff_of_false nofun h.last_taken
  refused := nofun

/-- An event says that the map must be left. -/
theorem Going.leave (h : Going map outcomes taken select rounds) (hlast : last.Complete map)
    (reason : LeaveReason) {d : Delivery} (hd : d ≠ .closed) :
    Ends map (select :: (rounds ++ [last]).flatMap Round.exchanges) (outcomes ++ [.leave reason])
      (taken ++ [d]) (.ok (.left reason)) select rounds last where
  made_eq := rfl
  select := h.select
  complete := h.complete
  proper := hlast.toProper
  followed := iff_of_true hlast.succeeds hlast.followed
  loads := by rw [List.length_append, h.loads, List.countP_append, Nat.add_comm]; rfl
  failed := iff_of_false nofun (not_not_intro hlast.succeeds)
  left reason' := by simp
  closed := iff_of_false nofun (by simpa using hd)
  refused := nofun

/-- The backend says that it has ended the stream. -/
theorem Going.close (h : Going map outcomes taken select rounds) (hlast : last.Complete map)
    (hrefused : Refused last.follow) :
    Ends map (select :: (rounds ++ [last]).flatMap Round.exchanges) outcomes (taken ++ [.closed])
      (.ok .streamClosed) select rounds last where
  made_eq := rfl
  select := h.select
  complete := h.complete
  proper := hlast.toProper
  followed := iff_of_true hlast.succeeds hlast.followed
  loads := by rw [List.length_append, h.loads, Nat.add_comm]; rfl
  failed := iff_of_false nofun (not_not_intro hlast.succeeds)
  left reason := iff_of_false nofun (h.last_outcome reason)
  closed := iff_of_true rfl (by simp)
  refused _ := hrefused

/-- A view that follows the map takes an answer. -/
theorem Going.progress (h : Going map outcomes taken select rounds)
    (hrequest : last.load.message.request = .loadMap map) (hsucceeds : last.load.Succeeds)
    {answer : Option Delivery} (hruns : s.Runs map last.follow (answer :: waiting))
    (hphase : v.phase = .following s) (hlazy : lazy → waiting = []) :
    Progress lazy map (select :: (rounds ++ [last]).flatMap Round.exchanges)
      (outcomes ++ (v.outcome? answer).toList) (taken ++ answer.toList) (v.takeUp answer)
      waiting := by
  obtain ⟨d, rfl, htakes⟩ := hruns.take
  have hcomplete : last.Complete map :=
    ⟨⟨hrequest, hruns.connection.follow, hruns.connection.first⟩, hsucceeds, htakes.begun⟩
  -- News of the connection change nothing about where the view is.
  have hnews (hd : d.isLast = false) (houtcome : v.outcome? (some d) = none)
      (hphase' : (v.takeUp (some d)).phase = .following s) (hopen : d ≠ .closed) :
      Progress lazy map (select :: (rounds ++ [last]).flatMap Round.exchanges)
        (outcomes ++ (v.outcome? (some d)).toList) (taken ++ (some d).toList)
        (v.takeUp (some d)) waiting := by
    rw [Progress, hphase', houtcome, Option.toList_none, List.append_nil]
    exact ⟨select, rounds, last, rfl, h.take hopen, hrequest, hsucceeds, htakes.going hd, hlazy⟩
  cases d with
  | connected => exact hnews rfl rfl hphase nofun
  | interrupted fault => exact hnews rfl rfl hphase nofun
  | silence => exact hnews rfl rfl hphase nofun
  | closed =>
    refine ⟨select, rounds, last, ?_, fun _ _ => rfl, v.workspace, rfl⟩
    have hends := h.close hcomplete (htakes.closed rfl)
    rwa [← List.append_nil outcomes] at hends
  | event cursor e =>
    have hne : Delivery.event cursor e ≠ .closed := nofun
    have houtcome : v.outcome? (some (.event cursor e)) = some (v.workspace.apply e).2 := rfl
    rw [houtcome]
    cases happly : (v.workspace.apply e).2 with
    | proceed =>
      have hlast : (Delivery.event cursor e).isLast = false := by
        cases e with
        | syncError => cases happly
        | _ => rfl
      have hphase' : (v.takeUp (some (.event cursor e))).phase = .following s := by
        simp only [takeUp, happly, hphase]
      rw [Progress, hphase']
      exact ⟨select, rounds, last, rfl, (h.take hne).proceed, hrequest, hsucceeds,
        htakes.going hlast, hlazy⟩
    | reload message =>
      have hphase' : (v.takeUp (some (.event cursor e))).phase = .loading := by
        simp only [takeUp, happly]
      rw [Progress, hphase']
      exact ⟨select, rounds ++ [last], rfl, (h.take hne).reload hcomplete message⟩
    | leave reason =>
      have hleft : v.takeUp (some (.event cursor e)) =
          { v with workspace := (v.workspace.apply e).1 }.finish (.ok (.left reason)) := by
        simp only [takeUp, happly]
      rw [hleft]
      refine ⟨select, rounds, last, h.leave hcomplete reason hne, fun lazy hrefused => ?_, _, rfl⟩
      cases htakes.refused hrefused (hlazy lazy)

/-- Where a view that has ended may be waiting for a body that never ends. -/
theorem Ends.waits {result : Except ActionError ViewExit}
    (h : Ends map made outcomes taken result select rounds last) {e : Exchange} (he : e ∈ made)
    (hhangs : e.Hangs) : e = select ∨ e = last.load := by
  have hfollow {r : Round} (hr : r.Proper map) : e ∉ r.follow := by
    intro hmem
    obtain ⟨cursor, hrequest⟩ := hr.follow e hmem
    obtain ⟨_, -, -, hread⟩ := hhangs
    rw [hrequest] at hread
    exact hread
  rw [h.made_eq] at he
  rcases List.mem_cons.mp he with rfl | he
  · exact .inl rfl
  · obtain ⟨r, hr, hmem⟩ := List.mem_flatMap.mp he
    rcases List.mem_append.mp hr with hr | hr
    · have hcomplete := h.complete r hr
      rcases List.mem_cons.mp hmem with rfl | hmem
      · exact absurd hcomplete.succeeds hhangs.not_succeeds
      · exact absurd hmem (hfollow hcomplete.toProper)
    · obtain rfl := List.mem_singleton.mp hr
      rcases List.mem_cons.mp hmem with rfl | hmem
      · exact .inr rfl
      · exact absurd hmem (hfollow h.proper)

namespace Ahead

variable {a a' : Ahead σ} {t : Turn} {m : Moment}

theorem Turned.map_eq (h : Turned a t a' m) : a'.view.map = a.view.map := by
  have htakeUp (v : View) (answer : Option Delivery) : (v.takeUp answer).map = v.map := by
    unfold takeUp
    split
    · rfl
    · rfl
    · simp only
      split <;> rfl
    · rfl
    · rfl
    · rfl
  cases h with
  | idle | selects | loads | fails => rfl
  | reads hphase => rw [read_following hphase]
  | takes => exact htakeUp _ _
  | waits hphase => rw [htakeUp, read_following hphase]

/-- What is read ahead is asked for in the round of the stream. -/
theorem runs_read {follow : List Exchange} (hphase : a.view.phase = .following s)
    (hruns : s.Runs map follow a.waiting) (hadds : a.context.Adds made [] a.read.context) :
    (s.next.run a.context).1.2.Runs map (follow ++ made) a.read.waiting := by
  obtain ⟨more, hmore, hnext⟩ := hruns.next a.context
  have hread := read_following hphase
  have hmade : made = more := by
    have hsame := hadds.exchanges
    rw [hread] at hsame
    exact List.append_cancel_left (hsame.symm.trans hmore.exchanges)
  rw [hmade, hread]
  exact hnext

theorem Turned.progress (h : Turned a t a' m) (hmap : a.view.map = map) (hlazy : lazy → t = .take)
    (hprogress : Progress lazy map made outcomes taken a.view a.waiting) :
    Progress lazy map (made ++ m.made) (outcomes ++ m.outcome.toList) (taken ++ m.taken.toList)
      a'.view a'.waiting := by
  subst hmap
  cases h with
  | idle hphase =>
    simp only [Option.toList_none, List.append_nil]
    revert hprogress
    unfold Progress
    cases hnow : a.view.phase with
    | following s => exact absurd hnow (hphase s)
    | _ => exact id
  | @selects hphase e _ _ _ hrequest =>
    rw [Progress, hphase] at hprogress
    obtain ⟨rfl, rfl, rfl⟩ := hprogress
    exact ⟨e, [], rfl, hrequest, fun _ hr => absurd hr List.not_mem_nil, rfl,
      fun _ => List.not_mem_nil, List.not_mem_nil⟩
  | @loads hphase e _ _ _ hrequest hloaded =>
    rw [Progress, hphase] at hprogress
    obtain ⟨select, rounds, rfl, hgoing⟩ := hprogress
    have hsucceeds := (Exchange.succeeds_load hrequest).mpr (by rw [hloaded]; rfl)
    simp only [Option.toList_none, List.append_nil]
    exact ⟨select, rounds, ⟨e, []⟩, by simp [Round.exchanges], hgoing, hrequest, hsucceeds,
      .start a.view.client a.view.map, fun _ => rfl⟩
  | @fails hphase e error _ _ hrequest hloaded =>
    rw [Progress, hphase] at hprogress
    obtain ⟨select, rounds, rfl, hgoing⟩ := hprogress
    have hfails : ¬e.Succeeds := by
      rw [Exchange.succeeds_load hrequest, hloaded]
      nofun
    simp only [Option.toList_none, List.append_nil]
    exact ⟨select, rounds, ⟨e, []⟩, hgoing.fails hrequest hfails error,
      fun _ hrefused => absurd hrefused not_refused_nil, _, rfl⟩
  | @reads s hphase more hadds =>
    rw [Progress, hphase] at hprogress
    obtain ⟨select, rounds, last, rfl, hgoing, hrequest, hsucceeds, hruns, -⟩ := hprogress
    have hnext : a.read.view.phase = .following (s.next.run a.context).1.2 := by
      rw [read_following hphase]
    rw [Progress, hnext]
    simp only [Option.toList_none, List.append_nil]
    exact ⟨select, rounds, ⟨last.load, last.follow ++ more⟩, by simp [Round.exchanges], hgoing,
      hrequest, hsucceeds, runs_read hphase hruns hadds, fun l => by cases hlazy l⟩
  | @takes s hphase answer waiting hwaiting =>
    rw [Progress, hphase] at hprogress
    obtain ⟨select, rounds, last, rfl, hgoing, hrequest, hsucceeds, hruns, hempty⟩ := hprogress
    rw [hwaiting] at hruns hempty
    rw [List.append_nil]
    exact hgoing.progress hrequest hsucceeds hruns hphase fun l => by cases hempty l
  | @waits s hphase _ more hadds _ answer hanswer =>
    rw [Progress, hphase] at hprogress
    obtain ⟨select, rounds, last, rfl, hgoing, hrequest, hsucceeds, hruns, -⟩ := hprogress
    have hread := runs_read hphase hruns hadds
    rw [hanswer] at hread
    have hnext : a.read.view.phase = .following (s.next.run a.context).1.2 := by
      rw [read_following hphase]
    have houtcome : a.read.view.outcome? answer = a.view.outcome? answer := by
      rw [read_following hphase]
      rfl
    let longer : Round := ⟨last.load, last.follow ++ more⟩
    have hmade : select :: (rounds ++ [last]).flatMap Round.exchanges ++ more =
        select :: (rounds ++ [longer]).flatMap Round.exchanges := by
      simp [Round.exchanges, longer]
    have hload : longer.load.message.request = .loadMap a.view.map := hrequest
    have hloaded : longer.load.Succeeds := hsucceeds
    rw [hmade, ← houtcome]
    exact hgoing.progress hload hloaded hread hnext fun _ => rfl

/-- What is known of every run. -/
theorem progress (client : Client) (map : MapId) (w : Workspace) (ctx : Context σ)
    (turns : List Turn) (lazy : Prop) (hlazy : lazy → ∀ t ∈ turns, t = .take) :
    let a := opened client map w ctx
    let moments := a.moments turns
    (a.run turns).view.map = map ∧
      Progress lazy map (moments.flatMap (·.made)) (moments.filterMap (·.outcome))
        (moments.filterMap (·.taken)) (a.run turns).view (a.run turns).waiting := by
  intro a
  -- By induction on the turns from the last one back: each turn keeps what is known before it.
  induction turns using List.reverseRecOn with
  | nil => exact ⟨rfl, rfl, rfl, rfl⟩
  | append_singleton turns t ih =>
    obtain ⟨hmap, hprogress⟩ := ih fun l t' ht' => hlazy l t' (List.mem_append_left _ ht')
    have hturned := (a.run turns).turned t
    have hlast : lazy → t = .take := fun l => hlazy l t (by simp)
    have hnext := hturned.progress hmap hlast hprogress
    have hmade (m : Moment) : [m].flatMap (·.made) = m.made := by simp
    have hone {α : Type} (f : Moment → Option α) (m : Moment) : [m].filterMap f = (f m).toList := by
      cases hf : f m <;> simp [hf]
    rw [run_concat, moments_concat]
    refine ⟨hturned.map_eq.trans hmap, ?_⟩
    rw [List.flatMap_append, List.filterMap_append, List.filterMap_append, hmade, hone, hone]
    exact hnext

/-- A view that takes its turn makes a request, unless it has ended or has followed its map. -/
theorem Turned.makes (h : Turned a .take a' m)
    (hprogress : Progress lazy map made outcomes taken a.view a.waiting)
    (hgoing : a'.view.result? = none) : m.made ≠ [] ∨ 3 ≤ made.length := by
  have hthree (select : Exchange) (rounds : List Round) (last : Round) (hlast : last.follow ≠ []) :
      3 ≤ (select :: (rounds ++ [last]).flatMap Round.exchanges).length := by
    have hpos := List.length_pos_iff.mpr hlast
    simp only [List.flatMap_append, List.flatMap_singleton, Round.exchanges, List.length_cons,
      List.length_append]
    omega
  cases h with
  | idle _ _ hended =>
    obtain ⟨result, hphase⟩ := hended rfl
    simp only [result?, hphase] at hgoing
    cases hgoing
  | selects | loads | fails => exact .inl (List.cons_ne_nil _ _)
  | @takes s hphase answer waiting hwaiting =>
    rw [Progress, hphase] at hprogress
    obtain ⟨select, rounds, last, rfl, -, -, -, hruns, -⟩ := hprogress
    rw [hwaiting] at hruns
    obtain ⟨_, -, htakes⟩ := hruns.take
    exact .inr (hthree select rounds last htakes.begun)
  | @waits s hphase _ more hadds _ answer hanswer =>
    rw [Progress, hphase] at hprogress
    obtain ⟨select, rounds, last, rfl, -, -, -, hruns, -⟩ := hprogress
    have hread := runs_read hphase hruns hadds
    rw [hanswer] at hread
    obtain ⟨_, -, htakes⟩ := hread.take
    by_cases hmore : more = []
    · have hbegun := htakes.begun
      rw [hmore, List.append_nil] at hbegun
      exact .inr (hthree select rounds last hbegun)
    · exact .inl hmore

/-- As long as a view has not ended or made three requests, it makes one whenever it takes its
turn. -/
theorem count_take_le (client : Client) (map : MapId) (w : Workspace) (ctx : Context σ)
    (turns : List Turn) (hgoing : ((opened client map w ctx).run turns).view.result? = none)
    (hfew : (((opened client map w ctx).moments turns).flatMap (·.made)).length < 3) :
    turns.count .take ≤ (((opened client map w ctx).moments turns).flatMap (·.made)).length := by
  induction turns using List.reverseRecOn with
  | nil => exact Nat.le_refl 0
  | append_singleton turns t ih =>
    rw [run_concat] at hgoing
    have hone (m : Moment) : [m].flatMap (·.made) = m.made := by simp
    rw [moments_concat, List.flatMap_append, hone, List.length_append] at hfew ⊢
    have hbefore := ih (going_of_turn hgoing) (by omega)
    rw [List.count_append]
    cases t with
    | read => exact Nat.le_add_right_of_le hbefore
    | take =>
      have hprogress := (progress client map w ctx turns False False.elim).2
      rcases (((opened client map w ctx).run turns).turned .take).makes hprogress hgoing with
        hmakes | hthree
      · exact Nat.add_le_add hbefore (List.length_pos_iff.mpr hmakes)
      · exact absurd hfew (by omega)

/-- A view that has ended does nothing any more. -/
theorem run_ended {result : Except ActionError ViewExit} (h : a.view.phase = .ended result)
    (more : List Turn) : (a.run more).view = a.view ∧ (a.run more).context = a.context := by
  induction more using List.reverseRecOn with
  | nil => exact ⟨rfl, rfl⟩
  | append_singleton more t ih =>
    obtain ⟨hview, hcontext⟩ := ih
    have hphase : (a.run more).view.phase = .ended result := by rw [hview, h]
    have hne : ∀ s, (a.run more).view.phase ≠ .following s := fun s => by rw [hphase]; nofun
    rw [run_concat]
    cases t with
    | read =>
      rw [turn, read_of_not_following hne]
      exact ⟨hview, hcontext⟩
    | take =>
      rw [take_of_not_following hne, step_ended hphase]
      exact ⟨hview, hcontext⟩

end Ahead

end

/-- The requests that a view begins with, by how often it has taken its turn. It makes the map the
viewer's first one, loads it, and follows it from its start once it is loaded. -/
structure Begins (map : MapId) (takes : Nat) (made : List Exchange) : Prop where
  selects : 1 ≤ takes → ∃ e, made[0]? = some e ∧ e.message.request = .selectMap map
  loads : 2 ≤ takes → ∃ e, made[1]? = some e ∧ e.message.request = .loadMap map
  follows : 3 ≤ takes → ∀ load, made[1]? = some load → load.Succeeds →
    ∃ e, made[2]? = some e ∧ e.message.request = .followMap map none

/-- The first round of a view tells how it begins. -/
theorem Begins.of_rounds {map : MapId} {takes : Nat} {select : Exchange} {rounds : List Round}
    (hselect : select.message.request = .selectMap map) (hloads : 2 ≤ takes → rounds ≠ [])
    (hfirst : ∀ r ∈ rounds.head?,
      r.Proper map ∧ (3 ≤ takes → r.load.Succeeds → r.follow ≠ [])) :
    Begins map takes (select :: rounds.flatMap Round.exchanges) := by
  refine ⟨fun _ => ⟨select, rfl, hselect⟩, fun htakes => ?_, fun htakes load hload hsucceeds => ?_⟩
  · obtain ⟨r, rest, rfl⟩ := List.exists_cons_of_ne_nil (hloads htakes)
    exact ⟨r.load, rfl, (hfirst r rfl).1.load⟩
  · obtain ⟨r, rest, rfl⟩ := List.exists_cons_of_ne_nil (hloads (Nat.le_of_succ_le htakes))
    obtain ⟨hproper, hfollows⟩ := hfirst r rfl
    obtain rfl : r.load = load := Option.some.inj hload
    obtain ⟨first, follow, hfollow⟩ := List.exists_cons_of_ne_nil (hfollows htakes hsucceeds)
    refine ⟨first, by simp [Round.exchanges, hfollow], hproper.first first ?_⟩
    rw [hfollow]
    rfl

theorem Ahead.begins (client : Client) (map : MapId) (w : Workspace) (ctx : Context σ)
    (turns : List Turn) : Begins map (turns.count .take)
      (((opened client map w ctx).moments turns).flatMap (·.made)) := by
  have hprogress := (progress client map w ctx turns False False.elim).2
  have hcount := count_take_le client map w ctx turns
  generalize ((opened client map w ctx).moments turns).flatMap (·.made) = made at hprogress hcount ⊢
  have hcomplete {r : Round} (h : r.Complete map) :
      r.Proper map ∧ (3 ≤ turns.count .take → r.load.Succeeds → r.follow ≠ []) :=
    ⟨h.toProper, fun _ _ => h.followed⟩
  unfold Progress at hprogress
  cases hphase : ((opened client map w ctx).run turns).view.phase with
  | opening =>
    rw [hphase] at hprogress
    obtain ⟨rfl, -, -⟩ := hprogress
    have hnone : turns.count .take ≤ 0 := hcount (by rw [result?, hphase]) (Nat.zero_lt_succ 2)
    exact ⟨fun h => by omega, fun h => by omega, fun h => by omega⟩
  | loading =>
    rw [hphase] at hprogress
    obtain ⟨select, rounds, rfl, hgo⟩ := hprogress
    refine .of_rounds hgo.select ?_ fun r hr => hcomplete (hgo.complete r (List.mem_of_mem_head? hr))
    rintro htakes rfl
    have hone : turns.count .take ≤ 1 := hcount (by rw [result?, hphase]) (by simp)
    omega
  | following s =>
    rw [hphase] at hprogress
    obtain ⟨select, rounds, last, rfl, hgo, hrequest, -, hruns, -⟩ := hprogress
    refine .of_rounds hgo.select (fun _ => by simp) fun r hr => ?_
    cases rounds with
    | cons first rounds =>
      obtain rfl : first = r := Option.some.inj hr
      exact hcomplete (hgo.complete first List.mem_cons_self)
    | nil =>
      obtain rfl : last = r := Option.some.inj hr
      refine ⟨⟨hrequest, hruns.connection.follow, hruns.connection.first⟩,
        fun htakes _ hfollow => ?_⟩
      have htwo : turns.count .take ≤ 2 := by
        simpa [Round.exchanges, hfollow] using hcount (by rw [result?, hphase])
      omega
  | ended result =>
    rw [hphase] at hprogress
    obtain ⟨select, rounds, last, hends, -⟩ := hprogress
    rw [hends.made_eq]
    refine .of_rounds hends.select (fun _ => by simp) fun r hr => ?_
    rcases List.mem_append.mp (List.mem_of_mem_head? hr) with hr | hr
    · exact hcomplete (hends.complete r hr)
    · rw [List.mem_singleton.mp hr]
      exact ⟨hends.proper, fun _ hsucceeds => hends.followed.mp hsucceeds⟩

/-- In the run of a view that has ended, the map is made the first one exactly once and before all
else, and loaded once and once more for each event that asks for it; each stream is first asked for
from its start; the result is a failure exactly if the last load failed, that the map has been left
exactly if the last event asked for it, and that the stream has been closed exactly if the backend
ended the last one. Nothing is asked for any more, and nothing is left of the map.

A body that never ends counts as one that breaks off. It may be that of the choice of the map or of
the last load, where the program waits instead of going on as the view does. -/
theorem ends (client : Client) (map : MapId) (w : Workspace) (ctx : Context σ) :
    let a := Ahead.opened client map w ctx
    (∀ n, a.run (List.replicate n .take) =
      ⟨((a.view.run n).run ctx).1, [], ((a.view.run n).run ctx).2⟩) ∧
    ∀ turns result, (a.run turns).view.result? = some result →
      let moments := a.moments turns
      let made := moments.flatMap (·.made)
      let now := a.run turns
      now.context.wire.exchanges = ctx.wire.exchanges ++ made ∧
      (∃ select rounds last,
        Ends map made (moments.filterMap (·.outcome)) (moments.filterMap (·.taken)) result select
          rounds last ∧
        ((∀ t ∈ turns, t = .take) → (result = .ok .streamClosed ↔ Refused last.follow)) ∧
        ∀ e ∈ made, e.Hangs → e = select ∨ e = last.load) ∧
      now.view.workspace.Cleared ∧
      ∀ more, (now.run more).view = now.view ∧ (now.run more).context = now.context := by
  intro a
  refine ⟨Ahead.run_takes a.view ctx, fun turns result hresult => ?_⟩
  intro moments made now
  have hphase : now.view.phase = .ended result := by
    unfold result? at hresult
    split at hresult
    · rename_i hphase
      cases hresult
      exact hphase
    · cases hresult
  have hprogress := (Ahead.progress client map w ctx turns (∀ t ∈ turns, t = .take) id).2
  rw [Progress, hphase] at hprogress
  obtain ⟨select, rounds, last, hends, hlazy, w', hleft⟩ := hprogress
  refine ⟨(a.adds_moments turns).exchanges, ?_, ?_, Ahead.run_ended hphase⟩
  · exact ⟨select, rounds, last, hends, fun htakes => ⟨hends.refused, hlazy htakes⟩,
      fun e he hhangs => hends.waits he hhangs⟩
  · rw [hleft]
    exact w'.cleared_leave

/-- A backend that does not take the choice of a map. Its first stream says that access has been
granted, and no other stream is wanted. -/
def wantingOne : Backend Nat where
  reply s _ message :=
    match message.request with
    | .loadMap _ => (.response ⟨200, [Utf8.encode editableMap], .closed⟩, s)
    | .followMap .. =>
      if s = 0 then (.response ⟨200, [Utf8.encode grantedText], .held⟩, 1)
      else (.response ⟨204, [], .closed⟩, s)
    | _ => (.response ⟨500, [], .closed⟩, s)

/-- The view loads its map twice, and is closed when the second stream is asked for. -/
theorem ends_wantingOne :
    let client : Client := ⟨"http://backend", none, 1000⟩
    let map : MapId := ⟨⟨List.replicate 32 0, rfl⟩⟩
    let ctx : Context Nat := ⟨.start wantingOne 0, .empty⟩
    let turns : List Turn := List.replicate 6 .take
    let moments := (Ahead.opened client map .empty ctx).moments turns
    ((Ahead.opened client map .empty ctx).run turns).view.result? = some (.ok .streamClosed) ∧
      ((Ahead.opened client map .empty ctx).run turns).context.wire.exchanges.length = 5 ∧
      (∃ select rounds last,
        Ends map (moments.flatMap (·.made)) (moments.filterMap (·.outcome))
          (moments.filterMap (·.taken)) (.ok .streamClosed) select rounds last ∧
        Refused last.follow) ∧
      ((Ahead.opened client map .empty ctx).run turns).view.workspace.Cleared := by
  intro client map ctx turns moments
  have hrun :
      ((Ahead.opened client map .empty ctx).run turns).view.result? = some (.ok .streamClosed) ∧
        ((Ahead.opened client map .empty ctx).run turns).context.wire.exchanges.length = 5 := by
    decide +kernel
  obtain ⟨hresult, hexchanges⟩ := hrun
  obtain ⟨-, ⟨select, rounds, last, hends, -⟩, hcleared, -⟩ :=
    (ends client map .empty ctx).2 turns (.ok .streamClosed) hresult
  exact ⟨hresult, hexchanges, ⟨select, rounds, last, hends, hends.refused rfl⟩, hcleared⟩

end View

end WormholeMap
