import WormholeMap.Autosave

/-!
The writes of viewports, where a write takes no time. A viewport is tried a quiet period after it
has come, if nothing has taken its place or cancelled it by then and it differs from the one saved
last, and that is the one whose write was accepted last (`Autosave.debounced_after`).

However many tasks are left of viewports that had to give way, and whichever of them an abort comes
too late for, only the one of the generation that counts can lead to a write. So the tasks amount to
a single slot for the viewport that waits (`Autosave.Shows`), and the slot is what the writes are
told from.
-/

namespace WormholeMap.Autosave

/-! ### What is to be written -/

/-- What happens: a viewport comes, the one that waits is cancelled, as it is in the end, or time
passes. -/
inductive Step where
  | persist (viewport : Viewport)
  | cancel
  | wait (ms : Nat)

def perform (a : Autosave) : Step → Autosave
  | .persist viewport => a.persist viewport
  | .cancel => a.cancel
  | .wait ms => a.wait ms

def run (a : Autosave) (steps : List Step) : Autosave := steps.foldl perform a

/-- What steps lead to where writes take no time, and an abort may come too late for some tasks. -/
def after (quietMs : Nat) (accepts late : Nat → Bool) (seed : Option Viewport)
    (steps : List Step) : Autosave :=
  ({ start quietMs 0 accepts seed with late }).run steps

def Step.isWait : Step → Bool
  | wait _ => true
  | _ => false

/-- How long nothing happens but that time passes, if it does. -/
def pause? : List Step → Option Nat
  | .wait ms :: rest => some (ms + (pause? rest).getD 0)
  | _ => none

/-- The end of a period is reached before anything else happens. -/
def reaches (ms : Nat) (rest : List Step) : Bool := (pause? rest).any (ms ≤ ·)

/-- The viewports whose quiet period ends, each with the time of that. -/
def firings (quietMs now : Nat) : List Step → List (Nat × Viewport)
  | [] => []
  | .persist viewport :: rest =>
    if reaches quietMs rest then (now + quietMs, viewport) :: firings quietMs now rest
    else firings quietMs now rest
  | .cancel :: rest => firings quietMs now rest
  | .wait ms :: rest => firings quietMs (now + ms) rest

/-- The writes of such viewports, of which the first to be written is the `n`-th write of all. -/
def attempts (accepts : Nat → Bool) (saved : Option Viewport) (n : Nat) :
    List (Nat × Viewport) → List Write
  | [] => []
  | (time, viewport) :: rest =>
    if saved.all (isSignificant · viewport) then
      ⟨time, viewport, accepts n⟩ ::
        attempts accepts (if accepts n then some viewport else saved) (n + 1) rest
    else attempts accepts saved n rest

/-- The viewport of the last write that was accepted, or the seed where there is none. -/
def latest (seed : Option Viewport) (writes : List Write) : Option Viewport :=
  ((writes.filter (·.accepted)).getLast?.map (·.viewport)) <|> seed

section

variable (quietMs : Nat) (accepts late : Nat → Bool) (seed : Option Viewport)

/-- What steps lead to is what is to be written. A viewport that comes is tried by itself: what is
saved when it comes still is when its quiet period ends. -/
structure Debounced (steps : List Step) : Prop where
  writes : (after quietMs accepts late seed steps).writes =
    attempts accepts seed 0 (firings quietMs 0 steps)
  saved : (after quietMs accepts late seed steps).saved =
    latest seed (after quietMs accepts late seed steps).writes
  persisted : ∀ before viewport rest, steps = before ++ .persist viewport :: rest →
    let found := after quietMs accepts late seed before
    let paused := found.run (.persist viewport :: rest.takeWhile Step.isWait)
    (paused.writes = found.writes ++
      if reaches quietMs rest && found.saved.all (isSignificant · viewport) then
        [⟨found.now + quietMs, viewport, accepts found.writes.length⟩]
      else []) ∧
    paused.writes <+: (after quietMs accepts late seed steps).writes
  cancelled : ∀ before rest, steps = before ++ .cancel :: rest →
    (∀ viewport, .persist viewport ∉ rest) →
      (after quietMs accepts late seed steps).writes =
        (after quietMs accepts late seed before).writes
  once : (after quietMs accepts late seed steps).writes.length ≤
    steps.countP (· matches .persist _)

end

/-! ### The slot -/

/-- What there is to tell of a saving whose writes take no time: the time, the viewport that waits
with the end of its quiet period, the writes so far, and the viewport saved last. -/
structure Slot where
  now : Nat
  waiting : Option (Nat × Viewport)
  writes : List Write
  saved : Option Viewport

namespace Slot

def start (seed : Option Viewport) : Slot := ⟨0, none, [], seed⟩

/-- The quiet period of a viewport has ended. -/
def tried (accepts : Nat → Bool) (s : Slot) (due : Nat) (viewport : Viewport) : Slot :=
  if s.saved.all (isSignificant · viewport) then
    { s with
      waiting := none
      writes := s.writes ++ [⟨due, viewport, accepts s.writes.length⟩]
      saved := if accepts s.writes.length then some viewport else s.saved }
  else { s with waiting := none }

/-- The time moves on, past the end of a quiet period or not. -/
def advance (accepts : Nat → Bool) (s : Slot) (stop : Nat) : Slot :=
  match s.waiting with
  | some (due, viewport) =>
    if due ≤ stop then { s.tried accepts due viewport with now := stop } else { s with now := stop }
  | none => { s with now := stop }

def perform (quietMs : Nat) (accepts : Nat → Bool) (s : Slot) : Step → Slot
  | .persist viewport => { s with waiting := some (s.now + quietMs, viewport) }
  | .cancel => { s with waiting := none }
  | .wait ms => s.advance accepts (s.now + ms)

def run (quietMs : Nat) (accepts : Nat → Bool) (s : Slot) (steps : List Step) : Slot :=
  steps.foldl (perform quietMs accepts) s

variable {quietMs : Nat} {accepts : Nat → Bool} {s : Slot}

theorem advance_of_lt {stop : Nat}
    (h : ∀ due viewport, s.waiting = some (due, viewport) → stop < due) :
    s.advance accepts stop = { s with now := stop } := by
  rw [advance]
  split
  · rename_i due viewport hwaiting
    exact if_neg (Nat.not_le.mpr (h due viewport hwaiting))
  · rfl

theorem advance_of_le {due stop : Nat} {viewport : Viewport} (h : s.waiting = some (due, viewport))
    (hle : due ≤ stop) :
    s.advance accepts stop = { s.tried accepts due viewport with now := stop } := by
  rw [advance, h]
  exact if_pos hle

/-- What a slot comes to by some time is the same from whenever it is looked at. -/
theorem advance_moved (s : Slot) (time stop : Nat) :
    ({ s with now := time } : Slot).advance accepts stop = s.advance accepts stop := by
  unfold advance tried
  cases s.waiting with
  | none => rfl
  | some waiting =>
    simp only
    split
    · split <;> rfl
    · rfl

end Slot

/-! ### Tasks -/

variable {quietMs : Nat} {accepts late : Nat → Bool} {seed : Option Viewport}

/-- The tasks of a generation. -/
def ofGeneration (generation : Nat) (tasks : List SaveTask) : List SaveTask :=
  tasks.filter (·.generation = generation)

theorem ofGeneration_cons (generation : Nat) (t : SaveTask) (tasks : List SaveTask) :
    ofGeneration generation (t :: tasks) =
      if t.generation = generation then t :: ofGeneration generation tasks
      else ofGeneration generation tasks := by
  simp [ofGeneration, List.filter_cons]

/-- The tasks of the generation that counts. -/
def current (a : Autosave) : List SaveTask := ofGeneration a.generation a.tasks

/-- Between steps no write is going on, tasks wake in their order, and none is of a generation still
to come. Of the one that counts there is a task exactly if a viewport waits, and it is the one that
is pending. -/
structure Shows (quietMs : Nat) (accepts : Nat → Bool) (a : Autosave) (s : Slot) : Prop where
  quiet : a.quietMs = quietMs
  accepts_eq : a.accepts = accepts
  instant : a.writeMs = 0
  now : a.now = s.now
  writes : a.writes = s.writes
  saved : a.saved = s.saved
  asleep : ∀ t ∈ a.tasks, t.stage = .quiet
  ordered : a.tasks.Pairwise (·.wake ≤ ·.wake)
  generations : ∀ t ∈ a.tasks, t.generation ≤ a.generation
  waits : ∀ due viewport, s.waiting = some (due, viewport) →
    ∃ handle, a.pending = some handle ∧
      a.current = [⟨handle, a.generation, viewport, .quiet, due, false⟩]
  idle : s.waiting = none → a.pending = none ∧ a.current = []

theorem isDue_eq (a : Autosave) (viewport : Viewport) :
    a.isDue viewport = a.saved.all (isSignificant · viewport) := by
  unfold isDue
  cases a.saved <;> rfl

theorem pairwise_enqueue (t : SaveTask) {tasks : List SaveTask}
    (h : tasks.Pairwise (·.wake ≤ ·.wake)) : (t.enqueue tasks).Pairwise (·.wake ≤ ·.wake) := by
  induction tasks with
  | nil => exact List.pairwise_singleton _ _
  | cons u rest ih =>
    obtain ⟨hu, hrest⟩ := List.pairwise_cons.mp h
    rw [SaveTask.enqueue]
    split
    · rename_i hprecedes
      have hle : t.wake ≤ u.wake := by
        simp only [SaveTask.precedes, Bool.or_eq_true, Bool.and_eq_true, decide_eq_true_eq]
          at hprecedes
        omega
      refine List.pairwise_cons.mpr ⟨fun v hv => ?_, h⟩
      rcases List.mem_cons.mp hv with rfl | hv
      · exact hle
      · exact Nat.le_trans hle (hu v hv)
    · rename_i hprecedes
      have hle : u.wake ≤ t.wake := by
        simp only [SaveTask.precedes, Bool.or_eq_true, decide_eq_true_eq, not_or] at hprecedes
        omega
      refine List.pairwise_cons.mpr ⟨fun v hv => ?_, ih hrest⟩
      rcases List.mem_cons.mp ((t.enqueue_perm rest).mem_iff.mp hv) with rfl | hv
      · exact hle
      · exact hu v hv

/-- A write that begins as others wake is over before any of them goes on. -/
theorem enqueue_of_writing {t : SaveTask} {tasks : List SaveTask} (ht : t.stage ≠ .quiet)
    (hasleep : ∀ u ∈ tasks, u.stage = .quiet) (hwake : ∀ u ∈ tasks, t.wake ≤ u.wake) :
    t.enqueue tasks = t :: tasks := by
  cases tasks with
  | nil => rfl
  | cons u rest =>
    have hle := hwake u List.mem_cons_self
    have hprecedes : t.precedes u = true := by
      have hu := hasleep u List.mem_cons_self
      rcases Nat.lt_or_eq_of_le hle with hlt | heq
      · simp [SaveTask.precedes, hlt]
      · simp [SaveTask.precedes, heq, ht, hu]
    rw [SaveTask.enqueue, if_pos hprecedes]

theorem advance_nil {a : Autosave} (h : a.tasks = []) (stop : Nat) :
    a.advance stop = { a with now := stop } := by
  rw [advance]
  split
  · rfl
  · rename_i hcons
    rw [h] at hcons
    cases hcons

theorem advance_cons {a : Autosave} {t : SaveTask} {rest : List SaveTask} (h : a.tasks = t :: rest)
    (stop : Nat) : a.advance stop =
      if t.wake ≤ stop then ({ a with now := t.wake, tasks := rest }.resume t).advance stop
      else { a with now := stop } := by
  rw [advance]
  split
  · rename_i hnil
    rw [h] at hnil
    cases hnil
  · rename_i hcons
    rw [h] at hcons
    cases hcons
    rfl

/-- A task that is out of date changes nothing when it goes on. -/
theorem resume_of_stale {a : Autosave} {t : SaveTask} (hquiet : t.stage = .quiet)
    (hstale : t.generation ≠ a.generation) : a.resume t = a := by
  simp only [resume, hquiet, rouse, if_pos hstale, ite_self]

/-- What the task of the generation that counts comes to, with the write that it begins. -/
theorem advance_of_current {a : Autosave} {t : SaveTask} {rest : List SaveTask} {stop : Nat}
    (htasks : a.tasks = t :: rest) (hwake : t.wake ≤ stop) (haccepts : a.accepts = accepts)
    (hinstant : a.writeMs = 0)
    (hquiet : t.stage = .quiet) (haborted : t.aborted = false)
    (hcurrent : t.generation = a.generation) (hasleep : ∀ u ∈ rest, u.stage = .quiet)
    (hordered : ∀ u ∈ rest, t.wake ≤ u.wake) :
    a.advance stop =
      if a.saved.all (isSignificant · t.viewport) then
        ({ a with
          now := t.wake
          pending := none
          tasks := rest
          writes := a.writes ++ [⟨t.wake, t.viewport, accepts a.writes.length⟩]
          saved := if accepts a.writes.length then some t.viewport else a.saved } :
          Autosave).advance stop
      else ({ a with now := t.wake, pending := none, tasks := rest } : Autosave).advance stop := by
  subst haccepts
  rw [advance_cons htasks, if_pos hwake, resume, hquiet, haborted]
  simp only [Bool.false_and, Bool.false_eq_true, if_false, rouse, hcurrent, ne_eq, not_true_eq_false,
    isDue_eq]
  split
  · have htaken (task : SaveTask) (hwriting : task.stage = .writing (a.accepts a.writes.length))
        (htime : task.wake = t.wake) : task.enqueue rest = task :: rest :=
      enqueue_of_writing (by simp [hwriting]) hasleep (by rw [htime]; exact hordered)
    rw [write, advance_cons (htaken _ rfl (by simp [hinstant]))]
    simp only [hinstant, Nat.add_zero, if_pos hwake, resume, haborted, Bool.not_false, Bool.and_true]
    cases a.accepts a.writes.length <;> rfl
  · rfl

theorem abort_eq (a : Autosave) : ∃ aborted : SaveTask → Bool, a.abort =
    { a with pending := none, tasks := a.tasks.map fun t => { t with aborted := aborted t } } := by
  cases hpending : a.pending with
  | none =>
    refine ⟨(·.aborted), ?_⟩
    simp only [abort, hpending, List.map_id']
    rw [← hpending]
  | some handle =>
    refine ⟨fun t => if t.handle = handle then true else t.aborted, ?_⟩
    have hmarked : a.tasks.map (fun t => if t.handle = handle then { t with aborted := true } else t) =
        a.tasks.map fun t =>
          { t with aborted := if t.handle = handle then true else t.aborted } := by
      refine List.map_congr_left fun t _ => ?_
      split <;> rfl
    simp only [abort, hpending, hmarked]

namespace Shows

variable {a : Autosave} {s : Slot}

theorem start (quietMs : Nat) (accepts late : Nat → Bool) (seed : Option Viewport) :
    Shows quietMs accepts { Autosave.start quietMs 0 accepts seed with late } (.start seed) where
  quiet := rfl
  accepts_eq := rfl
  instant := rfl
  now := rfl
  writes := rfl
  saved := rfl
  asleep _ h := absurd h List.not_mem_nil
  ordered := .nil
  generations _ h := absurd h List.not_mem_nil
  waits _ _ h := by cases h
  idle _ := ⟨rfl, rfl⟩

/-- The time alone may have moved on. -/
theorem moved (h : Shows quietMs accepts a s) (time : Nat) :
    Shows quietMs accepts { a with now := time } { s with now := time } :=
  { h with now := rfl }

/-- Aborting stops no task yet: what makes the tasks give way is that their generation is over. -/
theorem cancel (h : Shows quietMs accepts a s) :
    Shows quietMs accepts a.cancel { s with waiting := none } := by
  obtain ⟨aborted, habort⟩ := abort_eq a
  have hcancel : a.cancel = { a with
      pending := none
      tasks := a.tasks.map fun t => { t with aborted := aborted t }
      generation := a.generation + 1 } := by
    rw [Autosave.cancel, habort]
  have hmem {P : SaveTask → Prop} (hP : ∀ t ∈ a.tasks, P { t with aborted := aborted t }) :
      ∀ t ∈ a.cancel.tasks, P t := by
    rw [hcancel]
    exact List.forall_mem_map.mpr hP
  refine {
    quiet := by rw [hcancel]; exact h.quiet
    accepts_eq := by rw [hcancel]; exact h.accepts_eq
    instant := by rw [hcancel]; exact h.instant
    now := by rw [hcancel]; exact h.now
    writes := by rw [hcancel]; exact h.writes
    saved := by rw [hcancel]; exact h.saved
    asleep := hmem h.asleep
    ordered := by rw [hcancel]; exact List.pairwise_map.mpr h.ordered
    generations := ?_
    waits := nofun
    idle := fun _ => ?_ }
  · rw [show a.cancel.generation = a.generation + 1 by rw [hcancel]]
    exact hmem fun t ht => Nat.le_succ_of_le (h.generations t ht)
  · refine ⟨by rw [hcancel], List.filter_eq_nil_iff.mpr ?_⟩
    rw [show a.cancel.generation = a.generation + 1 by rw [hcancel]]
    refine hmem fun t ht hcurrent => ?_
    have hle := h.generations t ht
    have heq : t.generation = a.generation + 1 := of_decide_eq_true hcurrent
    omega

theorem persist (h : Shows quietMs accepts a s) (viewport : Viewport) :
    Shows quietMs accepts (a.persist viewport)
      { s with waiting := some (s.now + quietMs, viewport) } := by
  have hcancel := h.cancel
  -- A viewport that comes begins a new generation just as a cancellation does.
  have hpersist : a.persist viewport = { a.cancel with
      started := a.cancel.started + 1
      pending := some a.cancel.started
      tasks := (a.cancel.newTask viewport).enqueue a.cancel.tasks } := rfl
  rw [hpersist]
  generalize a.cancel = b at hcancel
  have hperm := (b.newTask viewport).enqueue_perm b.tasks
  have hmem {P : SaveTask → Prop} (hnew : P (b.newTask viewport)) (hP : ∀ t ∈ b.tasks, P t) :
      ∀ t ∈ (b.newTask viewport).enqueue b.tasks, P t :=
    fun t ht => List.forall_mem_cons.mpr ⟨hnew, hP⟩ t (hperm.mem_iff.mp ht)
  exact {
    quiet := hcancel.quiet
    accepts_eq := hcancel.accepts_eq
    instant := hcancel.instant
    now := hcancel.now
    writes := hcancel.writes
    saved := hcancel.saved
    asleep := hmem rfl hcancel.asleep
    ordered := pairwise_enqueue _ hcancel.ordered
    generations := hmem (Nat.le_refl _) hcancel.generations
    waits := by
      rintro due v ⟨⟩
      have hrest : ofGeneration b.generation b.tasks = [] := (hcancel.idle rfl).2
      have hcurrent : (ofGeneration b.generation ((b.newTask viewport).enqueue b.tasks)).Perm
          (ofGeneration b.generation (b.newTask viewport :: b.tasks)) := hperm.filter _
      rw [ofGeneration_cons, if_pos (by rfl), hrest] at hcurrent
      refine ⟨b.started, rfl, ?_⟩
      rw [← hcancel.now, ← hcancel.quiet]
      exact List.perm_singleton.mp hcurrent
    idle := nofun }

section

variable {t : SaveTask} {rest : List SaveTask}

/-- The task of the generation that counts goes on, or falls away. -/
theorem taken (h : Shows quietMs accepts a s) (htasks : a.tasks = t :: rest)
    (hrest : ofGeneration a.generation rest = []) (writes : List Write) (saved : Option Viewport) :
    Shows quietMs accepts
      { a with now := t.wake, pending := none, tasks := rest, writes, saved }
      ⟨t.wake, none, writes, saved⟩ := by
  have hasleep := (List.forall_mem_cons.mp (htasks ▸ h.asleep)).2
  have hordered := (List.pairwise_cons.mp (htasks ▸ h.ordered)).2
  have hgenerations := (List.forall_mem_cons.mp (htasks ▸ h.generations)).2
  exact ⟨h.quiet, h.accepts_eq, h.instant, rfl, rfl, rfl, hasleep, hordered, hgenerations, nofun,
    fun _ => ⟨rfl, hrest⟩⟩

/-- A task that is out of date falls away. -/
theorem dropped (h : Shows quietMs accepts a s) (htasks : a.tasks = t :: rest)
    (hstale : t.generation ≠ a.generation) :
    Shows quietMs accepts { a with now := t.wake, tasks := rest } { s with now := t.wake } := by
  have hcurrent : a.current = ofGeneration a.generation rest := by
    rw [current, htasks, ofGeneration_cons, if_neg hstale]
  exact {
    h with
    now := rfl
    asleep := (List.forall_mem_cons.mp (htasks ▸ h.asleep)).2
    ordered := (List.pairwise_cons.mp (htasks ▸ h.ordered)).2
    generations := (List.forall_mem_cons.mp (htasks ▸ h.generations)).2
    waits := fun due viewport hwaiting => by
      obtain ⟨handle, hpending, hone⟩ := h.waits due viewport hwaiting
      exact ⟨handle, hpending, hcurrent.symm.trans hone⟩
    idle := fun hwaiting =>
      ⟨(h.idle hwaiting).1, hcurrent.symm.trans (h.idle hwaiting).2⟩ }

/-- The viewport that waits does so until the first task wakes, or for longer. -/
theorem wake_le (h : Shows quietMs accepts a s) (htasks : a.tasks = t :: rest) {due : Nat}
    {viewport : Viewport} (hwaiting : s.waiting = some (due, viewport)) : t.wake ≤ due := by
  obtain ⟨handle, -, hcurrent⟩ := h.waits due viewport hwaiting
  have hmem : (⟨handle, a.generation, viewport, .quiet, due, false⟩ : SaveTask) ∈ a.tasks := by
    have hhead : (⟨handle, a.generation, viewport, .quiet, due, false⟩ : SaveTask) ∈ a.current := by
      rw [hcurrent]
      exact List.mem_singleton_self _
    exact (List.mem_filter.mp hhead).1
  rw [htasks] at hmem
  have hbefore : ∀ u ∈ rest, t.wake ≤ u.wake := (List.pairwise_cons.mp (htasks ▸ h.ordered)).1
  rcases List.mem_cons.mp hmem with heq | hmem
  · exact Nat.le_of_eq (congrArg SaveTask.wake heq.symm)
  · exact hbefore _ hmem

theorem tasks_ne_nil (h : Shows quietMs accepts a s) {due : Nat} {viewport : Viewport}
    (hwaiting : s.waiting = some (due, viewport)) : a.tasks ≠ [] := by
  intro htasks
  obtain ⟨handle, -, hcurrent⟩ := h.waits due viewport hwaiting
  rw [current, htasks] at hcurrent
  cases hcurrent

end

/-- Time passes for the tasks as for the slot. -/
theorem advance {tasks : List SaveTask} (htasks : a.tasks = tasks) (h : Shows quietMs accepts a s)
    (stop : Nat) : Shows quietMs accepts (a.advance stop) (s.advance accepts stop) := by
  -- By induction on the tasks: those out of date fall away, and the current one is tried.
  induction tasks generalizing a s with
  | nil =>
    rw [advance_nil htasks,
      Slot.advance_of_lt fun due viewport hwaiting => absurd htasks (h.tasks_ne_nil hwaiting)]
    exact h.moved stop
  | cons t rest ih =>
    by_cases hwake : t.wake ≤ stop
    · by_cases hcurrent : t.generation = a.generation
      · have hcurrents : a.current = t :: ofGeneration a.generation rest := by
          rw [current, htasks, ofGeneration_cons, if_pos hcurrent]
        cases hwaiting : s.waiting with
        | none =>
          rw [(h.idle hwaiting).2] at hcurrents
          cases hcurrents
        | some waiting =>
          obtain ⟨due, viewport⟩ := waiting
          obtain ⟨handle, -, hone⟩ := h.waits due viewport hwaiting
          rw [hone] at hcurrents
          obtain ⟨rfl, hrest⟩ := List.cons.inj hcurrents
          have hnext (writes : List Write) (saved : Option Viewport) :=
            ih rfl (h.taken htasks hrest.symm writes saved)
          rw [advance_of_current htasks hwake h.accepts_eq h.instant rfl rfl rfl
              (List.forall_mem_cons.mp (htasks ▸ h.asleep)).2
              (List.pairwise_cons.mp (htasks ▸ h.ordered)).1,
            Slot.advance_of_le hwaiting hwake, Slot.tried, ← h.saved, ← h.writes]
          split
          · exact hnext (a.writes ++ [⟨due, viewport, accepts a.writes.length⟩])
              (if accepts a.writes.length then some viewport else a.saved)
          · exact hnext a.writes a.saved
      · have hquiet := (List.forall_mem_cons.mp (htasks ▸ h.asleep)).1
        have hstale : ({ a with now := t.wake, tasks := rest } : Autosave).resume t =
            { a with now := t.wake, tasks := rest } := resume_of_stale hquiet hcurrent
        rw [advance_cons htasks, if_pos hwake, hstale, ← s.advance_moved t.wake]
        exact ih rfl (h.dropped htasks hcurrent)
    · have hnow : s.advance accepts stop = { s with now := stop } :=
        Slot.advance_of_lt fun due viewport hwaiting =>
          Nat.lt_of_lt_of_le (Nat.not_le.mp hwake) (h.wake_le htasks hwaiting)
      rw [advance_cons htasks, if_neg hwake, hnow]
      exact h.moved stop

theorem perform (h : Shows quietMs accepts a s) (step : Step) :
    Shows quietMs accepts (a.perform step) (s.perform quietMs accepts step) := by
  cases step with
  | persist viewport => exact h.persist viewport
  | cancel => exact h.cancel
  | wait ms =>
    rw [Autosave.perform, wait, h.now]
    exact h.advance rfl (s.now + ms)

/-- What steps make of the tasks is what they make of the slot. -/
theorem run (h : Shows quietMs accepts a s) (steps : List Step) :
    Shows quietMs accepts (a.run steps) (s.run quietMs accepts steps) := by
  induction steps generalizing a s with
  | nil => exact h
  | cons step rest ih => exact ih (h.perform step)

end Shows

/-! ### All steps -/

theorem latest_concat (seed : Option Viewport) (writes : List Write) (w : Write) :
    latest seed (writes ++ [w]) = if w.accepted then some w.viewport else latest seed writes := by
  unfold latest
  cases hw : w.accepted <;> simp [hw]

theorem reaches_wait (due ms : Nat) (rest : List Step) :
    reaches due (.wait ms :: rest) = (due ≤ ms || reaches (due - ms) rest) := by
  rw [Bool.eq_iff_iff, reaches, reaches]
  cases hrest : pause? rest with
  | none => simp [pause?, hrest]
  | some more =>
    simp only [pause?, hrest, Option.getD_some, Option.any_some, Bool.or_eq_true,
      decide_eq_true_eq]
    omega

theorem pause?_takeWhile (steps : List Step) :
    pause? (steps.takeWhile Step.isWait) = pause? steps := by
  induction steps with
  | nil => rfl
  | cons step rest ih =>
    cases step with
    | wait ms =>
      rw [List.takeWhile_cons_of_pos rfl, pause?, ih, pause?]
    | persist viewport => rfl
    | cancel => rfl

theorem firings_eq_nil {steps : List Step} (h : ∀ viewport, .persist viewport ∉ steps)
    (quietMs now : Nat) : firings quietMs now steps = [] := by
  induction steps generalizing now with
  | nil => rfl
  | cons step rest ih =>
    have hrest : ∀ viewport, .persist viewport ∉ rest :=
      fun viewport hmem => h viewport (List.mem_cons_of_mem step hmem)
    cases step with
    | persist viewport => exact absurd List.mem_cons_self (h viewport)
    | cancel => exact ih hrest now
    | wait ms => exact ih hrest (now + ms)

theorem length_firings_le (quietMs now : Nat) (steps : List Step) :
    (firings quietMs now steps).length ≤ steps.countP (· matches .persist _) := by
  induction steps generalizing now with
  | nil => exact Nat.le_refl _
  | cons step rest ih =>
    cases step with
    | persist viewport =>
      have hrest := ih now
      rw [List.countP_cons_of_pos rfl, firings]
      split
      · exact Nat.succ_le_succ hrest
      · omega
    | cancel => simpa [firings] using ih now
    | wait ms => simpa [firings] using ih (now + ms)

theorem length_attempts_le (accepts : Nat → Bool) (saved : Option Viewport) (n : Nat)
    (fired : List (Nat × Viewport)) : (attempts accepts saved n fired).length ≤ fired.length := by
  induction fired generalizing saved n with
  | nil => exact Nat.le_refl _
  | cons first rest ih =>
    rw [attempts]
    split
    · exact Nat.succ_le_succ (ih _ _)
    · exact Nat.le_succ_of_le (ih _ _)

namespace Slot

variable {s : Slot}

theorem run_append (s : Slot) (before rest : List Step) :
    s.run quietMs accepts (before ++ rest) =
      (s.run quietMs accepts before).run quietMs accepts rest :=
  List.foldl_append

/-- What is saved is the last of the writes that were accepted. -/
theorem saved_perform (h : s.saved = latest seed s.writes) (step : Step) :
    (s.perform quietMs accepts step).saved =
      latest seed (s.perform quietMs accepts step).writes := by
  cases step with
  | persist viewport => exact h
  | cancel => exact h
  | wait ms =>
    rw [perform, advance]
    split
    · split
      · rw [tried]
        split
        · rw [latest_concat, h]
        · exact h
      · exact h
    · exact h

theorem saved_run (h : s.saved = latest seed s.writes) (steps : List Step) :
    (s.run quietMs accepts steps).saved = latest seed (s.run quietMs accepts steps).writes := by
  induction steps generalizing s with
  | nil => exact h
  | cons step rest ih => exact ih (saved_perform h step)

/-- The viewport that waits, if the end of its quiet period is reached. -/
def pending (s : Slot) (steps : List Step) : List (Nat × Viewport) :=
  match s.waiting with
  | some (due, viewport) => if reaches (due - s.now) steps then [(due, viewport)] else []
  | none => []

theorem pending_eq_nil {steps : List Step} (h : pause? steps = none) : s.pending steps = [] := by
  unfold pending
  split
  · rw [reaches, h]
    rfl
  · rfl

/-- What has been written once steps are over, as a slot foresees it. -/
def foreseen (quietMs : Nat) (accepts : Nat → Bool) (s : Slot) (steps : List Step) : List Write :=
  s.writes ++ attempts accepts s.saved s.writes.length
    (s.pending steps ++ firings quietMs s.now steps)

theorem foreseen_persist (s : Slot) (viewport : Viewport) (rest : List Step) :
    (s.perform quietMs accepts (.persist viewport)).foreseen quietMs accepts rest =
      s.foreseen quietMs accepts (.persist viewport :: rest) := by
  have hpending : s.pending (.persist viewport :: rest) = [] := pending_eq_nil rfl
  have hfirings : (s.perform quietMs accepts (.persist viewport)).pending rest ++
      firings quietMs s.now rest = firings quietMs s.now (.persist viewport :: rest) := by
    simp only [pending, perform, Nat.add_sub_cancel_left, firings]
    split <;> rfl
  rw [foreseen, foreseen, hpending, List.nil_append, ← hfirings]
  rfl

theorem foreseen_wait (s : Slot) (ms : Nat) (rest : List Step) :
    (s.perform quietMs accepts (.wait ms)).foreseen quietMs accepts rest =
      s.foreseen quietMs accepts (.wait ms :: rest) := by
  rw [perform]
  unfold foreseen
  cases hwaiting : s.waiting with
  | none => simp [advance, pending, hwaiting, firings]
  | some waiting =>
    obtain ⟨due, viewport⟩ := waiting
    -- The quiet period ends within this wait, or it is shorter by it afterwards.
    by_cases hle : due ≤ s.now + ms
    · have hreaches : reaches (due - s.now) (.wait ms :: rest) = true := by
        rw [reaches_wait, Bool.or_eq_true, decide_eq_true_iff]
        exact .inl (by omega)
      have hpending : s.pending (.wait ms :: rest) = [(due, viewport)] := by
        simp only [pending, hwaiting]
        exact if_pos hreaches
      rw [advance_of_le hwaiting hle, hpending, List.singleton_append, firings, attempts]
      by_cases hdue : s.saved.all (isSignificant · viewport) = true
      · simp [tried, hdue, pending]
      · simp [tried, hdue, pending]
    · have hlt : s.now + ms < due := Nat.not_le.mp hle
      have hreaches : reaches (due - s.now) (.wait ms :: rest) =
          reaches (due - (s.now + ms)) rest := by
        rw [reaches_wait, Nat.sub_sub, decide_eq_false (by omega), Bool.false_or]
      have hadvance : s.advance accepts (s.now + ms) = { s with now := s.now + ms } :=
        advance_of_lt fun due' viewport' h => by
          rw [hwaiting] at h
          cases h
          exact hlt
      rw [hadvance]
      simp [pending, hwaiting, hreaches, firings]

theorem foreseen_perform (s : Slot) (step : Step) (rest : List Step) :
    (s.perform quietMs accepts step).foreseen quietMs accepts rest =
      s.foreseen quietMs accepts (step :: rest) := by
  cases step with
  | persist viewport => exact foreseen_persist s viewport rest
  | cancel =>
    have hpending : s.pending (.cancel :: rest) = [] := pending_eq_nil rfl
    rw [foreseen, foreseen, hpending]
    rfl
  | wait ms => exact s.foreseen_wait ms rest

/-- Steps write what is foreseen of them. -/
theorem writes_run (s : Slot) (steps : List Step) :
    (s.run quietMs accepts steps).writes = s.foreseen quietMs accepts steps := by
  induction steps generalizing s with
  | nil =>
    rw [foreseen, pending_eq_nil rfl]
    exact (List.append_nil _).symm
  | cons step rest ih =>
    rw [← s.foreseen_perform step rest]
    exact ih _

theorem prefix_run (s : Slot) {steps more : List Step} (hmore : steps <+: more) :
    (s.run quietMs accepts steps).writes <+: (s.run quietMs accepts more).writes := by
  obtain ⟨rest, rfl⟩ := hmore
  rw [run_append, writes_run (s.run quietMs accepts steps)]
  exact List.prefix_append _ _

theorem writes_persist (s : Slot) (viewport : Viewport) (rest : List Step) :
    (s.run quietMs accepts (.persist viewport :: rest.takeWhile Step.isWait)).writes = s.writes ++
      if reaches quietMs rest && s.saved.all (isSignificant · viewport) then
        [⟨s.now + quietMs, viewport, accepts s.writes.length⟩]
      else [] := by
  have hpending : s.pending (.persist viewport :: rest.takeWhile Step.isWait) = [] :=
    pending_eq_nil rfl
  have hfirings : firings quietMs s.now (rest.takeWhile Step.isWait) = [] := by
    refine firings_eq_nil (fun other hother => ?_) quietMs s.now
    cases List.all_eq_true.mp List.all_takeWhile _ hother
  have hreaches : reaches quietMs (rest.takeWhile Step.isWait) = reaches quietMs rest := by
    rw [reaches, pause?_takeWhile, reaches]
  rw [writes_run, foreseen, hpending, List.nil_append, firings, hfirings, hreaches]
  cases reaches quietMs rest with
  | true => simp [attempts]
  | false => simp [attempts]

theorem writes_cancel (s : Slot) {rest : List Step} (hrest : ∀ viewport, .persist viewport ∉ rest) :
    (s.run quietMs accepts (.cancel :: rest)).writes = s.writes := by
  have hpending : s.pending (.cancel :: rest) = [] := pending_eq_nil rfl
  rw [writes_run, foreseen, hpending, firings, firings_eq_nil hrest]
  exact List.append_nil _

end Slot

/-- Where writes take no time, whatever comes or is cancelled at whatever times, whichever tasks are
aborted too late, and whichever writes are accepted, what is written and saved is what is to be. -/
theorem debounced_after (quietMs : Nat) (accepts late : Nat → Bool) (seed : Option Viewport)
    (steps : List Step) : Debounced quietMs accepts late seed steps := by
  have hshows (steps : List Step) : Shows quietMs accepts (after quietMs accepts late seed steps)
      ((Slot.start seed).run quietMs accepts steps) :=
    (Shows.start quietMs accepts late seed).run steps
  have hwrites : (after quietMs accepts late seed steps).writes =
      attempts accepts seed 0 (firings quietMs 0 steps) :=
    (hshows steps).writes.trans ((Slot.start seed).writes_run steps)
  refine ⟨hwrites, ?_, ?_, ?_, ?_⟩
  · rw [(hshows steps).saved, (hshows steps).writes]
    exact Slot.saved_run rfl steps
  · rintro before viewport rest rfl
    have hfound := hshows before
    have hpaused := hfound.run (.persist viewport :: rest.takeWhile Step.isWait)
    refine ⟨?_, ?_⟩
    · rw [hpaused.writes, hfound.writes, hfound.saved, hfound.now]
      exact Slot.writes_persist _ viewport rest
    · rw [hpaused.writes, (hshows _).writes, Slot.run_append]
      exact Slot.prefix_run _ ((List.prefix_cons_inj _).mpr (List.takeWhile_prefix _))
  · rintro before rest rfl hrest
    rw [(hshows _).writes, (hshows before).writes, Slot.run_append]
    exact Slot.writes_cancel _ hrest
  · rw [hwrites]
    exact Nat.le_trans (length_attempts_le accepts seed 0 _) (length_firings_le quietMs 0 steps)

/-- The first of two viewports is never written, as the second takes its place, even if the first
task cannot be aborted in time. -/
example (v v' : Viewport) :
    (after 5 (fun _ => true) (fun _ => true) none
      [.persist v, .wait 2, .persist v', .wait 6]).writes = [⟨7, v', true⟩] :=
  ((Shows.start 5 (fun _ => true) (fun _ => true) none).run _).writes

end WormholeMap.Autosave
