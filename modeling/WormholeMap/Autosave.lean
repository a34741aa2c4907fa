import WormholeMap.Map.Geometry
import WormholeMap.Map.Id

/-!
Saving the viewport of a map once it has come to rest. A viewport that comes starts a task, which
sleeps for a quiet period and then writes it, unless a later one has taken its place or it hardly
differs from the one saved last. A write takes a while, and may be refused; a refused one is not
repeated.

A later viewport stops the task of an earlier one twice over. It aborts the task, which may come too
late for one that is about to go on; and it begins a new generation, so that a task which goes on
nevertheless finds itself out of date.
-/

namespace WormholeMap

/-- Whether a viewport differs enough from the saved one to be written. -/
def isSignificant (saved next : Viewport) : Bool :=
  (saved.x - next.x).abs ≥ 0.1 || (saved.y - next.y).abs ≥ 0.1
    || (saved.zoom - next.zoom).abs ≥ 0.001

/-- A write of a viewport: when it began, and whether it is accepted in the end. -/
structure Write where
  time : Nat
  viewport : Viewport
  accepted : Bool

/-! ### Tasks -/

/-- What a task waits for: the end of the quiet period, or that of its write, which is accepted or
not. -/
inductive SaveStage where
  | quiet
  | writing (accepted : Bool)
  deriving DecidableEq

/-- A task that saves a viewport: its handle, the generation it is of, what it waits for and when
that comes, and whether it has been aborted. -/
structure SaveTask where
  handle : Nat
  generation : Nat
  viewport : Viewport
  stage : SaveStage
  wake : Nat
  aborted : Bool

namespace SaveTask

/-- How often a task still goes on, at most. -/
def turns (t : SaveTask) : Nat :=
  match t.stage with
  | .quiet => 2
  | .writing _ => 1

/-- How often tasks still go on, at most. -/
def allTurns : List SaveTask → Nat
  | [] => 0
  | t :: rest => t.turns + allTurns rest

/-- Whether a task goes on before another one. At the same time the end of a write comes before that
of a quiet period. -/
def precedes (t u : SaveTask) : Bool :=
  t.wake < u.wake || (t.wake = u.wake && t.stage ≠ .quiet && u.stage = .quiet)

/-- Puts a task among others that are in the order in which they go on, behind those that it does
not go on before. -/
def enqueue (t : SaveTask) : List SaveTask → List SaveTask
  | [] => [t]
  | u :: rest => if t.precedes u then t :: u :: rest else u :: enqueue t rest

theorem enqueue_perm (t : SaveTask) (tasks : List SaveTask) :
    (t.enqueue tasks).Perm (t :: tasks) := by
  induction tasks with
  | nil => exact .refl _
  | cons u rest ih =>
    rw [enqueue]
    split
    · exact .refl _
    · exact (ih.cons u).trans (.swap t u rest)

theorem allTurns_enqueue (t : SaveTask) (tasks : List SaveTask) :
    allTurns (t.enqueue tasks) = t.turns + allTurns tasks := by
  induction tasks with
  | nil => rfl
  | cons u rest ih =>
    rw [enqueue]
    split
    · rfl
    · rw [allTurns, ih, allTurns, Nat.add_left_comm]

end SaveTask

/-! ### Saving -/

/-- The saving of viewports over time, in milliseconds: the quiet period, how long a write takes,
which ones are accepted, and which tasks an abort comes too late for, by their handles; the time,
the number of tasks so far, the generation that counts, the handle of the task that is pending, the
tasks that are not over, in the order in which they go on, the writes begun so far, and the viewport
saved last. No generation comes back: they are not meant to wrap, and have no bound. -/
structure Autosave where
  quietMs : Nat
  writeMs : Nat
  accepts : Nat → Bool
  late : Nat → Bool
  now : Nat
  started : Nat
  generation : Nat
  pending : Option Nat
  tasks : List SaveTask
  writes : List Write
  saved : Option Viewport

namespace Autosave

/-- Nothing to save yet; a viewport may count as saved. No abort comes too late. -/
def start (quietMs writeMs : Nat) (accepts : Nat → Bool) (saved : Option Viewport) : Autosave where
  quietMs := quietMs
  writeMs := writeMs
  accepts := accepts
  late _ := false
  now := 0
  started := 0
  generation := 0
  pending := none
  tasks := []
  writes := []
  saved := saved

/-- Aborts the pending task, if there is one. -/
def abort (a : Autosave) : Autosave :=
  match a.pending with
  | some handle => { a with
      pending := none
      tasks := a.tasks.map fun t => if t.handle = handle then { t with aborted := true } else t }
  | none => a

/-- The task that a viewport starts, of the generation that counts. -/
def newTask (a : Autosave) (viewport : Viewport) : SaveTask where
  handle := a.started
  generation := a.generation
  viewport := viewport
  stage := .quiet
  wake := a.now + a.quietMs
  aborted := false

/-- Starts the task of a viewport, which takes the place of the one that is pending. -/
def persist (a : Autosave) (viewport : Viewport) : Autosave :=
  let a := a.abort
  let a := { a with generation := a.generation + 1 }
  { a with
    started := a.started + 1
    pending := some a.started
    tasks := (a.newTask viewport).enqueue a.tasks }

/-- Lets no viewport wait any more. Writes that have begun go on. -/
def cancel (a : Autosave) : Autosave :=
  let a := a.abort
  { a with generation := a.generation + 1 }

def isDue (a : Autosave) (viewport : Viewport) : Bool :=
  match a.saved with
  | some saved => isSignificant saved viewport
  | none => true

/-- Begins the write of the viewport of a task. -/
def write (a : Autosave) (t : SaveTask) : Autosave :=
  let accepted := a.accepts a.writes.length
  let task := { t with stage := .writing accepted, wake := a.now + a.writeMs }
  { a with
    writes := a.writes ++ [⟨a.now, t.viewport, accepted⟩]
    tasks := task.enqueue a.tasks }

/-- The quiet period of a task is over. It is pending no longer, unless it is out of date. -/
def rouse (a : Autosave) (t : SaveTask) : Autosave :=
  if t.generation ≠ a.generation then a
  else
    let a := { a with pending := none }
    if a.isDue t.viewport then a.write t else a

/-- A task goes on, or is dropped as it has been aborted. -/
def resume (a : Autosave) (t : SaveTask) : Autosave :=
  match t.stage with
  | .quiet => if t.aborted && !a.late t.handle then a else a.rouse t
  | .writing accepted => if accepted && !t.aborted then { a with saved := some t.viewport } else a

/-- The turns that are left to the tasks, at most. -/
def turns (a : Autosave) : Nat := SaveTask.allTurns a.tasks

theorem turns_resume (a : Autosave) (t : SaveTask) : (a.resume t).turns < a.turns + t.turns := by
  have hwrite (a : Autosave) : (a.write t).turns = 1 + a.turns := SaveTask.allTurns_enqueue _ _
  unfold resume
  cases hstage : t.stage with
  | writing accepted =>
    have hturns : t.turns = 1 := by rw [SaveTask.turns, hstage]
    simp only
    split <;> exact Nat.lt_add_of_pos_right (by omega)
  | quiet =>
    have hturns : t.turns = 2 := by rw [SaveTask.turns, hstage]
    simp only [rouse]
    split
    · omega
    split
    · omega
    split
    · rw [hwrite]
      show 1 + a.turns < _
      omega
    · show a.turns < _
      omega

/-- Lets the tasks whose time comes until `stop` go on, one after another. -/
def advance (a : Autosave) (stop : Nat) : Autosave :=
  match _h : a.tasks with
  | [] => { a with now := stop }
  | t :: rest =>
    if t.wake ≤ stop then ({ a with now := t.wake, tasks := rest }.resume t).advance stop
    else { a with now := stop }
termination_by a.turns
decreasing_by
  have hresume := turns_resume { a with now := t.wake, tasks := rest } t
  simp only [turns, _h, SaveTask.allTurns] at hresume ⊢
  omega

def wait (a : Autosave) (ms : Nat) : Autosave := a.advance (a.now + ms)

end Autosave

end WormholeMap
