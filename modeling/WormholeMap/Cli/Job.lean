import WormholeMap.Cli.Arguments
import WormholeMap.Cli.Text
import WormholeMap.Json.Print
import WormholeMap.View

/-!
Jobs: what a command does. Most commands are done at once. To watch a map, or to print its events,
is a job that goes on step by step.
-/

namespace WormholeMap.Cli

/-- A line of output, for results or for errors. -/
inductive Line where
  | out (text : String)
  | err (text : String)
  deriving DecidableEq

/-- A job that goes on, or its exit code. -/
inductive Job where
  | events (subscription : Subscription)
  | watch (view : View)
  | done (code : Nat)

/-- A job and what has been printed since it was asked last. -/
abbrev Progress := Job × List Line

/-- The exit code of a request that failed. -/
def failedCode : Nat := 1

/-- The exit code of a command that makes no sense, or none on this map. -/
def usageCode : Nat := 2

/-- The exit code of a configuration that cannot be read. -/
def configCode : Nat := 3

/-- Done, with a result. -/
def succeed (text : String) : Progress := (.done 0, [.out text])

/-- Done, with an error. -/
def fail (code : Nat) (text : String) : Progress := (.done code, [.err ("Error: " ++ text)])

/-- Done, with the result of an action. -/
def finish (text : α → Progress) : Except ActionError α → Progress
  | .ok a => text a
  | .error e => fail failedCode e.message

def apiMessage : ApiError → String
  | .network => "request failed"
  | .rejected status detail => rejectionMessage status detail
  | .decode => "unexpected response body"

/-- Loads a map for a command that works on it. -/
def withMap (c : Client) (map : MapId) (work : MapDetail → Run σ Progress) : Run σ Progress := do
  match ← c.loadMap map with
  | .ok detail => work detail
  | .error e => return fail failedCode s!"failed to load map {map}: {apiMessage e}"

/-! ### Commands that are done at once -/

/-- The node of a map with an identity, or what is said when the map has none. -/
def findNode (map : MapId) (detail : MapDetail) (id : NodeId) : Except String Node :=
  match detail.nodes.find? (·.id = id) with
  | some n => .ok n
  | none => .error s!"node {id} is not on map {map}"

/-- The link of a map with an identity, or what is said when the map has none. -/
def findLink (map : MapId) (detail : MapDetail) (id : LinkId) : Except String Link :=
  match detail.links.find? (·.id = id) with
  | some l => .ok l
  | none => .error s!"connection {id} is not on map {map}"

def snapshot (c : Client) (map : MapId) : Run σ Progress :=
  withMap c map fun detail => return succeed (detail.toJson.pretty 0)

def lock (c : Client) (map : MapId) (node : NodeId) : Run σ Progress :=
  withMap c map fun detail => do
    match findNode map detail node with
    | .error text => return fail usageCode text
    | .ok n =>
      let result ← c.toggleLock map n
      return finish (fun _ => succeed (if n.locked then "node unlocked" else "node locked")) result

/-- Moves a node, unless it is locked. -/
def move (c : Client) (map : MapId) (node : NodeId) (p : Position) : Run σ Progress :=
  withMap c map fun detail => do
    match findNode map detail node with
    | .error text => return fail usageCode text
    | .ok n =>
      let moved (count : Nat) : Progress :=
        if count = 0 then fail usageCode s!"node {node} is locked"
        else succeed s!"node moved to ({Decimal.displayFloat p.x}, {Decimal.displayFloat p.y})"
      return finish moved (← c.moveSelection map [(n, p)])

def change (c : Client) (map : MapId) (m : Mutation) (done : String) : Run σ Progress := do
  return finish (fun _ => succeed done) (← c.mutate map m)

def setMass (c : Client) (map : MapId) (link : LinkId) (status : String) : Run σ Progress :=
  match massOfName? status with
  | some mass => change c map (.setMass link mass) "mass status updated"
  | none => return fail usageCode <|
      s!"invalid mass status '{status}', expected stable/destabilized/critical"

def setLifetime (c : Client) (map : MapId) (link : LinkId) (status : String) : Run σ Progress :=
  match lifetimeOfName? status with
  | some lifetime => change c map (.setLifetime link lifetime) "lifetime status updated"
  | none => return fail usageCode <|
      s!"invalid lifetime status '{status}', expected stable/aging/critical/eol"

def deletionProgress : DeletionOutcome → Progress
  | .completed plan =>
    succeed (s!"deleted {plan.nodes.length} systems and {plan.links.length} connections "
      ++ s!"({plan.skippedLocked.length} locked systems kept)")
  | .cancelled locked => fail usageCode s!"all {locked.length} selected systems are locked"

/-- Deletes nodes and links, if all of them are on the map. -/
def delete (c : Client) (map : MapId) (nodes : List NodeId) (links : List LinkId) :
    Run σ Progress :=
  withMap c map fun detail => do
    let selection : Except String (List Node × List Link) := do
      return (← nodes.mapM (findNode map detail), ← links.mapM (findLink map detail))
    match selection with
    | .error text => return fail usageCode text
    | .ok (nodes, links) => return finish deletionProgress (← c.deleteSelection map nodes links)

/-! ### Jobs -/

def Job.begin (c : Client) : Command → Run σ Progress
  | .watch map => return (.watch (.start c map), [])
  | .events map resume => return (.events (.start c map resume), [])
  | .snapshot map => snapshot c map
  | .lock map node => lock c map node
  | .move map node p => move c map node p
  | .reverse map link => change c map (.reverseLink link) "connection reversed"
  | .mass map link status => setMass c map link status
  | .lifetime map link status => setLifetime c map link status
  | .delete map nodes links => delete c map nodes links

/-- Begins what a command line asks for, with variables for what it does not give. -/
def Job.start (args : List String) (env : String → Option String) : Run σ Progress :=
  match parse? args with
  | none => return (.done usageCode, [.err "usage: linked [OPTIONS] COMMAND MAP ..."])
  | some (options, command) =>
    match Config.ofVariables (options.lookup env) with
    | .error e => return fail configCode e.message
    | .ok config => Job.begin config.client command

def printDelivery (s : Subscription) : Option Delivery → Progress
  | some .connected | some .silence => (.events s, [])
  | some (.interrupted fault) => (.events s, [.err ("stream interrupted: " ++ fault.message)])
  | some (.event id e) => (.events s, [.out (id.getD "-" ++ "\t" ++ describe e)])
  | some .closed | none => (.done 0, [])

/-- Prints the graph of a view when it has changed, and how the view ended. -/
def printView (before after : View) : Progress :=
  let store := after.workspace.store
  let changes :=
    if store.count ≠ before.workspace.store.count then
      (summary store.value after.workspace.session.value.readOnly).map Line.out
    else []
  match after.result? with
  | none => (.watch after, changes)
  | some (.ok .streamClosed) => (.done 0, changes)
  | some (.ok (.left reason)) =>
    (.done 0, changes ++ [.out s!"left map {after.map}: {reasonName reason}"])
  | some (.error e) => (.done failedCode, changes ++ [.err ("Error: " ++ e.message)])

namespace Job

def step : Job → Run σ Progress
  | events s => do
    let (delivery, s) ← s.next
    return printDelivery s delivery
  | watch v => return printView v (← v.step)
  | done code => return (.done code, [])

/-- A number of steps, and all that they print. -/
def run (j : Job) : Nat → Run σ Progress
  | 0 => return (j, [])
  | n + 1 => do
    let (j, lines) ← j.step
    let (j, more) ← j.run n
    return (j, lines ++ more)

end Job

end WormholeMap.Cli
