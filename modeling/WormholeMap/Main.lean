import WormholeMap.Cli.Job

/-!
The command line program. It has no network of its own: every request it makes stays here.
-/

namespace WormholeMap

open Cli

def printLine : Line → IO Unit
  | .out text => IO.println text
  | .err text => IO.eprintln text

/-- Goes on with a job to its end, and waits where it waits. -/
partial def finishJob (job : Job) (ctx : Context Unit) : IO UInt32 := do
  match job with
  | .done code => return code.toUInt32
  | _ =>
    let ((job, lines), next) := job.step.run ctx
    IO.sleep (next.wire.clock - ctx.wire.clock).toUInt32
    lines.forM printLine
    finishJob job next

end WormholeMap

open WormholeMap in
/-- Does what the arguments and the environment ask for. -/
def main (args : List String) : IO UInt32 := do
  let given ← [Config.urlVariable, Config.sessionVariable, Config.reconnectVariable,
    Config.debounceVariable].mapM fun name => return (name, ← IO.getEnv name)
  let lookup (name : String) : Option String := (given.lookup name).join
  let ctx : Context Unit := ⟨.start .unreachable (), .empty⟩
  let ((job, lines), ctx) := (Cli.Job.start args lookup).run ctx
  lines.forM printLine
  finishJob job ctx
