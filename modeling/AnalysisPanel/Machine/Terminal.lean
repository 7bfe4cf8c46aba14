import AnalysisPanel.Machine.Disk
import AnalysisPanel.Machine.Journal
import AnalysisPanel.Machine.Network
import AnalysisPanel.Program.Carrier
import AnalysisPanel.Program.Startup
import AnalysisPanel.Terminal.Input

/-! A session on the terminal of this machine. The panel is handed one thing after the other:
completions as they come, lines as they are typed, and a tick when neither does. -/

namespace AnalysisPanel.Machine

open Service

/-- What a session needs of the machine. -/
structure Surroundings where
  journal : Journal
  settings : Settings
  downloads : String

/-- A call that runs as a task. -/
abbrev RunningTask := Running × Std.Async.AsyncTask (Reply Failure)

/-- A session under way. -/
structure Live where
  host : Host
  label : String
  engine : Engine := {}
  tasks : List RunningTask := []

/-- Prints a text on a line of its own. A terminal that is gone is no failure. -/
def display (text : String) : IO Unit := do
  try
    IO.println text
    (← IO.getStdout).flush
  catch _ => pure ()

/-! ### Acts -/

/-- Acts are carried out on the terminal, in the log, by the engine and on the disk. -/
def carrier (s : Surroundings) : Carrier IO Live where
  print live text := do display text; return live
  log live level message := do s.journal.write (.of live.label level message); return live
  order live o := return { live with engine := live.engine.submit o }
  save live filename content := do
    let draws ← drawForSave
    return (← runScript (Storage.save s.downloads filename content draws), live)

/-- Notes of the engine are logged. -/
def noteAll (s : Surroundings) (notes : List EngineNote) : IO Unit :=
  notes.forM fun note => s.journal.write note.line

/-- Starts the tasks of calls that have none. -/
def startTasks (s : Surroundings) (live : Live) : IO Live := do
  let mut tasks := live.tasks
  for running in live.engine.running do
    unless tasks.any fun entry => entry.1.number == running.number do
      let task ← (performCall s.settings running.call).toIO
      tasks := tasks ++ [(running, task)]
  return { live with tasks }

/-- Carries out what a host did, and lets the engine work off its orders. -/
def follow (s : Surroundings) (live : Live) (step : Host × List Act) : IO Live := do
  let live ← (carrier s).actAll { live with host := step.1 } step.2
  let (engine, notes) := live.engine.settle
  noteAll s notes
  startTasks s { live with engine }

/-! ### Completions -/

/-- A reply in place of one that a fault of the machine kept away. -/
def replyOr (call : Call) : Except IO.Error (Reply Failure) → Reply Failure
  | .ok reply => reply
  | .error e => .failed ⟨.network, toString e⟩ call.operation

/-- Hands the completions that wait to the host. -/
partial def receiveAll (s : Surroundings) (live : Live) : IO Live := do
  match live.engine.take? with
  | none => return live
  | some (c, engine) =>
    receiveAll s (← follow s { live with engine } (live.host.receive c))

/-- Collects the calls that have come back. -/
def collect (s : Surroundings) (live : Live) : IO Live := do
  let mut live := live
  for (running, task) in live.tasks do
    if ← IO.hasFinished task then
      let now := (live.engine.find? running.number).getD running
      let (engine, notes) := live.engine.finish now (replyOr running.call task.get)
      noteAll s notes
      let left := live.tasks.filter fun entry => entry.1.number != running.number
      live := { live with engine, tasks := left }
  receiveAll s live

/-! ### Lines -/

/-- Reads octets up to the end of a line, or to the end of the input. -/
partial def readOctets (stream : IO.FS.Stream) (held : ByteArray) : IO ByteArray := do
  let octet ← stream.read 1
  if octet.isEmpty ∨ octet.toList = [0x0A] then return held ++ octet
  else readOctets stream (held ++ octet)

/-- Reads a line while the session goes on. -/
def readAhead (stream : IO.FS.Stream) : IO (Task (Except IO.Error ByteArray)) :=
  IO.asTask (readOctets stream .empty) Task.Priority.dedicated

/-- Hands input to the host. The answer says whether the session goes on. -/
def takeInput (s : Surroundings) (live : Live) : List Terminal.Input → IO (Bool × Live)
  | [] => return (true, live)
  | .ended :: _ => return (false, live)
  | .line text :: rest => do
    let live ← collect s live
    let (goesOn, step) := live.host.readLine text
    let live ← follow s live step
    if goesOn then takeInput s live rest else return (false, live)

/-- Runs a session to its end. -/
partial def runSession (s : Surroundings) (stdin : IO.FS.Stream)
    (input : Task (Except IO.Error ByteArray)) (live : Live) (held : Bytes) : IO Live := do
  let live ← collect s live
  let timer ← IO.asTask (IO.sleep 50) Task.Priority.dedicated
  let _ ← IO.waitAny [input.map fun _ => (), timer.map fun _ => ()] (by simp)
  if ← IO.hasFinished input then
    let octets := match input.get with
      | .ok octets => octets.toList
      | .error _ => []
    let (inputs, held) :=
      if octets.isEmpty then (Terminal.finishInput held, []) else Terminal.arrive held octets
    let (goesOn, live) ← takeInput s live inputs
    if goesOn then
      runSession s stdin (← readAhead stdin) live held
    else return live
  else runSession s stdin input (← follow s live (live.host.dispatch .tick)) held

/-- A session from its opening to its closing. -/
def session (s : Surroundings) (l : Program.Launch) : IO Unit := do
  let stdin ← IO.getStdin
  let input ← readAhead stdin
  let host := Host.new l.variant
  let live ← follow s { host, label := l.session } (host.start l.session)
  let live ← runSession s stdin input live []
  let _ ← follow s live live.host.stop

end AnalysisPanel.Machine
