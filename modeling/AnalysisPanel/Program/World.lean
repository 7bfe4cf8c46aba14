import AnalysisPanel.Program.Carrier
import AnalysisPanel.Terminal.Input

/-! A host in its world: the engine that performs its calls, the disk that keeps its reports, and
what has been printed and logged. -/

namespace AnalysisPanel

/-- The world of a host. Lines of the log and of the terminal are kept oldest first. The saves to
come take what is drawn for their temporary files in turn. -/
structure World where
  host : Host
  label : String := Log.noSession
  engine : Service.Engine := {}
  disk : Storage.Disk := {}
  draws : Nat → Storage.Draws := fun _ => {}
  downloads : String := "downloads"
  printed : List String := []
  logs : List Log.Line := []
  engineLogs : List Log.Line := []
  held : Bytes := []
  ended : Bool := false

namespace World

/-! ### Acts -/

/-- Saves an artifact. -/
def save (w : World) (filename : String) (content : Bytes) :
    Except Storage.SaveError String × World :=
  let (result, disk) := (Storage.save w.downloads filename content (w.draws 0)).run w.disk
  (result, { w with disk, draws := fun k => w.draws (k + 1) })

/-- Acts are carried out in a world by computing the next one. -/
def carrier : Carrier Id World where
  print w text := { w with printed := w.printed ++ [text] }
  log w level message := { w with logs := w.logs ++ [.of w.label level message] }
  order w o := { w with engine := w.engine.submit o }
  save := save

/-- Carries out an act. -/
def act (w : World) (a : Act) : World := (carrier.act w a).run

/-- Carries out what a host did. -/
def follow (w : World) (step : Host × List Act) : World :=
  (carrier.actAll { w with host := step.1 } step.2).run

/-! ### Steps -/

/-- The panel is opened for a session, which labels the log from now on. -/
def start (w : World) (session : SessionId) : World :=
  { w with label := session }.follow (w.host.start session)

/-- The panel is closed. -/
def stop (w : World) : World :=
  { w.follow w.host.stop with ended := true, label := Log.noSession }

/-- A line of input. -/
def readLine (w : World) (line : String) : World :=
  let (goesOn, step) := w.host.readLine line
  let w := w.follow step
  if goesOn then w else w.stop

/-- Input; after the end of the session none counts. -/
def read (w : World) (input : Terminal.Input) : World :=
  if w.ended then w
  else
    match input with
    | .line text => w.readLine text
    | .ended => w.stop

/-- Octets arrive on the terminal. -/
def arrive (w : World) (bytes : Bytes) : World :=
  let (inputs, held) := Terminal.arrive w.held bytes
  inputs.foldl read { w with held }

/-- The input has come to its end. -/
def finishInput (w : World) : World := (Terminal.finishInput w.held).foldl read w

/-- The engine works off its orders. -/
def settle (w : World) : World :=
  let (engine, notes) := w.engine.settle
  { w with engine, engineLogs := w.engineLogs ++ notes.map (·.line) }

/-- A call comes back to the engine. -/
def finish (w : World) (r : Service.Running) (reply : Reply Service.Failure) : World :=
  let (engine, notes) := w.engine.finish r reply
  { w with engine, engineLogs := w.engineLogs ++ notes.map (·.line) }

/-- The host takes the next completion, if there is one. -/
def receive (w : World) : World :=
  match w.engine.take? with
  | some (c, engine) => { w with engine }.follow (w.host.receive c)
  | none => w

/-- The host takes every completion. -/
def receiveAll (w : World) : World := w.engine.completions.foldl (fun w _ => w.receive) w

end World

end AnalysisPanel
