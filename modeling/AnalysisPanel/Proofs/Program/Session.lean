import AnalysisPanel.Program.Startup
import AnalysisPanel.Service.Exchange
import AnalysisPanel.Proofs.Program.Semantics

/-! Sessions of the program from its command line on. What happens in a session is what comes from
outside: input, time, and answers of the services; and the moves of the engine in between. A session
keeps the requests that left, the answers that came, and all that the panel was told. -/

namespace AnalysisPanel

open Service

/-! ## What happens in a world -/

/-- What may happen: a line is typed, time passes, the engine takes its next order, an answer comes
to the request of a call, and the host receives a completion. -/
inductive Happening where
  | read (input : Terminal.Input)
  | ticked
  | ordered
  | answered (number : Nat) (answer : Answer)
  | received

/-- A request that left, with the call it carries. -/
structure Posted where
  ticket : Ticket
  call : Call
  request : Request

/-- An answer that came to a call. -/
structure Answered where
  ticket : Ticket
  call : Call
  answer : Answer

/-- What input has the host tell its panel. -/
def Host.inputMessages (h : Host) : Terminal.Input → List Message
  | .line text => h.lineMessages text ++ if (h.readLine text).1 then [] else [.closed]
  | .ended => [.closed]

namespace World

/-- The engine takes its next order, if there is one. -/
def takeOrder (w : World) : World :=
  match w.engine.next? with
  | some (engine, notes) =>
    { w with engine, engineLogs := w.engineLogs ++ notes.map (·.line) }
  | none => w

/-- The world after something happened. After the end of its session only the engine goes on. -/
def after (settings : Settings) (w : World) : Happening → World
  | .read input => w.read input
  | .ticked => if w.ended then w else w.follow (w.host.dispatch .tick)
  | .ordered => w.takeOrder
  | .answered number answer =>
    match w.engine.find? number with
    | some r => w.finish r (perform settings (fun _ => answer) r.call)
    | none => w
  | .received => if w.ended then w else w.receive

/-- What the panel is told when something happens. -/
def heard (w : World) : Happening → List Message
  | .read input => if w.ended then [] else w.host.inputMessages input
  | .ticked => if w.ended then [] else [.tick]
  | .ordered => []
  | .answered _ _ => []
  | .received =>
    if w.ended then [] else (w.engine.take?.map fun taken => taken.1.message).toList

/-- The request that leaves when something happens: a call that starts sends its request. -/
def posted (settings : Settings) (w : World) : Happening → List Posted
  | .ordered =>
    match w.engine.orders with
    | .call t call :: _ => ((sent settings call).map (Posted.mk t call)).toList
    | _ => []
  | _ => []

/-- The answer that comes to a call when something happens. -/
def answered (w : World) : Happening → List Answered
  | .answered number answer =>
    ((w.engine.find? number).map fun r => ⟨r.ticket, r.call, answer⟩).toList
  | _ => []

end World

/-! ## Sessions -/

/-- A panel is told messages in turn and is painted after each; they go on top of a history. -/
def Panel.hear : Panel.History × Panel → List Message → Panel.History × Panel
  | told, [] => told
  | (h, p), m :: rest =>
    hear (⟨p, m, (p.step m).effects⟩ :: h, (p.step m).panel.consumeDirty.2) rest

/-- A session so far: its world, what its panel was told, newest first, and the requests that left
and the answers that came, oldest first. -/
structure Session where
  world : World
  history : Panel.History := []
  posted : List Posted := []
  answered : List Answered := []

namespace Session

/-- A session whose panel has just been opened. -/
def start (l : Program.Launch) (disk : Storage.Disk) (draws : Nat → Storage.Draws) : Session :=
  let w : World :=
    { host := .new l.variant, disk, draws, downloads := l.downloads
      logs := l.startLogs ++ l.settingsLogs }
  { world := w.start l.session
    history := (Panel.hear ([], w.host.panel) [.opened l.session]).1 }

/-- Something happens. -/
def step (settings : Settings) (s : Session) (x : Happening) : Session where
  world := s.world.after settings x
  history := (Panel.hear (s.history, s.world.host.panel) (s.world.heard x)).1
  posted := s.posted ++ s.world.posted settings x
  answered := s.answered ++ s.world.answered x

/-- The session after everything that happened. -/
def run (settings : Settings) (s : Session) (happenings : List Happening) : Session :=
  happenings.foldl (step settings) s

/-- What holds at the start of a session and is kept by everything that may happen holds ever
after. -/
theorem run_invariant {settings : Settings} {motive : Session → Prop} {s : Session}
    (start : motive s) (step : ∀ s x, motive s → motive (s.step settings x))
    (happenings : List Happening) : motive (s.run settings happenings) := by
  induction happenings generalizing s with
  | nil => exact start
  | cons x rest ih => exact ih (step s x start)

end Session

/-! ## The program -/

/-- What becomes of the program: it ends before any session, with its log and disk as they then are,
or it is in a session, whose log goes to `destination` from the level `least` on. -/
inductive Program.Course where
  | ended (ending : Program.Ending) (logs : List Log.Line) (disk : Storage.Disk)
  | began (destination : Config.LogDestination) (least : Log.Level) (session : Session)

/-- The requests that left. -/
def Program.Course.posted : Program.Course → List Posted
  | .ended _ _ _ => []
  | .began _ _ session => session.posted

/-- Runs the program on a command line, in an environment and on a disk, through what happens in its
session. What is drawn for temporary files serves the opening of the download directory first, and
then one save after the other. -/
def Program.run (argv : List String) (env : Configuration.Environment) (disk : Storage.Disk)
    (draws : Nat → Storage.Draws) (happenings : List Happening) : Program.Course :=
  match Program.prepare argv (fun path => Program.fileOf (disk.look path)) env with
  | .error ending => .ended ending [] disk
  | .ok l =>
    match (l.openDownloads (draws 0).probe).run disk with
    | (.error ending, disk) => .ended ending l.startLogs disk
    | (.ok _, disk) =>
      .began l.destination l.least
        ((Session.start l disk fun k => draws (k + 1)).run l.settings happenings)

/-! ## Sessions as runs of a panel and an engine -/

namespace World

theorem system_takeOrder (w : World) :
    w.takeOrder.system =
      ⟨w.host.panel, (w.engine.next?.map (·.1)).getD w.engine⟩ := by
  unfold takeOrder
  cases w.engine.next? with
  | none => rfl
  | some next => rfl

theorem readLine_eq (w : World) (line : String) :
    w.readLine line =
      if (w.host.readLine line).1 then w.follow (w.host.readLine line).2
      else (w.follow (w.host.readLine line).2).stop :=
  rfl

theorem system_stop (w : World) : w.stop.system = w.system.tell .closed :=
  w.system_follow w.host.hears_stop

theorem system_readLine (w : World) (line : String) :
    (w.readLine line).system =
      (w.host.inputMessages (.line line)).foldl System.tell w.system := by
  have heard := w.system_follow (w.host.hears_readLine line)
  rw [readLine_eq, Host.inputMessages, List.foldl_append, ← heard]
  split
  · rfl
  · exact system_stop _

theorem system_read (w : World) (input : Terminal.Input) :
    (w.read input).system = (w.heard (.read input)).foldl System.tell w.system := by
  unfold read heard
  split
  · rfl
  · cases input with
    | line text => exact w.system_readLine text
    | ended => exact w.system_stop

theorem system_receive (w : World) :
    w.receive.system =
      (w.engine.take?.map fun taken => taken.1.message).toList.foldl System.tell
        ⟨w.host.panel, (w.engine.take?.map (·.2)).getD w.engine⟩ := by
  unfold receive
  cases w.engine.take? with
  | none => rfl
  | some taken => exact system_follow { w with engine := taken.2 } (w.host.hears_receive taken.1)

end World

end AnalysisPanel
