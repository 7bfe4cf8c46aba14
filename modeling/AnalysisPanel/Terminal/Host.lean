import AnalysisPanel.Panel.Step
import AnalysisPanel.Service.Engine
import AnalysisPanel.Storage.Artifact
import AnalysisPanel.Terminal.Command
import AnalysisPanel.Terminal.Rendering

/-! The terminal host of a panel. Lines and completions become messages; what the panel asks for
becomes acts, in the order in which it is asked for. The panel is printed anew when the load of its
context has come to an end. -/

namespace AnalysisPanel

/-- What a host does to the world around it. -/
inductive Act where
  | print (text : String)
  | log (level : Log.Level) (message : String)
  | order (o : Service.Order)
  | save (filename : String) (content : Bytes)

/-- A host: its panel, and whether the panel was loading its context when it was last painted. -/
structure Host where
  panel : Panel
  wasLoading : Bool := false

namespace Host

open Log Rendering

/-- A host of a new panel. -/
def new (variant : Variant) : Host := { panel := .new variant }

/-! ### Effects -/

/-- What is logged when a call is issued. -/
def issueLog (t : Ticket) : Call → Option String
  | .loadSession _ => none
  | .discover _ => some ("discover seq=" ++ toString t.seq ++ " gen=" ++ toString t.generation)
  | .synthesize _ => some ("synthesize seq=" ++ toString t.seq ++ " gen=" ++ toString t.generation)
  | .deliver _ => some ("deliver seq=" ++ toString t.seq ++ " gen=" ++ toString t.generation)
  | .generateReport session extra =>
    some ("report for session " ++ session ++ " (" ++ toString extra.length ++ " turns)")

/-- The acts of an effect; `position` counts the entries from one. -/
def effectActs (position : Nat) : Effect → List Act
  | .issue t call => ((issueLog t call).map (.log .info)).toList ++ [.order (.call t call)]
  | .saveReport filename content => [.save filename content]
  | .openLink url => [.print ("open in your browser: " ++ url)]
  | .closeSession generation => [.order (.close generation)]
  | .turnAppended e => [.print (entryLine position e)]
  | .candidatesChanged items => if items.isEmpty then [] else (candidateLines items).map .print
  | .busyChanged _ => []
  | .showValidation failure => [.print ("! " ++ failure.message)]
  | .scrollToBottom => []

/-- Whether an effect appends an entry. -/
def appends : Effect → Bool
  | .turnAppended _ => true
  | _ => false

/-- The acts of effects when `shown` entries are there already. -/
def actsFrom (shown : Nat) : List Effect → List Act
  | [] => []
  | effect :: rest =>
    let shown := if appends effect then shown + 1 else shown
    effectActs shown effect ++ actsFrom shown rest

/-- Whether effects leave the panel busy. -/
def leaveBusy (effects : List Effect) : Bool :=
  effects.foldl (fun busy effect =>
    match effect with
    | .busyChanged b => b
    | _ => busy) false

/-- The acts of all effects of a step, with the status of the panel below them. -/
def batch (p : Panel) (effects : List Effect) : List Act :=
  actsFrom (p.transcript.size - effects.countP appends) effects ++
    if leaveBusy effects then ((statusLine p.stage).map .print).toList else []

/-- What is done once an artifact was saved or not. -/
def savedActs (filename : String) (content : Bytes) :
    Except Storage.SaveError String → List Act
  | .ok path =>
    [.log .info
        ("saved " ++ toString content.length ++ " bytes to " ++ Text.quotedPath path),
      .print ("report saved to " ++ path)]
  | .error e =>
    [.log .warn ("failed to save " ++ filename ++ ": " ++ e.message),
      .print ("! could not save the report: " ++ e.message)]

/-! ### Messages and lines -/

/-- Prints the whole panel. -/
def presentActs (p : Panel) : List Act := (panelLines p.view).map .print

/-- Repaints if the panel asks for it. -/
def repaint (h : Host) : Host × List Act :=
  let (dirty, panel) := h.panel.consumeDirty
  if dirty then
    let loading := panel.view.loadingContext
    ({ panel, wasLoading := loading },
      if h.wasLoading && !loading then
        .log .debug "session context settled" :: presentActs panel
      else [])
  else ({ h with panel }, [])

/-- Hands a message to the panel. -/
def dispatch (h : Host) (m : Message) : Host × List Act :=
  let o := h.panel.step m
  let (next, acts) := { h with panel := o.panel }.repaint
  (next, o.notes.map (fun note => .log note.level note.message) ++ batch o.panel o.effects ++ acts)

/-- Hands messages to the panel, one after the other. -/
def dispatchAll (h : Host) : List Message → Host × List Act
  | [] => (h, [])
  | m :: rest =>
    let (h, acts) := h.dispatch m
    let (h, more) := h.dispatchAll rest
    (h, acts ++ more)

/-- Carries out a command that does not end the session. -/
def carryOut (h : Host) : Command → Host × List Act
  | .quit => (h, [])
  | .help => (h, [.print Command.helpText])
  | .present => (h, presentActs h.panel)
  | .sample index =>
    let (h, acts) := h.dispatchAll ((Command.sample index).messages none)
    (h, acts ++ [.print ("draft: " ++ h.panel.draft ++ " (/send to ask)")])
  | command => h.dispatchAll (command.messages (latestLink h.panel.view))

/-- Takes a line of input. The answer says whether the session goes on. -/
def readLine (h : Host) (line : String) : Bool × Host × List Act :=
  match Command.parse line with
  | .error e => (true, h, [.print ("! " ++ e.message)])
  | .ok none => (true, h, [])
  | .ok (some .quit) => (false, h, [])
  | .ok (some command) => (true, h.carryOut command)

/-- The panel is opened for a session. -/
def start (h : Host) (session : SessionId) : Host × List Act :=
  let (h, acts) := h.dispatch (.opened session)
  (h, .log .info "panel opened" :: acts ++ [.print Command.helpText])

/-- The panel is closed. -/
def stop (h : Host) : Host × List Act :=
  let (h, acts) := h.dispatch .closed
  (h, acts ++ [.log .info "panel closed"])

/-- A call has come back. -/
def receive (h : Host) (c : Service.Completion) : Host × List Act :=
  h.dispatch (.completed c.ticket (c.reply.mapError fun failure => ⟨failure.text⟩))

end Host

end AnalysisPanel
