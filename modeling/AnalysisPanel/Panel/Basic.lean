import AnalysisPanel.Conversation.Call
import AnalysisPanel.Conversation.Candidates
import AnalysisPanel.Conversation.Gate

/-! The state of a panel, and the small moves its steps are made of. Each move that changes the
state asks for a repaint. -/

namespace AnalysisPanel

/-- Which discovery a panel runs: metrics to choose from, or an answer about one chart. -/
inductive Variant where
  | metricDiscovery
  | scopedAnalysis
  deriving DecidableEq, Inhabited

/-- What a panel waits for. -/
inductive Stage where
  | idle
  | discovering
  | awaitingSelection
  | synthesizing
  | delivering
  | generatingReport
  deriving DecidableEq, Inhabited

/-- The state of a panel. `inFlight` is the ticket of the call that holds the gate, `bootstrap`
that of the session load under way, and `contextFor` the session whose context is held.
`generation` and `nextSeq` stand for counters of 64 bits, which no run uses up: neither is ever
greater than the number of messages so far. -/
structure Panel where
  variant : Variant := .metricDiscovery
  isOpen : Bool := false
  session : Option SessionId := none
  context : SessionContext := {}
  contextFor : Option SessionId := none
  selected : Option ChartId := none
  draft : String := ""
  transcript : Transcript := {}
  candidates : CandidateSet := {}
  gate : Gate := {}
  stage : Stage := .idle
  generation : Nat := 0
  nextSeq : Nat := 0
  inFlight : Option Ticket := none
  bootstrap : Option Ticket := none
  dirty : Bool := false
  deriving Inhabited

namespace Panel

/-- A new panel. -/
def new (variant : Variant) : Panel := { variant }

/-- The chart selected, looked up in the context. -/
def selectedChart? (p : Panel) : Option Chart := p.selected.bind p.context.chart?

def isBusy (p : Panel) : Bool := p.gate.busy

/-- Whether a repaint was asked for, and the state once that is known. -/
def consumeDirty (p : Panel) : Bool × Panel := (p.dirty, { p with dirty := false })

/-- The ticket of the next call. -/
def nextTicket (p : Panel) : Ticket := ⟨p.generation, p.nextSeq⟩

/-- Opens the panel on a session. -/
def openOn (p : Panel) (session : SessionId) : Panel :=
  { p with isOpen := true, session := some session, dirty := true }

/-- Closes the panel: the conversation goes, its tickets become invalid, and the context stays for
when the same session is opened again. -/
def closed (p : Panel) : Panel :=
  { p with
    isOpen := false, selected := none, draft := "", transcript := {}, candidates := {},
    gate := p.gate.exit, stage := .idle, inFlight := none, bootstrap := none,
    generation := p.generation + 1, dirty := true }

/-- Forgets the context and starts to load another. -/
def beginBootstrap (p : Panel) : Panel :=
  { p with
    context := {}, bootstrap := some p.nextTicket, nextSeq := p.nextSeq + 1, dirty := true }

/-- Whether a loaded context is the one being waited for. -/
def acceptsBootstrap (p : Panel) (t : Ticket) : Bool := p.isOpen && p.bootstrap == some t

/-- Takes over a loaded context. -/
def withContext (p : Panel) (ctx : SessionContext) : Panel :=
  { p with bootstrap := none, context := ctx, contextFor := p.session, dirty := true }

/-- Goes on without a context. -/
def withoutContext (p : Panel) : Panel :=
  { p with bootstrap := none, context := {}, contextFor := none, dirty := true }

/-- Selects a chart. -/
def select (p : Panel) (id : ChartId) : Panel := { p with selected := some id, dirty := true }

/-- Sets the draft, if that changes it. -/
def setDraft (p : Panel) (text : String) : Panel :=
  if p.draft = text then p else { p with draft := text, dirty := true }

/-- Empties the draft. -/
def takeDraft (p : Panel) : Panel := { p with draft := "", dirty := true }

/-- Appends an entry to the transcript. -/
def append (p : Panel) (e : Entry) : Panel :=
  { p with transcript := p.transcript.append e, dirty := true }

/-- Removes the selection prompts. -/
def dropPending (p : Panel) : Panel :=
  { p with transcript := p.transcript.dropPending, dirty := true }

/-- Sets the checklist. -/
def setCandidates (p : Panel) (cs : CandidateSet) : Panel :=
  { p with candidates := cs, dirty := true }

/-- Gives the gate, which is held already, to a call of its own ticket. -/
def continueCall (p : Panel) (stage : Stage) : Panel :=
  { p with
    inFlight := some p.nextTicket, nextSeq := p.nextSeq + 1, stage, dirty := true }

/-- Takes the gate for a new call, or nothing when another call holds it. -/
def beginCall? (p : Panel) (stage : Stage) : Option Panel :=
  match p.gate.enter? with
  | some gate => some ({ p with gate }.continueCall stage)
  | none => none

/-- Whether a reply is to the call that holds the gate. -/
def accepts (p : Panel) (t : Ticket) : Bool := p.isOpen && p.inFlight == some t

/-- Lets the gate go. A checklist that is still open keeps the panel waiting for it. -/
def finishCall (p : Panel) : Panel :=
  { p with
    gate := p.gate.exit, inFlight := none,
    stage := if p.transcript.hasPending then .awaitingSelection else .idle, dirty := true }

end Panel

end AnalysisPanel
