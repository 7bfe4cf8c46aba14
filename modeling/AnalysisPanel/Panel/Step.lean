import AnalysisPanel.Panel.Message
import AnalysisPanel.Text.Blank

/-! One step of a panel: from a state and a message to the next state, the effects asked for and
the notes for the log. A call is issued only through the gate, and a reply counts only under the
ticket in flight, so the transcript follows the order in which calls were issued. -/

namespace AnalysisPanel

/-- The name every saved report gets. -/
def reportFilename : String := "ai-analysis-report.doc"

/-- What a step comes to. -/
structure Outcome where
  panel : Panel
  effects : List Effect := []
  notes : List Note := []

/-- Goes on from an outcome. -/
def Outcome.andThen (o : Outcome) (f : Panel → Outcome) : Outcome :=
  let next := f o.panel
  ⟨next.panel, o.effects ++ next.effects, o.notes ++ next.notes⟩

namespace Panel

/-- Nothing happens. -/
def still (p : Panel) : Outcome := { panel := p }

/-- Only a note is made. -/
def noting (p : Panel) (note : Note) : Outcome := { panel := p, notes := [note] }

/-- The user's request is turned down. -/
def refuse (p : Panel) (failure : ValidationFailure) : Outcome :=
  { panel := p, effects := [.showValidation failure] }

/-! ### Opening and closing -/

def close (p : Panel) : Outcome :=
  if p.isOpen then
    { panel := p.closed
      effects := .closeSession p.generation :: if p.isBusy then [.busyChanged false] else [] }
  else p.still

/-- Opens a panel that is closed. A context that is held for the session is not loaded again. -/
def start (p : Panel) (session : SessionId) : Outcome :=
  let opened := p.openOn session
  if p.contextFor = some session then opened.still
  else
    { panel := opened.beginBootstrap
      effects := [.issue opened.nextTicket (.loadSession session)] }

def openFor (p : Panel) (session : SessionId) : Outcome :=
  if p.isOpen then
    if p.session = some session then p.still else p.close.andThen (·.start session)
  else p.start session

/-! ### Calls -/

/-- Takes the gate for a call and goes on with it, or notes that another call holds the gate. -/
def call (p : Panel) (stage : Stage) (go : Ticket → Panel → Outcome) : Outcome :=
  match p.beginCall? stage with
  | some started =>
    Outcome.andThen { panel := started, effects := [.busyChanged true] } (go p.nextTicket)
  | none => p.noting .callRefused

/-- Appends an entry and shows it. -/
def say (p : Panel) (e : Entry) : Outcome :=
  { panel := p.append e, effects := [.turnAppended e, .scrollToBottom] }

/-- Issues a call. -/
def issue (p : Panel) (ticket : Ticket) (request : Call) (note : Note) : Outcome :=
  { panel := p, effects := [.issue ticket request], notes := [note] }

/-- Lets the gate go and says so. -/
def release (p : Panel) : Outcome := { panel := p.finishCall, effects := [.busyChanged false] }

/-- A call came to nothing. -/
def fail (p : Panel) (operation : Operation) (failure : TransportFailure) : Outcome :=
  (p.noting (.callFailed operation failure)).andThen release

/-! ### What the user submits -/

/-- What becomes of a draft that is submitted. -/
inductive Submission where
  | ignored
  | busy
  | refused (failure : ValidationFailure)
  | accepted (prompt : String)

/-- Judges the draft. -/
def submission (p : Panel) : Submission :=
  if !p.isOpen then .ignored
  else if p.transcript.hasPending then .refused .selectionPending
  else if p.isBusy then .busy
  else
    let prompt := Text.trimmed p.draft
    if prompt = "" then .refused .emptyInput else .accepted prompt

/-- Goes on with the draft if it is accepted. -/
def submit (p : Panel) (go : String → Outcome) : Outcome :=
  match p.submission with
  | .ignored => p.still
  | .busy => p.noting .submissionIgnored
  | .refused failure => p.refuse failure
  | .accepted prompt => go prompt

/-- Takes the draft into the transcript and issues the call it leads to. -/
def ask (p : Panel) (prompt : String) (stage : Stage) (request : Call) (note : Nat → Note) :
    Outcome :=
  p.call stage fun ticket p =>
    (p.takeDraft.say (.user prompt)).andThen (·.issue ticket request (note ticket.seq))

/-- The question that a prompt puts to discovery, if the panel's variant can put it. -/
def discoverRequest? (p : Panel) (prompt : String) : Option DiscoverRequest :=
  match p.variant with
  | .metricDiscovery => some (.candidates prompt p.transcript.history)
  | .scopedAnalysis =>
    p.selectedChart?.map fun chart => .analysis prompt p.transcript.history chart.payload

def submitPrompt (p : Panel) : Outcome :=
  p.submit fun prompt =>
    match p.discoverRequest? prompt with
    | some request => p.ask prompt .discovering (.discover request) .discoveryIssued
    | none => p.refuse .noChartSelected

def submitTable (p : Panel) : Outcome :=
  p.submit fun prompt => p.ask prompt .synthesizing (.synthesize (.prompt prompt)) .tableIssued

def confirm (p : Panel) : Outcome :=
  if p.stage = .awaitingSelection then
    let labels := p.candidates.approvedLabels
    if labels.isEmpty then p.refuse .noCandidateApproved
    else
      p.call .synthesizing fun ticket p =>
        p.issue ticket (.synthesize (.selection labels)) (.synthesisIssued labels.length ticket.seq)
  else p.still

def requestReport (p : Panel) : Outcome :=
  if p.isOpen then
    match p.selectedChart? with
    | none => p.refuse .noChartSelected
    | some _ =>
      match p.session with
      | none => p.still
      | some session =>
        p.call .generatingReport fun ticket p =>
          let extra := p.transcript.history
          p.issue ticket (.generateReport session extra) (.reportIssued extra.length ticket.seq)
  else p.still

/-! ### The checklist, charts and links -/

def toggle (p : Panel) (index : Nat) (approved : Bool) : Outcome :=
  if p.stage = .awaitingSelection then
    let next := p.setCandidates (p.candidates.setAt index approved)
    if p.candidates.holds index then
      { panel := next, effects := [.candidatesChanged next.candidates.items] }
    else next.noting (.noCandidateAt index)
  else p.still

def toggleAll (p : Panel) (approved : Bool) : Outcome :=
  if p.stage = .awaitingSelection then
    let next := p.setCandidates (p.candidates.setAll approved)
    { panel := next, effects := [.candidatesChanged next.candidates.items] }
  else p.still

def selectChart (p : Panel) (id : ChartId) : Outcome :=
  if p.isOpen then
    match p.context.chart? id with
    | some _ => (p.select id).still
    | none => p.noting (.unknownChart id)
  else p.still

def activateLink (p : Panel) (index : Nat) : Outcome :=
  match (p.transcript.get? index).bind Entry.link? with
  | some url => { panel := p, effects := [.openLink url] }
  | none => p.still

/-! ### Replies -/

def completeSession (p : Panel) (result : Except TransportFailure SessionContext) : Outcome :=
  match result with
  | .ok ctx => (p.withContext ctx).noting (.contextLoaded ctx.charts.length)
  | .error failure => p.withoutContext.noting (.contextUnavailable failure)

def completeDiscovery (p : Panel) (result : Except TransportFailure Discovery) : Outcome :=
  match result with
  | .ok (.candidates labels) =>
    let cs := CandidateSet.ofLabels labels
    let next : Outcome :=
      { panel := p.setCandidates cs, effects := [.candidatesChanged cs.items] }
    let next := next.andThen fun p =>
      if cs.isEmpty then p.noting .nothingDiscovered else p.say .selectionPrompt
    next.andThen release
  | .ok (.analysis text) => (p.say (.answer text)).andThen release
  | .error failure => p.fail .discover failure

def completeSynthesis (p : Panel) (result : Except TransportFailure Json.Value) : Outcome :=
  match result with
  | .ok payload =>
    { panel := p.continueCall .delivering
      effects := [.issue p.nextTicket (.deliver payload)] }
  | .error failure => p.fail .synthesize failure

def completeDelivery (p : Panel) (result : Except TransportFailure String) : Outcome :=
  match result with
  | .ok link =>
    let settled : Outcome :=
      if p.transcript.hasPending then
        { panel := p.dropPending.setCandidates {}, effects := [.candidatesChanged []] }
      else p.still
    (settled.andThen (·.say (.result link))).andThen release
  | .error failure => p.fail .deliver failure

def completeReport (p : Panel) (result : Except TransportFailure Bytes) : Outcome :=
  match result with
  | .ok content =>
    Outcome.andThen
      { panel := p, effects := [.saveReport reportFilename content]
        notes := [.reportGenerated content.length] } release
  | .error failure => p.fail .generateReport failure

/-- Goes on with a reply to the call in flight; any other reply is stale. -/
def receive (p : Panel) (ticket : Ticket) (operation : Operation) (go : Outcome) : Outcome :=
  if p.accepts ticket then go else p.noting (.staleReply operation ticket)

def complete (p : Panel) (ticket : Ticket) : Reply TransportFailure → Outcome
  | .session result =>
    if p.acceptsBootstrap ticket then p.completeSession result
    else p.noting (.staleContext ticket)
  | .discovery result => p.receive ticket .discover (p.completeDiscovery result)
  | .synthesis result => p.receive ticket .synthesize (p.completeSynthesis result)
  | .delivery result => p.receive ticket .deliver (p.completeDelivery result)
  | .report result => p.receive ticket .generateReport (p.completeReport result)

/-- One step. -/
def step (p : Panel) : Message → Outcome
  | .opened session => p.openFor session
  | .closed => p.close
  | .draftChanged text => if p.isOpen then (p.setDraft text).still else p.still
  | .promptSubmitted => p.submitPrompt
  | .tableSubmitted => p.submitTable
  | .candidateToggled index approved => p.toggle index approved
  | .allToggled approved => p.toggleAll approved
  | .selectionConfirmed => p.confirm
  | .chartSelected id => p.selectChart id
  | .reportRequested => p.requestReport
  | .linkActivated index => p.activateLink index
  | .completed ticket reply => p.complete ticket reply
  | .tick => p.still
  | .noOp => p.still

end Panel

end AnalysisPanel
