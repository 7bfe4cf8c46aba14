import AnalysisPanel.Panel.Step

/-! Local rules for the steps of a panel. Each rule names the guard under which it applies, the
panel it leads to and the effects it asks for; together they say everything a step can do. -/

namespace AnalysisPanel.Panel

/-! ## Panels between the parts of a step -/

/-- The panel once the gate is taken for a call of its next ticket. -/
def started (p : Panel) (stage : Stage) : Panel := { p with gate := ⟨true⟩ }.continueCall stage

/-- The panel once a question is put. -/
def asked (p : Panel) (prompt : String) (stage : Stage) : Panel :=
  (p.started stage).takeDraft.append (.user prompt)

/-- The panel once a checklist is up. -/
def offering (p : Panel) (labels : List String) : Panel :=
  (p.setCandidates (.ofLabels labels)).append .selectionPrompt

/-- The panel without its checklist. -/
def settled (p : Panel) : Panel := p.dropPending.setCandidates {}

/-- What is asked for when a panel that is open closes. -/
def closing (p : Panel) : List Effect :=
  .closeSession p.generation :: if p.isBusy then [.busyChanged false] else []

/-- What is asked for when an entry is appended. -/
def showing (e : Entry) : List Effect := [.turnAppended e, .scrollToBottom]

/-- A draft changes nothing else, even when it asks for no repaint. -/
theorem setDraft_eq (p : Panel) (text : String) :
    ∃ dirty, p.setDraft text = { p with draft := text, dirty } := by
  by_cases same : p.draft = text
  · refine ⟨p.dirty, ?_⟩
    rw [setDraft, if_pos same, ← same]
  · exact ⟨true, if_neg same⟩

/-! ## Guards of the rules that change nothing -/

/-- A message that is passed over: nothing changes and nothing is asked for. -/
def Ignores (p : Panel) : Message → Prop
  | .opened session => p.isOpen = true ∧ p.session = some session
  | .closed | .draftChanged _ => p.isOpen = false
  | .promptSubmitted | .tableSubmitted => p.submission = .ignored ∨ p.submission = .busy
  | .candidateToggled _ _ | .allToggled _ => p.stage ≠ .awaitingSelection
  | .selectionConfirmed =>
    p.stage ≠ .awaitingSelection ∨ p.candidates.approvedLabels ≠ [] ∧ p.isBusy = true
  | .chartSelected id => p.isOpen = false ∨ p.context.chart? id = none
  | .reportRequested =>
    p.isOpen = false ∨ p.selectedChart? ≠ none ∧ (p.session = none ∨ p.isBusy = true)
  | .linkActivated index => (p.transcript.get? index).bind Entry.link? = none
  | .completed t (.session _) => p.acceptsBootstrap t = false
  | .completed t _ => p.accepts t = false
  | .tick | .noOp => True

/-- A request that is turned down: nothing changes and the user reads why. -/
def Refuses (p : Panel) (failure : ValidationFailure) : Message → Prop
  | .promptSubmitted =>
    p.submission = .refused failure ∨
      failure = .noChartSelected ∧
        ∃ prompt, p.submission = .accepted prompt ∧ p.discoverRequest? prompt = none
  | .tableSubmitted => p.submission = .refused failure
  | .selectionConfirmed =>
    failure = .noCandidateApproved ∧ p.stage = .awaitingSelection ∧
      p.candidates.approvedLabels = []
  | .reportRequested =>
    failure = .noChartSelected ∧ p.isOpen = true ∧ p.selectedChart? = none
  | _ => False

/-! ## The rules -/

/-- How a panel that is closed opens on a session. -/
inductive Opening (p : Panel) (session : SessionId) : Panel → List Effect → Prop where
  | held : p.contextFor = some session → Opening p session (p.openOn session) []
  | loading : p.contextFor ≠ some session →
      Opening p session (p.openOn session).beginBootstrap
        [.issue p.nextTicket (.loadSession session)]

/-- What a reply to the call in flight leads to. -/
inductive Completing (p : Panel) : Reply TransportFailure → Panel → List Effect → Prop where
  | failed (operation : Operation) (failure : TransportFailure) :
      operation ≠ .loadSession →
      Completing p (.failed failure operation) p.finishCall [.busyChanged false]
  | offered (labels : List String) : labels ≠ [] →
      Completing p (.discovery (.ok (.candidates labels))) (p.offering labels).finishCall
        (.candidatesChanged (CandidateSet.ofLabels labels).items ::
          showing .selectionPrompt ++ [.busyChanged false])
  | nothingFound :
      Completing p (.discovery (.ok (.candidates []))) (p.setCandidates {}).finishCall
        [.candidatesChanged [], .busyChanged false]
  | answered (text : String) :
      Completing p (.discovery (.ok (.analysis text))) (p.append (.answer text)).finishCall
        (showing (.answer text) ++ [.busyChanged false])
  | synthesized (payload : Json.Value) :
      Completing p (.synthesis (.ok payload)) (p.continueCall .delivering)
        [.issue p.nextTicket (.deliver payload)]
  | deliveredSelection (link : String) : p.transcript.hasPending = true →
      Completing p (.delivery (.ok link)) (p.settled.append (.result link)).finishCall
        (.candidatesChanged [] :: showing (.result link) ++ [.busyChanged false])
  | deliveredTable (link : String) : p.transcript.hasPending = false →
      Completing p (.delivery (.ok link)) (p.append (.result link)).finishCall
        (showing (.result link) ++ [.busyChanged false])
  | reported (content : Bytes) :
      Completing p (.report (.ok content)) p.finishCall
        [.saveReport reportFilename content, .busyChanged false]

/-- One step of a panel. -/
inductive Rule (p : Panel) : Message → Panel → List Effect → Prop where
  | ignored (m : Message) : p.Ignores m → Rule p m p []
  | refused (m : Message) (failure : ValidationFailure) : p.Refuses failure m →
      Rule p m p [.showValidation failure]
  | linkOpened (index : Nat) (url : String) :
      (p.transcript.get? index).bind Entry.link? = some url →
      Rule p (.linkActivated index) p [.openLink url]
  | opened (session : SessionId) {q es} : p.isOpen = false → Opening p session q es →
      Rule p (.opened session) q es
  | switched (session : SessionId) {q es} : p.isOpen = true → p.session ≠ some session →
      Opening p.closed session q es → Rule p (.opened session) q (p.closing ++ es)
  | closed : p.isOpen = true → Rule p .closed p.closed p.closing
  | drafted (text : String) : p.isOpen = true → Rule p (.draftChanged text) (p.setDraft text) []
  | toggled (index : Nat) (approved : Bool) :
      p.stage = .awaitingSelection → p.candidates.holds index = true →
      Rule p (.candidateToggled index approved)
        (p.setCandidates (p.candidates.setAt index approved))
        [.candidatesChanged (p.candidates.setAt index approved).items]
  | missed (index : Nat) (approved : Bool) :
      p.stage = .awaitingSelection → p.candidates.holds index = false →
      Rule p (.candidateToggled index approved)
        (p.setCandidates (p.candidates.setAt index approved)) []
  | toggledAll (approved : Bool) : p.stage = .awaitingSelection →
      Rule p (.allToggled approved) (p.setCandidates (p.candidates.setAll approved))
        [.candidatesChanged (p.candidates.setAll approved).items]
  | selected (id : ChartId) (chart : Chart) : p.isOpen = true → p.context.chart? id = some chart →
      Rule p (.chartSelected id) (p.select id) []
  | prompted (prompt : String) (request : DiscoverRequest) : p.submission = .accepted prompt →
      p.discoverRequest? prompt = some request →
      Rule p .promptSubmitted (p.asked prompt .discovering)
        (.busyChanged true :: showing (.user prompt) ++
          [.issue p.nextTicket (.discover request)])
  | tabled (prompt : String) : p.submission = .accepted prompt →
      Rule p .tableSubmitted (p.asked prompt .synthesizing)
        (.busyChanged true :: showing (.user prompt) ++
          [.issue p.nextTicket (.synthesize (.prompt prompt))])
  | confirmed : p.stage = .awaitingSelection → p.candidates.approvedLabels ≠ [] →
      p.isBusy = false →
      Rule p .selectionConfirmed (p.started .synthesizing)
        [.busyChanged true,
          .issue p.nextTicket (.synthesize (.selection p.candidates.approvedLabels))]
  | reportBegun (session : SessionId) (chart : Chart) : p.isOpen = true →
      p.selectedChart? = some chart → p.session = some session → p.isBusy = false →
      Rule p .reportRequested (p.started .generatingReport)
        [.busyChanged true, .issue p.nextTicket (.generateReport session p.transcript.history)]
  | contextLoaded (t : Ticket) (ctx : SessionContext) : p.acceptsBootstrap t = true →
      Rule p (.completed t (.session (.ok ctx))) (p.withContext ctx) []
  | contextLost (t : Ticket) (failure : TransportFailure) : p.acceptsBootstrap t = true →
      Rule p (.completed t (.session (.error failure))) p.withoutContext []
  | completed (t : Ticket) {reply q es} : p.accepts t = true → Completing p reply q es →
      Rule p (.completed t reply) q es

/-! ## Every step follows a rule -/

/-- The rules allow an outcome. -/
def Allows (p : Panel) (m : Message) (o : Outcome) : Prop := Rule p m o.panel o.effects

theorem call_of_free {p : Panel} (h : p.isBusy = false) (stage : Stage)
    (go : Ticket → Panel → Outcome) :
    p.call stage go =
      Outcome.andThen { panel := p.started stage, effects := [.busyChanged true] }
        (go p.nextTicket) := by
  have hgate : p.gate.enter? = some ⟨true⟩ := by
    simp only [Gate.enter?]
    rw [show p.gate.busy = false from h]
    rfl
  simp only [call, beginCall?, hgate, started]

theorem call_of_busy {p : Panel} (h : p.isBusy = true) (stage : Stage)
    (go : Ticket → Panel → Outcome) : p.call stage go = p.noting .callRefused := by
  have hgate : p.gate.enter? = none := by
    simp only [Gate.enter?]
    rw [show p.gate.busy = true from h]
    rfl
  simp only [call, beginCall?, hgate]

/-- Only an open panel with a free gate and no checklist accepts a draft. -/
theorem submission_eq_accepted {p : Panel} {prompt : String}
    (h : p.submission = .accepted prompt) :
    p.isOpen = true ∧ p.transcript.hasPending = false ∧ p.isBusy = false ∧
      prompt = Text.trimmed p.draft ∧ prompt ≠ "" := by
  unfold submission at h
  split at h
  · cases h
  · split at h
    · cases h
    · split at h
      · cases h
      · dsimp only at h
        split at h
        · cases h
        · cases h
          simp_all

theorem openFor_allowed (p : Panel) (session : SessionId) :
    p.Allows (.opened session) (p.openFor session) := by
  have opening (c : Panel) : Opening c session (c.start session).panel (c.start session).effects := by
    by_cases held : c.contextFor = some session
    · rw [show c.start session = (c.openOn session).still from if_pos held]
      exact .held held
    · rw [start, if_neg held]
      exact .loading held
  unfold openFor
  by_cases isOpen : p.isOpen = true
  · rw [if_pos isOpen]
    by_cases same : p.session = some session
    · rw [if_pos same]
      exact .ignored _ ⟨isOpen, same⟩
    · rw [if_neg same, close, if_pos isOpen]
      exact .switched session isOpen same (opening p.closed)
  · rw [if_neg isOpen]
    exact .opened session (by simpa using isOpen) (opening p)

theorem close_allowed (p : Panel) : p.Allows .closed p.close := by
  unfold close
  by_cases isOpen : p.isOpen = true
  · rw [if_pos isOpen]
    exact .closed isOpen
  · rw [if_neg isOpen]
    exact .ignored _ (Bool.eq_false_iff.mpr isOpen)

theorem ask_of_accepted {p : Panel} {prompt : String} (h : p.submission = .accepted prompt)
    (stage : Stage) (request : Call) (note : Nat → Note) :
    (p.ask prompt stage request note).panel = p.asked prompt stage ∧
      (p.ask prompt stage request note).effects =
        .busyChanged true :: showing (.user prompt) ++ [.issue p.nextTicket request] := by
  unfold ask
  rw [call_of_free (submission_eq_accepted h).2.2.1]
  exact ⟨rfl, rfl⟩

theorem submitPrompt_allowed (p : Panel) : p.Allows .promptSubmitted p.submitPrompt := by
  unfold submitPrompt submit
  cases h : p.submission with
  | ignored => exact .ignored _ (.inl h)
  | busy => exact .ignored _ (.inr h)
  | refused failure => exact .refused _ _ (.inl h)
  | accepted prompt =>
    dsimp only
    cases hr : p.discoverRequest? prompt with
    | none => exact .refused _ _ (.inr ⟨rfl, prompt, h, hr⟩)
    | some request =>
      obtain ⟨hp, he⟩ := ask_of_accepted h .discovering (.discover request) .discoveryIssued
      unfold Allows
      dsimp only
      rw [hp, he]
      exact .prompted prompt request h hr

theorem submitTable_allowed (p : Panel) : p.Allows .tableSubmitted p.submitTable := by
  unfold submitTable submit
  cases h : p.submission with
  | ignored => exact .ignored _ (.inl h)
  | busy => exact .ignored _ (.inr h)
  | refused failure => exact .refused _ _ h
  | accepted prompt =>
    obtain ⟨hp, he⟩ := ask_of_accepted h .synthesizing (.synthesize (.prompt prompt)) .tableIssued
    unfold Allows
    dsimp only
    rw [hp, he]
    exact .tabled prompt h

theorem toggle_allowed (p : Panel) (index : Nat) (approved : Bool) :
    p.Allows (.candidateToggled index approved) (p.toggle index approved) := by
  unfold toggle
  by_cases waiting : p.stage = .awaitingSelection
  · rw [if_pos waiting]
    cases held : p.candidates.holds index with
    | false => exact .missed index approved waiting held
    | true => exact .toggled index approved waiting held
  · rw [if_neg waiting]
    exact .ignored _ waiting

theorem toggleAll_allowed (p : Panel) (approved : Bool) :
    p.Allows (.allToggled approved) (p.toggleAll approved) := by
  unfold toggleAll
  by_cases waiting : p.stage = .awaitingSelection
  · rw [if_pos waiting]
    exact .toggledAll approved waiting
  · rw [if_neg waiting]
    exact .ignored _ waiting

theorem confirm_allowed (p : Panel) : p.Allows .selectionConfirmed p.confirm := by
  unfold confirm
  by_cases waiting : p.stage = .awaitingSelection
  · rw [if_pos waiting]
    by_cases none : p.candidates.approvedLabels = []
    · simp only [none, List.isEmpty_nil, if_true]
      exact .refused _ _ ⟨rfl, waiting, none⟩
    · have some : p.candidates.approvedLabels.isEmpty = false := by simpa using none
      simp only [some, Bool.false_eq_true, if_false]
      cases busy : p.isBusy with
      | false =>
        rw [call_of_free busy]
        exact .confirmed waiting none busy
      | true =>
        rw [call_of_busy busy]
        exact .ignored _ (.inr ⟨none, busy⟩)
  · rw [if_neg waiting]
    exact .ignored _ (.inl waiting)

theorem requestReport_allowed (p : Panel) : p.Allows .reportRequested p.requestReport := by
  unfold requestReport
  by_cases isOpen : p.isOpen = true
  · rw [if_pos isOpen]
    cases hchart : p.selectedChart? with
    | none => exact .refused _ _ ⟨rfl, isOpen, hchart⟩
    | some chart =>
      cases hsession : p.session with
      | none => exact .ignored _ (.inr ⟨by simp [hchart], .inl hsession⟩)
      | some session =>
        cases busy : p.isBusy with
        | false =>
          dsimp only
          rw [call_of_free busy]
          exact .reportBegun session chart isOpen hchart hsession busy
        | true =>
          dsimp only
          rw [call_of_busy busy]
          exact .ignored _ (.inr ⟨by simp [hchart], .inr busy⟩)
  · rw [if_neg isOpen]
    exact .ignored _ (.inl (by simpa using isOpen))

theorem selectChart_allowed (p : Panel) (id : ChartId) :
    p.Allows (.chartSelected id) (p.selectChart id) := by
  unfold selectChart
  by_cases isOpen : p.isOpen = true
  · rw [if_pos isOpen]
    cases hchart : p.context.chart? id with
    | none => exact .ignored _ (.inr hchart)
    | some chart => exact .selected id chart isOpen hchart
  · rw [if_neg isOpen]
    exact .ignored _ (.inl (by simpa using isOpen))

theorem activateLink_allowed (p : Panel) (index : Nat) :
    p.Allows (.linkActivated index) (p.activateLink index) := by
  unfold activateLink
  cases hlink : (p.transcript.get? index).bind Entry.link? with
  | none => exact .ignored _ hlink
  | some url => exact .linkOpened index url hlink

theorem setDraft_allowed (p : Panel) (text : String) :
    p.Allows (.draftChanged text) (if p.isOpen then (p.setDraft text).still else p.still) := by
  by_cases isOpen : p.isOpen = true
  · rw [if_pos isOpen]
    exact .drafted text isOpen
  · rw [if_neg isOpen]
    exact .ignored _ (Bool.eq_false_iff.mpr isOpen)

theorem completeSession_allowed {p : Panel} {t : Ticket} (h : p.acceptsBootstrap t = true)
    (result : Except TransportFailure SessionContext) :
    p.Allows (.completed t (.session result)) (p.completeSession result) := by
  cases result with
  | error failure => exact .contextLost t failure h
  | ok ctx => exact .contextLoaded t ctx h

theorem completeDiscovery_completing (p : Panel) (result : Except TransportFailure Discovery) :
    Completing p (.discovery result) (p.completeDiscovery result).panel
      (p.completeDiscovery result).effects := by
  cases result with
  | error failure => exact .failed .discover failure (by decide)
  | ok found =>
    cases found with
    | analysis text => exact .answered text
    | candidates labels =>
      cases labels with
      | nil => exact .nothingFound
      | cons label rest => exact .offered (label :: rest) (by simp)

theorem completeSynthesis_completing (p : Panel) (result : Except TransportFailure Json.Value) :
    Completing p (.synthesis result) (p.completeSynthesis result).panel
      (p.completeSynthesis result).effects := by
  cases result with
  | error failure => exact .failed .synthesize failure (by decide)
  | ok payload => exact .synthesized payload

theorem completeDelivery_completing (p : Panel) (result : Except TransportFailure String) :
    Completing p (.delivery result) (p.completeDelivery result).panel
      (p.completeDelivery result).effects := by
  cases result with
  | error failure => exact .failed .deliver failure (by decide)
  | ok link =>
    cases pending : p.transcript.hasPending with
    | false =>
      simp only [completeDelivery, pending, Bool.false_eq_true, if_false]
      exact .deliveredTable link pending
    | true =>
      simp only [completeDelivery, pending, if_true]
      exact .deliveredSelection link pending

theorem completeReport_completing (p : Panel) (result : Except TransportFailure Bytes) :
    Completing p (.report result) (p.completeReport result).panel
      (p.completeReport result).effects := by
  cases result with
  | error failure => exact .failed .generateReport failure (by decide)
  | ok content => exact .reported content

theorem Completing.operation_ne {p q : Panel} {reply : Reply TransportFailure} {es : List Effect}
    (c : Completing p reply q es) : reply.operation ≠ .loadSession := by
  cases c with
  | failed operation failure kind => rwa [Reply.operation_failed]
  | _ => exact nofun

/-- A reply counts only under the ticket in flight. -/
theorem receive_allowed {p : Panel} {reply : Reply TransportFailure} {o : Outcome} (t : Ticket)
    (operation : Operation) (h : Completing p reply o.panel o.effects) :
    p.Allows (.completed t reply) (p.receive t operation o) := by
  unfold receive
  by_cases accepted : p.accepts t = true
  · rw [if_pos accepted]
    exact .completed t accepted h
  · rw [if_neg accepted]
    refine .ignored _ ?_
    have stale : p.accepts t = false := Bool.eq_false_iff.mpr accepted
    cases reply with
    | session result => exact absurd rfl h.operation_ne
    | discovery result => exact stale
    | synthesis result => exact stale
    | delivery result => exact stale
    | report result => exact stale

theorem complete_allowed (p : Panel) (t : Ticket) (reply : Reply TransportFailure) :
    p.Allows (.completed t reply) (p.complete t reply) := by
  cases reply with
  | session result =>
    simp only [complete]
    by_cases accepted : p.acceptsBootstrap t = true
    · rw [if_pos accepted]
      exact completeSession_allowed accepted result
    · rw [if_neg accepted]
      exact .ignored _ (Bool.eq_false_iff.mpr accepted)
  | discovery result =>
    exact receive_allowed t _ (p.completeDiscovery_completing result)
  | synthesis result =>
    exact receive_allowed t _ (p.completeSynthesis_completing result)
  | delivery result =>
    exact receive_allowed t _ (p.completeDelivery_completing result)
  | report result =>
    exact receive_allowed t _ (p.completeReport_completing result)

/-- Every step follows one of the rules. -/
theorem step_allowed (p : Panel) (m : Message) : p.Allows m (p.step m) := by
  cases m with
  | opened session => exact openFor_allowed p session
  | closed => exact close_allowed p
  | draftChanged text => exact setDraft_allowed p text
  | promptSubmitted => exact submitPrompt_allowed p
  | tableSubmitted => exact submitTable_allowed p
  | candidateToggled index approved => exact toggle_allowed p index approved
  | allToggled approved => exact toggleAll_allowed p approved
  | selectionConfirmed => exact confirm_allowed p
  | chartSelected id => exact selectChart_allowed p id
  | reportRequested => exact requestReport_allowed p
  | linkActivated index => exact activateLink_allowed p index
  | completed t reply => exact complete_allowed p t reply
  | tick => exact .ignored _ trivial
  | noOp => exact .ignored _ trivial

end AnalysisPanel.Panel
