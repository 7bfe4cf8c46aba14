import AnalysisPanel.Proofs.Panel.Tickets

/-! One call in flight at a time. The gate, the stage and the ticket in flight are kept in step by
every message a panel can be told, under whatever ticket and with whatever content. -/

namespace AnalysisPanel.Panel

/-! ## The invariant -/

/-- The stage of a panel that waits for no reply. -/
def stageAtRest (p : Panel) : Stage :=
  if p.transcript.hasPending then .awaitingSelection else .idle

/-- Gate, ticket and stage agree, and a panel that is closed holds nothing. -/
structure Gated (p : Panel) : Prop where
  inFlight : p.inFlight.isSome = p.isBusy
  stage : p.stage.operation?.isSome = p.isBusy
  atRest : p.isBusy = false → p.stage = p.stageAtRest
  closed : p.isOpen = false → p.isBusy = false ∧ p.transcript = {} ∧ p.bootstrap = none

variable {p q : Panel} {m : Message} {es : List Effect}

theorem gated_new (variant : Variant) : Gated (.new variant) :=
  ⟨rfl, rfl, fun _ => rfl, fun _ => ⟨rfl, rfl, rfl⟩⟩

theorem gated_closed (p : Panel) : Gated p.closed :=
  ⟨rfl, rfl, fun _ => rfl, fun _ => ⟨rfl, rfl, rfl⟩⟩

theorem Gated.isOpen_of_busy (g : Gated p) (busy : p.isBusy = true) : p.isOpen = true := by
  cases isOpen : p.isOpen with
  | true => rfl
  | false =>
    have free := (g.closed isOpen).1
    rw [busy] at free
    cases free

theorem Gated.busy_of_inFlight (g : Gated p) {t : Ticket} (inFlight : p.inFlight = some t) :
    p.isBusy = true := by
  rw [← g.inFlight, inFlight]
  rfl

/-- Whoever takes a reply through the gate holds it. -/
theorem Gated.busy_of_accepts (g : Gated p) {t : Ticket} (accepted : p.accepts t = true) :
    p.isBusy = true :=
  g.busy_of_inFlight (accepts_iff.mp accepted).2

theorem Gated.free_of_awaiting (g : Gated p) (waiting : p.stage = .awaitingSelection) :
    p.isBusy = false := by
  rw [← g.stage, waiting]
  rfl

/-- Whoever waits for a selection has a checklist up. -/
theorem Gated.hasPending_of_awaiting (g : Gated p) (waiting : p.stage = .awaitingSelection) :
    p.transcript.hasPending = true := by
  have rest := g.atRest (g.free_of_awaiting waiting)
  rw [waiting, stageAtRest] at rest
  cases pending : p.transcript.hasPending with
  | true => rfl
  | false =>
    rw [pending] at rest
    cases rest

theorem Gated.isOpen_of_awaiting (g : Gated p) (waiting : p.stage = .awaitingSelection) :
    p.isOpen = true := by
  cases isOpen : p.isOpen with
  | true => rfl
  | false =>
    have pending := g.hasPending_of_awaiting waiting
    rw [(g.closed isOpen).2.1] at pending
    cases pending

/-- Only a panel that is open waits for a reply. -/
theorem Gated.isOpen_of_awaits (g : Gated p) {t : Ticket} {op : Operation}
    (a : p.ledger.Awaits t op) : p.isOpen = true := by
  rcases a with ⟨inFlight, -⟩ | ⟨bootstrap, -⟩
  · exact g.isOpen_of_busy (g.busy_of_inFlight inFlight)
  · cases isOpen : p.isOpen with
    | true => rfl
    | false =>
      have none := (g.closed isOpen).2.2
      rw [show p.bootstrap = some t from bootstrap] at none
      cases none

/-! ## What keeps it -/

/-- A step of an open panel that touches neither gate, ticket nor stage, and puts up or takes down
no checklist. -/
theorem Gated.of_same (g : Gated p) (isOpen : q.isOpen = true) (gate : q.gate = p.gate)
    (inFlight : q.inFlight = p.inFlight) (stage : q.stage = p.stage)
    (pending : q.transcript.hasPending = p.transcript.hasPending) : Gated q where
  inFlight := by rw [inFlight, isBusy, gate]; exact g.inFlight
  stage := by rw [stage, isBusy, gate]; exact g.stage
  atRest free := by
    rw [isBusy, gate] at free
    rw [stage, stageAtRest, pending]
    exact g.atRest free
  closed isClosed := by rw [isOpen] at isClosed; cases isClosed

theorem gated_of_busy (isOpen : p.isOpen = true) (busy : p.isBusy = true)
    (inFlight : p.inFlight.isSome = true) (stage : p.stage.operation?.isSome = true) : Gated p where
  inFlight := by rw [inFlight, busy]
  stage := by rw [stage, busy]
  atRest free := by rw [busy] at free; cases free
  closed isClosed := by rw [isOpen] at isClosed; cases isClosed

theorem gated_finishCall (isOpen : p.isOpen = true) : Gated p.finishCall where
  inFlight := rfl
  stage := by
    simp only [finishCall]
    split <;> rfl
  atRest _ := rfl
  closed isClosed := by
    have : p.isOpen = false := isClosed
    rw [isOpen] at this
    cases this

theorem Gated.opening (g : Gated p) {session : SessionId} (o : Opening p session q es) :
    Gated q := by
  cases o with
  | held _ => exact g.of_same rfl rfl rfl rfl rfl
  | loading _ => exact g.of_same rfl rfl rfl rfl rfl

theorem Gated.completing (g : Gated p) {reply : Reply TransportFailure} {t : Ticket}
    (accepted : p.accepts t = true) (c : Completing p reply q es) : Gated q := by
  have isOpen : p.isOpen = true := (accepts_iff.mp accepted).1
  cases c with
  | failed _ _ _ => exact gated_finishCall isOpen
  | offered _ _ => exact gated_finishCall isOpen
  | nothingFound => exact gated_finishCall isOpen
  | answered _ => exact gated_finishCall isOpen
  | synthesized _ =>
    -- the follow-up call takes over a gate that the invariant says is still held
    exact gated_of_busy isOpen (g.busy_of_accepts accepted) rfl rfl
  | deliveredSelection _ _ => exact gated_finishCall isOpen
  | deliveredTable _ _ => exact gated_finishCall isOpen
  | reported _ => exact gated_finishCall isOpen

/-- Every rule keeps gate, ticket and stage in step. -/
theorem Gated.rule (g : Gated p) (r : Rule p m q es) : Gated q := by
  cases r with
  | ignored _ _ => exact g
  | refused _ _ _ => exact g
  | linkOpened _ _ _ => exact g
  | opened _ _ o => exact g.opening o
  | switched _ _ _ o => exact (gated_closed p).opening o
  | closed _ => exact gated_closed p
  | drafted text isOpen =>
    obtain ⟨dirty, same⟩ := p.setDraft_eq text
    rw [same]
    exact g.of_same isOpen rfl rfl rfl rfl
  | toggled _ _ waiting _ => exact g.of_same (g.isOpen_of_awaiting waiting) rfl rfl rfl rfl
  | missed _ _ waiting _ => exact g.of_same (g.isOpen_of_awaiting waiting) rfl rfl rfl rfl
  | toggledAll _ waiting => exact g.of_same (g.isOpen_of_awaiting waiting) rfl rfl rfl rfl
  | selected _ _ isOpen _ => exact g.of_same isOpen rfl rfl rfl rfl
  | prompted _ _ accepted _ =>
    exact gated_of_busy (submission_eq_accepted accepted).1 rfl rfl rfl
  | tabled _ accepted => exact gated_of_busy (submission_eq_accepted accepted).1 rfl rfl rfl
  | confirmed waiting _ _ => exact gated_of_busy (g.isOpen_of_awaiting waiting) rfl rfl rfl
  | reportBegun _ _ isOpen _ _ _ => exact gated_of_busy isOpen rfl rfl rfl
  | contextLoaded _ _ accepted =>
    exact g.of_same (acceptsBootstrap_iff.mp accepted).1 rfl rfl rfl rfl
  | contextLost _ _ accepted =>
    exact g.of_same (acceptsBootstrap_iff.mp accepted).1 rfl rfl rfl rfl
  | completed _ accepted c => exact g.completing accepted c

theorem Gated.repainted (g : Gated p) : Gated p.consumeDirty.2 :=
  ⟨g.inFlight, g.stage, g.atRest, g.closed⟩

theorem Run.gated {variant : Variant} {h : History} {p : Panel} (r : Run variant h p) :
    Gated p := by
  induction r using Run.invariant with
  | new => exact gated_new variant
  | rule _ g _ step => exact g.rule step
  | repainted _ g => exact g.repainted

/-! ## Calls through the gate -/

/-- At most one call goes through the gate in a step, and it is then the one in flight. -/
theorem Issues.gatedCalls (i : Issues p m q es) :
    gatedCallsOf es = [] ∨
      ∃ t call, gatedCallsOf es = [(t, call)] ∧ q.inFlight = some t ∧
        (p.isBusy = false ∨ p.takesReply m = true) := by
  cases i with
  | kept _ _ _ | released _ _ | settled _ _ | closed _ _ | loading _ _ _ _
  | reloading _ _ _ _ => exact .inl rfl
  | called call passes h =>
    refine .inr ⟨p.nextTicket, call, ?_, congrArg Ledger.inFlight h, passes.imp_left (·.1)⟩
    have awaited : q.stage.operation? = some call.operation := congrArg Ledger.awaited h
    have gated : call.operation ≠ .loadSession := by
      intro load
      rw [load] at awaited
      exact q.stage.operation?_ne_loadSession awaited
    simp [gatedCallsOf, callsOf, Effect.call?, gated]

theorem Rule.gatedCalls (r : Rule p m q es) :
    gatedCallsOf es = [] ∨
      ∃ t call, gatedCallsOf es = [(t, call)] ∧ q.inFlight = some t ∧
        (p.isBusy = false ∨ p.takesReply m = true) := by
  rw [gatedCallsOf, ← callsOf_demandsOf]
  exact r.issues.gatedCalls

/-- In every state a panel can reach, the gate is held exactly while a ticket is in flight and the
stage waits for a reply; otherwise the stage says whether a checklist is up. A call through the
gate is issued only when the gate is free or by the reply to the call that holds it, at most one
in a step, and under the ticket that is in flight afterwards. -/
theorem single_call_in_flight {variant : Variant} {h : History} {p : Panel}
    (r : Run variant h p) :
    (p.isBusy = true ↔ p.inFlight.isSome = true) ∧
      (p.inFlight.isSome = true ↔
        p.stage ∈ [.discovering, .synthesizing, .delivering, .generatingReport]) ∧
      (p.isBusy = false →
        p.stage = if p.transcript.hasPending then .awaitingSelection else .idle) ∧
      ∀ m, gatedCallsOf (p.step m).effects = [] ∨
        ∃ t call, gatedCallsOf (p.step m).effects = [(t, call)] ∧
          (p.step m).panel.inFlight = some t ∧
          (p.isBusy = false ∨
            ∃ t' reply, m = .completed t' reply ∧ reply.operation ≠ .loadSession ∧
              p.inFlight = some t' ∧ p.isOpen = true) := by
  have g := r.gated
  refine ⟨by rw [g.inFlight], ?_, g.atRest, ?_⟩
  · rw [g.inFlight, ← g.stage]
    cases p.stage <;> decide
  · intro m
    rcases (step_allowed p m).gatedCalls with none | ⟨t, call, one, inFlight, passes⟩
    · exact .inl none
    · refine .inr ⟨t, call, one, inFlight, passes.imp_right ?_⟩
      intro taken
      obtain ⟨t', reply, rfl, kind, accepted⟩ := takesReply_eq_true taken
      obtain ⟨isOpen, holds⟩ := Bool.and_eq_true_iff.mp accepted
      exact ⟨t', reply, rfl, kind, eq_of_beq holds, isOpen⟩

/-- A table is being built; the reply to its call is handed on to delivery. -/
theorem single_call_in_flight_synthesizing :
    let told := tellAll ([], .new .scopedAnalysis)
      [.opened "a", .draftChanged "why", .tableSubmitted, .promptSubmitted,
        .completed ⟨0, 0⟩ (.synthesis (.ok .null))]
    let reply := Message.completed ⟨0, 1⟩ (.synthesis (.ok .null))
    told.2.isBusy = true ∧ told.2.inFlight = some ⟨0, 1⟩ ∧ told.2.stage = .synthesizing ∧
      ∃ t call, gatedCallsOf (told.2.step reply).effects = [(t, call)] ∧
        (told.2.step reply).panel.inFlight = some t := by
  intro told reply
  obtain ⟨holds, awaits, -, calls⟩ :=
    single_call_in_flight (Run.new.tellAll _ : Run .scopedAnalysis told.1 told.2)
  have inFlight : told.2.inFlight = some ⟨0, 1⟩ := by decide
  have stage : told.2.stage = .synthesizing := by decide
  have busy : told.2.isBusy = true := holds.mpr (awaits.mpr (by rw [stage]; decide))
  rcases calls reply with none | ⟨t, call, one, newest, -⟩
  · exact absurd (congrArg List.length none) (by decide)
  · exact ⟨busy, inFlight, stage, t, call, one, newest⟩

end AnalysisPanel.Panel
