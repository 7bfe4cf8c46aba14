import AnalysisPanel.Proofs.Conversation.Exchanges
import AnalysisPanel.Proofs.Panel.Gate

/-! Order in the transcript. A chain of calls begins with a question; whatever it brings, a
checklist or an answer, is appended right behind that question, although reports are made in
between, calls fail, and replies come late or twice. -/

namespace AnalysisPanel.Panel

/-! ## Chains of calls -/

/-- A question as it was put: after how many steps, and in which words. -/
structure Question where
  step : Nat
  text : String
  deriving DecidableEq

namespace Event

/-- The entries appended in a step. -/
def entries (e : Event) : List Entry := e.effects.filterMap Effect.entry?

/-- The question put in a step. -/
def question? (e : Event) : Option String := e.entries.findSome? Entry.question?

/-- Whether a message takes up what a step began: it is the reply to a call of the step, or it
confirms the checklist that the step put up. -/
def leadsTo (e : Event) : Message → Bool
  | .completed t _ => e.calls.any fun c => c.1 == t
  | .selectionConfirmed => e.entries.any Entry.isSelectionPrompt
  | _ => false

end Event

namespace History

/-- The question put last. -/
def lastQuestion : History → Option Question
  | [] => none
  | e :: h =>
    match e.question? with
    | some text => some ⟨h.length, text⟩
    | none => lastQuestion h

/-- The question whose submission started the chain of calls that a message goes on with. -/
def root : History → Message → Option Question
  | [], _ => none
  | e :: h, m =>
    if e.leadsTo m then
      match e.question? with
      | some text => some ⟨h.length, text⟩
      | none => root h e.message
    else root h m

end History

/-- The question at the root of a message is the one put last, and nothing but its checklist stands
behind it. -/
def Pursues (h : History) (p : Panel) (m : Message) : Prop :=
  ∃ pre q, p.transcript.dropPending.entries = pre ++ [.user q.text] ∧
    h.root m = some q ∧ h.lastQuestion = some q

variable {variant : Variant} {h : History} {p q : Panel} {m : Message} {es : List Effect}

theorem question?_of_silent {e : Event} (silent : e.entries = []) : e.question? = none := by
  rw [Event.question?, silent]
  rfl

/-- A step leads to the reply to a call it issues. -/
theorem leadsTo_of_called {e : Event} {t t' : Ticket} {call : Call} (calls : e.calls = [(t, call)])
    (inFlight : q.inFlight = some t) (ht : q.inFlight = some t')
    (reply : Reply TransportFailure) : e.leadsTo (.completed t' reply) = true := by
  have same : t = t' := Option.some.inj (inFlight.symm.trans ht)
  rw [Event.leadsTo, calls, same]
  simp

theorem not_leadsTo_of_silent {e : Event} (silent : e.entries = []) :
    e.leadsTo .selectionConfirmed = false := by
  rw [Event.leadsTo, silent]
  rfl

/-- A step that puts no question and does not lead to a message leaves it where it was. -/
theorem Pursues.cons {e : Event} {m : Message} (a : Pursues h p m)
    (silent : e.question? = none) (apart : e.leadsTo m = false)
    (transcript : q.transcript.dropPending = p.transcript.dropPending) :
    Pursues (e :: h) q m := by
  obtain ⟨pre, question, ends, root, last⟩ := a
  refine ⟨pre, question, ?_, ?_, ?_⟩
  · rw [transcript]
    exact ends
  · simp only [History.root, apart, Bool.false_eq_true, if_false]
    exact root
  · simp only [History.lastQuestion, silent]
    exact last

/-- A step that goes on with a message hands its question over to what it leads to. -/
theorem Pursues.hand_over {e : Event} {m : Message} (a : Pursues h p e.message)
    (silent : e.question? = none) (leads : e.leadsTo m = true)
    (transcript : q.transcript.dropPending = p.transcript.dropPending) :
    Pursues (e :: h) q m := by
  obtain ⟨pre, question, ends, root, last⟩ := a
  refine ⟨pre, question, ?_, ?_, ?_⟩
  · rw [transcript]
    exact ends
  · simp only [History.root, leads, if_true, silent]
    exact root
  · simp only [History.lastQuestion, silent]
    exact last

/-- A question is at the root of what its own step leads to. -/
theorem Pursues.ask {e : Event} {m : Message} {text : String} (asks : e.question? = some text)
    (leads : e.leadsTo m = true)
    (transcript : q.transcript = p.transcript.append (.user text)) :
    Pursues (e :: h) q m := by
  refine ⟨p.transcript.dropPending.entries, ⟨h.length, text⟩, ?_, ?_, ?_⟩
  · rw [transcript, Transcript.dropPending_append_of_not rfl]
    rfl
  · simp only [History.root, leads, if_true, asks]
  · simp only [History.lastQuestion, asks]

/-! ## The invariant -/

/-- The transcript is orderly, its checklist is the one held, the call in flight is of the kind
the stage waits for, and whoever waits pursues the question put last. -/
structure Causal (h : History) (p : Panel) : Prop where
  orderly : p.transcript.Orderly
  offered : p.transcript.hasPending = !p.candidates.isEmpty
  unoffered : p.stage = .discovering → p.transcript.hasPending = false
  kind : ∀ t, p.inFlight = some t →
    ∃ call, (t, call) ∈ h.issued ∧ p.stage.operation? = some call.operation
  chain : ∀ t reply, p.inFlight = some t → p.stage ≠ .generatingReport →
    Pursues h p (.completed t reply)
  checklist : p.transcript.hasPending = true → Pursues h p .selectionConfirmed

/-- A panel with no call in flight waits at most for its checklist. -/
theorem causal_of_idle (inFlight : p.inFlight = none) (orderly : p.transcript.Orderly)
    (offered : p.transcript.hasPending = !p.candidates.isEmpty)
    (unoffered : p.stage = .discovering → p.transcript.hasPending = false)
    (checklist : p.transcript.hasPending = true → Pursues h p .selectionConfirmed) :
    Causal h p where
  orderly := orderly
  offered := offered
  unoffered := unoffered
  kind t ht := by
    rw [inFlight] at ht
    cases ht
  chain t reply ht := by
    rw [inFlight] at ht
    cases ht
  checklist := checklist

/-- A panel with an empty transcript, no checklist and no call waits for nothing. -/
theorem causal_blank (transcript : p.transcript = {}) (candidates : p.candidates = {})
    (inFlight : p.inFlight = none) : Causal h p := by
  have free : p.transcript.hasPending = false := by
    rw [transcript]
    rfl
  refine causal_of_idle inFlight ?_ ?_ (fun _ => free) ?_
  · rw [transcript]
    exact .inl .nil
  · rw [free, candidates]
    rfl
  · intro pending
    rw [free] at pending
    cases pending

theorem causal_new (variant : Variant) : Causal [] (.new variant) := causal_blank rfl rfl rfl

theorem Causal.isEmpty_of_free (c : Causal h p) (free : p.transcript.hasPending = false) :
    p.candidates.isEmpty = true := by
  have none := c.offered
  rw [free] at none
  simpa using none

/-- Under a faithful history the reply that is accepted is of the kind the stage waits for. -/
theorem Causal.stage_of_reply (c : Causal h p) {t : Ticket} {reply : Reply TransportFailure}
    (faithful : History.Faithful (⟨p, .completed t reply, es⟩ :: h))
    (accepted : p.accepts t = true) : p.stage.operation? = some reply.operation := by
  obtain ⟨call, issued, stage⟩ := c.kind t (accepts_iff.mp accepted).2
  rw [stage, faithful.1 (t, reply) rfl (t, call) issued rfl]

/-- A ticket in flight was issued before the step, so the step does not issue it again. -/
theorem Causal.not_leadsTo (c : Causal h p) (r : Run variant h p) (step : Rule p m q es)
    {t : Ticket} (ht : p.inFlight = some t) (reply : Reply TransportFailure) :
    (⟨p, m, es⟩ : Event).leadsTo (.completed t reply) = false := by
  obtain ⟨call, issued, -⟩ := c.kind t ht
  have older := r.seq_lt_nextSeq _ issued
  apply List.any_eq_false.mpr
  intro c hc same
  have hseq := (step.seq_eq c hc).1
  rw [eq_of_beq same] at hseq
  exact Nat.ne_of_lt older hseq

/-- A checklist that stays up is for the same question as before. -/
theorem Causal.checklist_kept (c : Causal h p) {e : Event} (silent : e.entries = [])
    (transcript : q.transcript = p.transcript) (pending : q.transcript.hasPending = true) :
    Pursues (e :: h) q .selectionConfirmed :=
  (c.checklist (transcript ▸ pending)).cons (question?_of_silent silent)
    (not_leadsTo_of_silent silent) (by rw [transcript])

theorem kind_of_called {e : Event} {t : Ticket} {call : Call} (calls : e.calls = [(t, call)])
    (inFlight : q.inFlight = some t) (stage : q.stage.operation? = some call.operation) :
    ∀ t', q.inFlight = some t' →
      ∃ call, (t', call) ∈ History.issued (e :: h) ∧ q.stage.operation? = some call.operation := by
  intro t' ht
  have same : t = t' := Option.some.inj (inFlight.symm.trans ht)
  refine ⟨call, List.mem_append_left _ ?_, stage⟩
  rw [calls, same]
  exact List.mem_singleton_self _

/-! ## Steps that append nothing -/

/-- A step that leaves transcript, checklist, stage and call in flight as they are. -/
theorem Causal.of_same (c : Causal h p) (r : Run variant h p) (step : Rule p m q es)
    (silent : (⟨p, m, es⟩ : Event).entries = []) (transcript : q.transcript = p.transcript)
    (candidates : q.candidates.isEmpty = p.candidates.isEmpty) (stage : q.stage = p.stage)
    (inFlight : q.inFlight = p.inFlight) : Causal (⟨p, m, es⟩ :: h) q where
  orderly := transcript ▸ c.orderly
  offered := by
    rw [transcript, candidates]
    exact c.offered
  unoffered discovering := by
    rw [transcript]
    exact c.unoffered (stage ▸ discovering)
  kind t ht := by
    obtain ⟨call, issued, waits⟩ := c.kind t (inFlight ▸ ht)
    exact ⟨call, List.mem_append_right _ issued, stage ▸ waits⟩
  chain t reply ht hstage := by
    have before : p.inFlight = some t := inFlight ▸ ht
    exact (c.chain t reply before (stage ▸ hstage)).cons (question?_of_silent silent)
      (c.not_leadsTo r step before reply) (by rw [transcript])
  checklist := c.checklist_kept silent transcript

/-- A step after which no call is in flight and the transcript is as before. -/
theorem Causal.of_released (c : Causal h p) {e : Event} (silent : e.entries = [])
    (transcript : q.transcript = p.transcript)
    (candidates : q.candidates.isEmpty = p.candidates.isEmpty)
    (inFlight : q.inFlight = none) (stage : q.stage ≠ .discovering) : Causal (e :: h) q := by
  refine causal_of_idle inFlight (transcript ▸ c.orderly) ?_
    (fun discovering => absurd discovering stage) (c.checklist_kept silent transcript)
  rw [transcript, candidates]
  exact c.offered

/-- A step that hands the gate to a call of its own; unless it is for a report, the call goes on
with the question that the message pursues. -/
theorem Causal.of_called (c : Causal h p) {e : Event} {t : Ticket} {call : Call}
    (silent : e.entries = []) (calls : e.calls = [(t, call)])
    (transcript : q.transcript = p.transcript) (candidates : q.candidates = p.candidates)
    (inFlight : q.inFlight = some t) (stage : q.stage.operation? = some call.operation)
    (later : q.stage ≠ .discovering)
    (pursued : q.stage ≠ .generatingReport → Pursues h p e.message) : Causal (e :: h) q where
  orderly := transcript ▸ c.orderly
  offered := by
    rw [transcript, candidates]
    exact c.offered
  unoffered discovering := absurd discovering later
  kind := kind_of_called calls inFlight stage
  chain t' reply ht hstage :=
    (pursued hstage).hand_over (question?_of_silent silent)
      (leadsTo_of_called calls inFlight ht reply) (by rw [transcript])
  checklist := c.checklist_kept silent transcript

/-! ## Steps that append an entry -/

theorem finishCall_stage_ne_discovering (p : Panel) : p.finishCall.stage ≠ .discovering := by
  simp only [finishCall]
  split <;> decide

/-- A question is put and the call it leads to is issued. -/
theorem Causal.of_asked (c : Causal h p) {e : Event} {t : Ticket} {call : Call} {text : String}
    (free : p.transcript.hasPending = false) (asks : e.question? = some text)
    (calls : e.calls = [(t, call)]) (transcript : q.transcript = p.transcript.append (.user text))
    (candidates : q.candidates = p.candidates) (inFlight : q.inFlight = some t)
    (stage : q.stage.operation? = some call.operation) : Causal (e :: h) q := by
  have free' : q.transcript.hasPending = false := by
    rw [transcript, Transcript.hasPending_append, free]
    rfl
  refine ⟨?_, ?_, fun _ => free', kind_of_called calls inFlight stage, ?_, ?_⟩
  · rw [transcript]
    exact Transcript.orderly_append_user c.orderly free text
  · rw [free', candidates, ← free]
    exact c.offered
  · intro t' reply ht _
    exact .ask asks (leadsTo_of_called calls inFlight ht reply) transcript
  · intro pending
    rw [free'] at pending
    cases pending

/-- The question pursued is answered, and its checklist is gone. -/
theorem Causal.of_answered (c : Causal h p) {e : Event} {answer link : Option String}
    (pursued : Pursues h p m)
    (transcript : q.transcript = p.transcript.dropPending.append (.assistant answer link))
    (candidates : q.candidates.isEmpty = true) (inFlight : q.inFlight = none) :
    Causal (e :: h) q := by
  obtain ⟨pre, question, ends, -, -⟩ := pursued
  have free : q.transcript.hasPending = false := by
    rw [transcript, Transcript.hasPending_append, Transcript.hasPending_dropPending]
    rfl
  refine causal_of_idle inFlight ?_ ?_ (fun _ => free) ?_
  · rw [transcript]
    exact c.orderly.dropPending.append_reply (Transcript.hasPending_dropPending _) ends rfl
  · rw [free, candidates]
    rfl
  · intro pending
    rw [free] at pending
    cases pending

/-- A checklist is put up for the question pursued. -/
theorem Causal.of_offered (c : Causal h p) {e : Event} (pursued : Pursues h p e.message)
    (free : p.transcript.hasPending = false) (entries : e.entries = [.selectionPrompt])
    (transcript : q.transcript = p.transcript.append .selectionPrompt)
    (candidates : q.candidates.isEmpty = false) (inFlight : q.inFlight = none)
    (stage : q.stage ≠ .discovering) : Causal (e :: h) q := by
  obtain ⟨pre, question, ends, -, -⟩ := id pursued
  rw [Transcript.dropPending_of_not_hasPending free] at ends
  refine causal_of_idle inFlight ?_ ?_ (fun discovering => absurd discovering stage) ?_
  · rw [transcript]
    exact c.orderly.append_reply free ends rfl
  · rw [transcript, candidates, Transcript.hasPending_append]
    simp [Entry.isSelectionPrompt]
  · intro _
    refine pursued.hand_over ?_ ?_ ?_
    · rw [Event.question?, entries]
      rfl
    · rw [Event.leadsTo, entries]
      rfl
    · rw [transcript, Transcript.dropPending_append_selectionPrompt]

/-! ## Every step -/

@[simp] theorem isEmpty_setAt (cs : CandidateSet) (index : Nat) (approved : Bool) :
    (cs.setAt index approved).isEmpty = cs.isEmpty := by
  cases items : cs.items with
  | nil => simp [CandidateSet.isEmpty, CandidateSet.setAt, items]
  | cons c rest => cases index <;> simp [CandidateSet.isEmpty, CandidateSet.setAt, items]

@[simp] theorem isEmpty_setAll (cs : CandidateSet) (approved : Bool) :
    (cs.setAll approved).isEmpty = cs.isEmpty := by
  simp [CandidateSet.isEmpty, CandidateSet.setAll]

/-- The message that the panel accepts as a reply goes on with the question put last. -/
theorem Causal.pursues_of_reply (c : Causal h p) {t : Ticket} {reply : Reply TransportFailure}
    (accepted : p.accepts t = true) (stage : p.stage.operation? = some reply.operation)
    (kind : reply.operation ≠ .generateReport) : Pursues h p (.completed t reply) := by
  refine c.chain t reply (accepts_iff.mp accepted).2 ?_
  intro reporting
  rw [reporting] at stage
  exact kind (Option.some.inj stage).symm

theorem stage_eq_discovering {s : Stage} (h : s.operation? = some .discover) :
    s = .discovering := by
  cases s <;> first | rfl | cases h

theorem Causal.completing (c : Causal h p) {t : Ticket} {reply : Reply TransportFailure}
    (accepted : p.accepts t = true) (stage : p.stage.operation? = some reply.operation)
    (step : Completing p reply q es) : Causal (⟨p, .completed t reply, es⟩ :: h) q := by
  cases step with
  | failed _ _ _ => exact c.of_released rfl rfl rfl rfl (finishCall_stage_ne_discovering p)
  | offered labels some =>
    have pursued := c.pursues_of_reply accepted stage (by simp [Reply.operation])
    have free := c.unoffered (stage_eq_discovering stage)
    refine c.of_offered pursued free rfl rfl ?_ rfl (finishCall_stage_ne_discovering _)
    simpa [finishCall, offering, setCandidates, append, CandidateSet.ofLabels,
      CandidateSet.isEmpty] using some
  | nothingFound =>
    have free := c.unoffered (stage_eq_discovering stage)
    exact c.of_released rfl rfl (c.isEmpty_of_free free).symm rfl
      (finishCall_stage_ne_discovering _)
  | answered text =>
    have pursued := c.pursues_of_reply accepted stage (by simp [Reply.operation])
    have free := c.unoffered (stage_eq_discovering stage)
    have transcript : (p.append (.answer text)).finishCall.transcript =
        p.transcript.dropPending.append (.assistant (some text) none) := by
      rw [Transcript.dropPending_of_not_hasPending free]
      rfl
    exact c.of_answered pursued transcript (c.isEmpty_of_free free) rfl
  | synthesized payload =>
    have pursued := c.pursues_of_reply accepted stage (by simp [Reply.operation])
    exact c.of_called rfl rfl rfl rfl rfl rfl (by simp [continueCall]) fun _ => pursued
  | deliveredSelection link _ =>
    have pursued := c.pursues_of_reply accepted stage (by simp [Reply.operation])
    exact c.of_answered pursued rfl rfl rfl
  | deliveredTable link free =>
    have pursued := c.pursues_of_reply accepted stage (by simp [Reply.operation])
    have transcript : (p.append (.result link)).finishCall.transcript =
        p.transcript.dropPending.append (.assistant none (some link)) := by
      rw [Transcript.dropPending_of_not_hasPending free]
      rfl
    exact c.of_answered pursued transcript (c.isEmpty_of_free free) rfl
  | reported _ => exact c.of_released rfl rfl rfl rfl (finishCall_stage_ne_discovering p)

theorem Causal.rule (c : Causal h p) (r : Run variant h p)
    (faithful : History.Faithful (⟨p, m, es⟩ :: h)) (step : Rule p m q es) :
    Causal (⟨p, m, es⟩ :: h) q := by
  cases step with
  | ignored _ ignored => exact c.of_same r (.ignored _ ignored) rfl rfl rfl rfl rfl
  | refused _ _ refused => exact c.of_same r (.refused _ _ refused) rfl rfl rfl rfl rfl
  | linkOpened _ _ link => exact c.of_same r (.linkOpened _ _ link) rfl rfl rfl rfl rfl
  | opened session isClosed o =>
    have step := Rule.opened session isClosed o
    cases o with
    | held _ => exact c.of_same r step rfl rfl rfl rfl rfl
    | loading _ => exact c.of_same r step rfl rfl rfl rfl rfl
  | switched _ _ _ o =>
    cases o with
    | held _ => exact causal_blank rfl rfl rfl
    | loading _ => exact causal_blank rfl rfl rfl
  | closed _ => exact causal_blank rfl rfl rfl
  | drafted text isOpen =>
    have step := Rule.drafted text isOpen
    obtain ⟨dirty, same⟩ := p.setDraft_eq text
    rw [same] at step ⊢
    exact c.of_same r step rfl rfl rfl rfl rfl
  | toggled _ _ waiting held =>
    exact c.of_same r (.toggled _ _ waiting held) rfl rfl (isEmpty_setAt _ _ _) rfl rfl
  | missed _ _ waiting held =>
    exact c.of_same r (.missed _ _ waiting held) rfl rfl (isEmpty_setAt _ _ _) rfl rfl
  | toggledAll _ waiting =>
    exact c.of_same r (.toggledAll _ waiting) rfl rfl (isEmpty_setAll _ _) rfl rfl
  | selected _ chart isOpen known =>
    exact c.of_same r (.selected _ chart isOpen known) rfl rfl rfl rfl rfl
  | prompted _ _ accepted _ =>
    exact c.of_asked (submission_eq_accepted accepted).2.1 rfl rfl rfl rfl rfl rfl
  | tabled _ accepted =>
    exact c.of_asked (submission_eq_accepted accepted).2.1 rfl rfl rfl rfl rfl rfl
  | confirmed waiting _ _ =>
    refine c.of_called rfl rfl rfl rfl rfl rfl (by simp [started, continueCall]) fun _ => ?_
    exact c.checklist (r.gated.hasPending_of_awaiting waiting)
  | reportBegun _ _ _ _ _ _ =>
    -- a report answers no question, so nothing is claimed of what its reply pursues
    refine c.of_called rfl rfl rfl rfl rfl rfl (by simp [started, continueCall]) fun other => ?_
    exact absurd rfl other
  | contextLoaded _ _ accepted =>
    exact c.of_same r (.contextLoaded _ _ accepted) rfl rfl rfl rfl rfl
  | contextLost _ _ accepted =>
    exact c.of_same r (.contextLost _ _ accepted) rfl rfl rfl rfl rfl
  | completed t accepted step =>
    exact c.completing accepted (c.stage_of_reply faithful accepted) step

theorem Run.causal (r : Run variant h p) (faithful : h.Faithful) : Causal h p := by
  induction r using Run.invariant with
  | new => exact causal_new variant
  | rule r c _ step => exact (c faithful.2).rule r faithful step
  | repainted _ c =>
    have c := c faithful
    exact ⟨c.orderly, c.offered, c.unoffered, c.kind, c.chain, c.checklist⟩

/-! ## The transcript -/

/-- How a step changes the transcript: not at all, by emptying it, by appending the question it
puts, or by appending another entry right behind the question that its message goes on with. That
question is then the one put last, and a checklist that stood behind it is gone. -/
inductive Grows (h : History) (p : Panel) (e : Event) : Transcript → Prop where
  | kept : e.entries = [] → Grows h p e p.transcript
  | emptied : e.entries = [] → Grows h p e {}
  | asked (text : String) : e.entries = [.user text] →
      Grows h p e (p.transcript.append (.user text))
  | replied {t : Transcript} (pre : List Entry) (question : Question) (entry : Entry) :
      e.entries = [entry] → entry.question? = none →
      p.transcript.dropPending.entries = pre ++ [.user question.text] →
      t.entries = pre ++ [.user question.text, entry] →
      h.root e.message = some question → h.lastQuestion = some question → Grows h p e t

/-- An entry other than a question is appended behind the question pursued. -/
theorem Pursues.grows {e : Event} {t : Transcript} (a : Pursues h p e.message) (entry : Entry)
    (shown : e.entries = [entry]) (reply : entry.question? = none)
    (ht : t = p.transcript.dropPending.append entry) : Grows h p e t := by
  obtain ⟨pre, question, ends, root, last⟩ := a
  refine .replied pre question entry shown reply ends ?_ root last
  rw [ht, Transcript.entries_append, ends, List.append_assoc]
  rfl

theorem Causal.grows_of_completing (c : Causal h p) {t : Ticket}
    {reply : Reply TransportFailure} (accepted : p.accepts t = true)
    (stage : p.stage.operation? = some reply.operation) (step : Completing p reply q es) :
    Grows h p ⟨p, .completed t reply, es⟩ q.transcript := by
  cases step with
  | offered _ _ =>
    have pursued := c.pursues_of_reply accepted stage (by simp [Reply.operation])
    refine pursued.grows .selectionPrompt rfl rfl ?_
    rw [Transcript.dropPending_of_not_hasPending (c.unoffered (stage_eq_discovering stage))]
    rfl
  | answered text =>
    have pursued := c.pursues_of_reply accepted stage (by simp [Reply.operation])
    refine pursued.grows (.answer text) rfl rfl ?_
    rw [Transcript.dropPending_of_not_hasPending (c.unoffered (stage_eq_discovering stage))]
    rfl
  | deliveredSelection link _ =>
    have pursued := c.pursues_of_reply accepted stage (by simp [Reply.operation])
    exact pursued.grows (.result link) rfl rfl rfl
  | deliveredTable link free =>
    have pursued := c.pursues_of_reply accepted stage (by simp [Reply.operation])
    refine pursued.grows (.result link) rfl rfl ?_
    rw [Transcript.dropPending_of_not_hasPending free]
    rfl
  | _ => exact .kept rfl

theorem entries_closing (p : Panel) : p.closing.filterMap Effect.entry? = [] := by
  unfold closing
  split <;> rfl

theorem Causal.grows (c : Causal h p) (faithful : History.Faithful (⟨p, m, es⟩ :: h))
    (step : Rule p m q es) : Grows h p ⟨p, m, es⟩ q.transcript := by
  cases step with
  | opened _ _ o => cases o <;> exact .kept rfl
  | switched _ _ _ o =>
    cases o with
    | held _ =>
      refine .emptied ?_
      rw [Event.entries, List.filterMap_append, entries_closing]
      rfl
    | loading _ =>
      refine .emptied ?_
      rw [Event.entries, List.filterMap_append, entries_closing]
      rfl
  | closed _ => exact .emptied (entries_closing p)
  | drafted text _ =>
    obtain ⟨dirty, same⟩ := p.setDraft_eq text
    rw [same]
    exact .kept rfl
  | prompted prompt _ _ _ => exact .asked prompt rfl
  | tabled prompt _ => exact .asked prompt rfl
  | completed t accepted step =>
    exact c.grows_of_completing accepted (c.stage_of_reply faithful accepted) step
  | _ => exact .kept rfl

/-- Throughout a run with faithful replies the transcript is made of questions, each with at most
one answer, and perhaps a last one whose checklist waits; a checklist stands in it exactly while
candidates are held; and every answer or checklist is appended right behind the question whose
submission started the chain of calls that brought it. -/
theorem transcript_follows_questions (r : Run variant h p) (faithful : h.Faithful) :
    p.transcript.Orderly ∧ (p.transcript.hasPending = true ↔ p.candidates.items ≠ []) ∧
      ∀ m, History.Faithful (⟨p, m, (p.step m).effects⟩ :: h) →
        Grows h p ⟨p, m, (p.step m).effects⟩ (p.step m).panel.transcript := by
  have c := r.causal faithful
  refine ⟨c.orderly, ?_, fun m faithful' => c.grows faithful' (step_allowed p m)⟩
  rw [c.offered]
  simp [CandidateSet.isEmpty]

/-- A chart is being delivered for the checklist of the first question. -/
def delivering : List Message :=
  [.opened "a", .draftChanged " why ", .promptSubmitted,
    .completed ⟨0, 1⟩ (.discovery (.ok (.candidates ["x", "y"]))), .allToggled true,
    .selectionConfirmed, .completed ⟨0, 2⟩ (.synthesis (.ok .null))]

theorem transcript_follows_questions_delivering :
    let told := tellAll ([], .new .metricDiscovery) delivering
    let reply := Message.completed ⟨0, 3⟩ (.delivery (.ok "link"))
    told.1.Faithful ∧ told.2.transcript.entries = [.user "why", .selectionPrompt] ∧
      told.2.transcript.Orderly ∧ told.2.candidates.items ≠ [] ∧
      Grows told.1 told.2 ⟨told.2, reply, (told.2.step reply).effects⟩
        (told.2.step reply).panel.transcript ∧
      (told.2.step reply).panel.transcript.entries = [.user "why", .result "link"] := by
  intro told reply
  have faithful : told.1.Faithful := by decide
  obtain ⟨orderly, offered, grows⟩ :=
    transcript_follows_questions (Run.new.tellAll delivering) faithful
  exact ⟨faithful, by decide, orderly, offered.mp (by decide), grows reply (by decide), by decide⟩

end AnalysisPanel.Panel
