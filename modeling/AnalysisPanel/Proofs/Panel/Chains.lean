import AnalysisPanel.Proofs.Panel.Execution
import AnalysisPanel.Proofs.Panel.Gate

/-! Chains of calls. A chain holds the gate from its start to its end, and nothing touches
transcript or checklist while the gate is held; so a chain that fails leaves no trace but its
question. -/

namespace AnalysisPanel

/-- Messages that start a chain of calls if they are accepted. -/
def Message.starts : Message → Bool
  | .promptSubmitted | .tableSubmitted | .selectionConfirmed | .reportRequested => true
  | _ => false

/-- Messages that put the draft as a question. -/
def Message.submitsDraft : Message → Bool
  | .promptSubmitted | .tableSubmitted => true
  | _ => false

namespace Panel

variable {variant : Variant} {h before since : History} {p q : Panel} {m : Message}
  {es : List Effect} {start : Event} {t : Ticket}

/-! ## The last step of a run -/

/-- A run that ends with a step is a run up to it; repaints after the step change only whether
another repaint is due. -/
theorem Run.of_cons {e : Event} (r : Run variant (e :: h) q) :
    Run variant h e.before ∧ e.effects = (e.before.step e.message).effects ∧
      ∃ dirty, q = { (e.before.step e.message).panel with dirty } := by
  generalize told : e :: h = h' at r
  induction r with
  | new => cases told
  | tell m r _ =>
    cases told
    exact ⟨r, rfl, _, rfl⟩
  | repainted _ ih =>
    obtain ⟨r, effects, dirty, same⟩ := ih told
    refine ⟨r, effects, false, ?_⟩
    rw [same]
    rfl

theorem Run.of_append {later : History} (r : Run variant (later ++ h) q) :
    ∃ p, Run variant h p := by
  induction later generalizing q with
  | nil => exact ⟨q, r⟩
  | cons e later ih => exact ih r.of_cons.1

/-! ## Chains -/

/-- The calls of the chain that a step starts, in the steps since: the call that the step issues
itself, and each call that is issued on the reply to one of the chain. -/
inductive Chain (start : Event) : History → Ticket → Prop where
  | begun {t : Ticket} {call : Call} : (t, call) ∈ gatedCallsOf start.effects → Chain start [] t
  | waited {since : History} {t : Ticket} (e : Event) : Chain start since t →
      Chain start (e :: since) t
  | followed {since : History} {t t' : Ticket} {call : Call} (e : Event)
      (reply : Reply TransportFailure) : Chain start since t → e.message = .completed t reply →
      (t', call) ∈ gatedCallsOf e.effects → Chain start (e :: since) t'

theorem mem_callsOf_of_gated {es : List Effect} {c : Ticket × Call} (gated : c ∈ gatedCallsOf es) :
    c ∈ callsOf es :=
  (List.mem_filter.mp gated).1

theorem Chain.issued (c : Chain start since t) (before : History) :
    ∃ call, (t, call) ∈ History.issued (since ++ start :: before) := by
  induction c with
  | begun called => exact ⟨_, List.mem_append_left _ (mem_callsOf_of_gated called)⟩
  | waited e _ ih =>
    obtain ⟨call, issued⟩ := ih
    exact ⟨call, List.mem_append_right _ issued⟩
  | followed e reply _ _ called _ =>
    exact ⟨_, List.mem_append_left _ (mem_callsOf_of_gated called)⟩

theorem Chain.started (c : Chain start since t) : gatedCallsOf start.effects ≠ [] := by
  induction c with
  | begun called => exact List.ne_nil_of_mem called
  | waited _ _ ih => exact ih
  | followed _ _ _ _ _ ih => exact ih

/-- A call that is in flight after a step was in flight before it, unless the step issued it. -/
theorem Gated.inFlight_before (g : Gated q) (step : Rule p m q es)
    (inFlight : q.inFlight = some t) (old : ∀ c ∈ callsOf es, c.1 ≠ t) :
    p.inFlight = some t := by
  have waits := g.stage.trans (g.busy_of_inFlight inFlight)
  obtain ⟨op, stage⟩ := Option.isSome_iff_exists.mp waits
  rcases step.waited (.inl ⟨inFlight, stage⟩) with ⟨call, new, -, -⟩ | ⟨awaited, -⟩
  · exact absurd rfl (old _ new)
  · rcases awaited with ⟨held, -⟩ | ⟨-, load⟩
    · exact held
    · rw [load] at stage
      exact absurd stage q.stage.operation?_ne_loadSession

/-- A call that is issued on a reply is issued by taking it. -/
theorem Rule.inFlight_of_follows {reply : Reply TransportFailure}
    (step : Rule p (.completed t reply) q es) (follows : gatedCallsOf es ≠ []) :
    p.inFlight = some t := by
  have issues := step.issues
  rw [gatedCallsOf, ← callsOf_demandsOf, ← gatedCallsOf] at follows
  generalize demandsOf es = ds at issues follows
  cases issues with
  | called call passes _ =>
    rcases passes with ⟨-, silent⟩ | taken
    · cases silent
    · obtain ⟨t', reply', same, -, accepted⟩ := takesReply_eq_true taken
      cases same
      exact (accepts_iff.mp accepted).2
  | _ => exact absurd rfl follows

/-! ## Nothing is touched while the gate is held -/

theorem Gated.kept_in_flight (g : Gated p) (step : Rule p m q es) {t' : Ticket}
    (before : p.inFlight = some t) (after : q.inFlight = some t') :
    q.transcript = p.transcript ∧ q.candidates = p.candidates := by
  have still := (g.rule step).busy_of_inFlight after
  have held (free : p.isBusy = false) : False := by
    rw [g.busy_of_inFlight before] at free
    cases free
  have away (waiting : p.stage = .awaitingSelection) : False :=
    held (g.free_of_awaiting waiting)
  cases step with
  | opened _ _ o => cases o <;> exact ⟨rfl, rfl⟩
  | switched _ _ _ o => cases o <;> cases still
  | closed _ => cases still
  | drafted text _ =>
    obtain ⟨dirty, same⟩ := p.setDraft_eq text
    rw [same]
    exact ⟨rfl, rfl⟩
  | toggled _ _ waiting _ => exact (away waiting).elim
  | missed _ _ waiting _ => exact (away waiting).elim
  | toggledAll _ waiting => exact (away waiting).elim
  | prompted _ _ accepted _ => exact (held (submission_eq_accepted accepted).2.2.1).elim
  | tabled _ accepted => exact (held (submission_eq_accepted accepted).2.2.1).elim
  | completed _ _ c =>
    cases c with
    | synthesized _ => exact ⟨rfl, rfl⟩
    | _ => cases still
  | _ => exact ⟨rfl, rfl⟩

/-- While a call of a chain is in flight, transcript and checklist are as the start left them. -/
theorem Chain.kept (c : Chain start since t) (r : Run variant (since ++ start :: before) p)
    (inFlight : p.inFlight = some t) :
    p.transcript = (start.before.step start.message).panel.transcript ∧
      p.candidates = (start.before.step start.message).panel.candidates := by
  induction c generalizing p with
  | begun _ =>
    obtain ⟨-, -, dirty, rfl⟩ := r.of_cons
    exact ⟨rfl, rfl⟩
  | @waited since t e c ih =>
    obtain ⟨r', effects, dirty, rfl⟩ := r.of_cons
    have step := step_allowed e.before e.message
    have earlier : e.before.inFlight = some t := by
      refine (r'.gated.rule step).inFlight_before step inFlight ?_
      rintro issued new rfl
      obtain ⟨call, old⟩ := c.issued before
      have older := r'.seq_lt_nextSeq _ old
      rw [(step.seq_eq issued new).1] at older
      exact Nat.lt_irrefl _ older
    obtain ⟨transcript, candidates⟩ := r'.gated.kept_in_flight step earlier inFlight
    obtain ⟨transcript', candidates'⟩ := ih r' earlier
    exact ⟨transcript.trans transcript', candidates.trans candidates'⟩
  | @followed since t t' call e reply _ brings called ih =>
    obtain ⟨r', effects, dirty, rfl⟩ := r.of_cons
    have step := step_allowed e.before e.message
    have earlier : e.before.inFlight = some t := by
      refine Rule.inFlight_of_follows (brings ▸ step) ?_
      rw [← brings, ← effects]
      exact List.ne_nil_of_mem called
    obtain ⟨transcript, candidates⟩ := r'.gated.kept_in_flight step earlier inFlight
    obtain ⟨transcript', candidates'⟩ := ih r' earlier
    exact ⟨transcript.trans transcript', candidates.trans candidates'⟩

/-! ## Starts and failures -/

/-- The question that a message adds to the transcript if it starts a chain. -/
def questionOf (p : Panel) (m : Message) : List Entry :=
  if m.submitsDraft then [.user (Text.trimmed p.draft)] else []

theorem Rule.of_starts (step : Rule p m q es) (starts : m.starts = true)
    (called : gatedCallsOf es ≠ []) :
    p.isBusy = false ∧ q.transcript.entries = p.transcript.entries ++ p.questionOf m ∧
      q.candidates = p.candidates := by
  cases step with
  | ignored _ _ => exact absurd rfl called
  | refused _ _ _ => exact absurd rfl called
  | prompted prompt _ accepted _ =>
    obtain ⟨-, -, free, rfl, -⟩ := submission_eq_accepted accepted
    exact ⟨free, rfl, rfl⟩
  | tabled prompt accepted =>
    obtain ⟨-, -, free, rfl, -⟩ := submission_eq_accepted accepted
    exact ⟨free, rfl, rfl⟩
  | confirmed _ _ free => exact ⟨free, (List.append_nil _).symm, rfl⟩
  | reportBegun _ _ _ _ _ free => exact ⟨free, (List.append_nil _).symm, rfl⟩
  | _ => cases starts

theorem hasPending_append_questionOf {t : Transcript} (p' : Panel) (m : Message)
    (entries : t.entries = p.transcript.entries ++ p'.questionOf m) :
    t.hasPending = p.transcript.hasPending := by
  unfold questionOf at entries
  split at entries
  · simp [Transcript.hasPending, entries, Entry.isSelectionPrompt]
  · simp [Transcript.hasPending, entries]

/-- A failure of a call that a chain made, whichever call it is: it lets the gate go, and the panel
is as it was before the chain, except for the question that started it. This holds whatever was told
in between, for had the panel been closed the failure would not have been accepted. -/
theorem failed_chain_leaves_question {failed : Event} {operation : Operation}
    {failure : TransportFailure}
    (r : Run variant (failed :: (since ++ start :: before)) q)
    (starts : start.message.starts = true) (chain : Chain start since t)
    (kind : operation ≠ .loadSession)
    (fails : failed.message = .completed t (.failed failure operation))
    (accepted : failed.before.accepts t = true) :
    start.before.isBusy = false ∧
      q.transcript.entries = start.before.transcript.entries ++
        (if start.message.submitsDraft then [.user (Text.trimmed start.before.draft)] else []) ∧
      q.candidates = start.before.candidates ∧ q.stage = start.before.stage ∧
      q.isBusy = false ∧ failed.effects = [.busyChanged false] := by
  obtain ⟨r', effects, dirty, rfl⟩ := r.of_cons
  obtain ⟨transcript, candidates⟩ := chain.kept r' (accepts_iff.mp accepted).2
  obtain ⟨panel, released⟩ := (Rule.completed t accepted (.failed operation failure kind)).step
  obtain ⟨_, begun⟩ := r'.of_append
  obtain ⟨origin, issued, -⟩ := begun.of_cons
  have called : gatedCallsOf (start.before.step start.message).effects ≠ [] := by
    rw [← issued]
    exact chain.started
  obtain ⟨free, entries, unmarked⟩ := (step_allowed _ start.message).of_starts starts called
  rw [fails, panel]
  refine ⟨free, ?_, candidates.trans unmarked, ?_, rfl, ?_⟩
  · rw [← questionOf, ← entries]
    exact congrArg Transcript.entries transcript
  · -- both panels are at rest, with a checklist up in both or in neither
    have pending := hasPending_append_questionOf _ _ entries
    rw [origin.gated.atRest free, stageAtRest, ← pending, ← transcript]
    rfl
  · rw [effects, fails, released]

/-- A checklist with an approved metric. -/
def approvingOne : List Message :=
  [.opened "a", .draftChanged "why", .promptSubmitted,
    .completed ⟨0, 1⟩ (.discovery (.ok (.candidates ["x", "y"]))), .candidateToggled 1 true]

/-- The selection is confirmed, a table is built, and its chart fails; meanwhile the user types and
tries to change the selection. The checklist is up again as it was. -/
theorem failed_chain_leaves_question_delivering :
    let told := tellAll ([], .new .metricDiscovery) approvingOne
    let failed := tellAll told
      [.selectionConfirmed, .draftChanged "where", .completed ⟨0, 2⟩ (.synthesis (.ok .null)),
        .allToggled false, .completed ⟨0, 3⟩ (.delivery (.error ⟨"gone"⟩))]
    told.2.isBusy = false ∧ told.2.stage = .awaitingSelection ∧
      failed.2.transcript.entries = told.2.transcript.entries ∧
      failed.2.candidates = told.2.candidates ∧ failed.2.stage = .awaitingSelection ∧
      failed.2.isBusy = false := by
  intro told failed
  let event (p : Panel) (m : Message) : Event := ⟨p, m, (p.step m).effects⟩
  let confirmed := (told.2.step .selectionConfirmed).panel
  let drafted := (confirmed.step (.draftChanged "where")).panel
  let built := (drafted.step (.completed ⟨0, 2⟩ (.synthesis (.ok .null)))).panel
  have run : Run .metricDiscovery
      (event built (.completed ⟨0, 3⟩ (.failed ⟨"gone"⟩ .deliver)) ::
        ([event built (.allToggled false),
            event drafted (.completed ⟨0, 2⟩ (.synthesis (.ok .null))),
            event confirmed (.draftChanged "where")] ++
          event told.2 .selectionConfirmed :: told.1)) failed.2 :=
    (Run.new.tellAll approvingOne).tellAll
      [.selectionConfirmed, .draftChanged "where", .completed ⟨0, 2⟩ (.synthesis (.ok .null)),
        .allToggled false, .completed ⟨0, 3⟩ (.failed ⟨"gone"⟩ .deliver)]
  have chain : Chain (event told.2 .selectionConfirmed)
      [event built (.allToggled false),
        event drafted (.completed ⟨0, 2⟩ (.synthesis (.ok .null))),
        event confirmed (.draftChanged "where")] ⟨0, 3⟩ :=
    .waited _ (.followed _ (.synthesis (.ok .null)) (.waited _ (.begun (.head _))) rfl (.head _))
  have waiting : told.2.stage = .awaitingSelection := by decide
  obtain ⟨free, entries, candidates, stage, released, -⟩ :=
    failed_chain_leaves_question run rfl chain (by decide) rfl (by decide)
  exact ⟨free, waiting, entries.trans (List.append_nil _), candidates, stage.trans waiting,
    released⟩

end Panel

end AnalysisPanel
