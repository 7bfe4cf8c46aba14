import AnalysisPanel.Panel.View
import AnalysisPanel.Proofs.Panel.Chains
import AnalysisPanel.Proofs.Panel.Loading

/-! Starts of chains: exactly when a request of the user starts a call, and what the start does
before the call goes out. -/

namespace AnalysisPanel

/-- Whether a message starts a call if it is accepted. -/
def Message.begins : Message → Call → Bool
  | .promptSubmitted, .discover _ => true
  | .tableSubmitted, .synthesize (.prompt _) => true
  | .selectionConfirmed, .synthesize (.selection _) => true
  | .reportRequested, .generateReport _ _ => true
  | _, _ => false

theorem CandidateSet.approvedLabels_ne_nil_iff (cs : CandidateSet) :
    cs.approvedLabels ≠ [] ↔ ∃ c ∈ cs.items, c.approved = true := by
  simp [approvedLabels]

namespace Panel

variable {variant : Variant} {h : History} {p q : Panel} {m : Message} {es : List Effect}

/-! ## Conditions -/

/-- The draft can be put as a question. -/
structure MaySubmit (p : Panel) : Prop where
  isOpen : p.isOpen = true
  unprompted : p.transcript.hasPending = false
  free : p.isBusy = false
  worded : Text.trimmed p.draft ≠ ""

/-- A message starts a call. -/
def MayStart (p : Panel) : Message → Prop
  | .promptSubmitted => p.MaySubmit ∧ (p.variant = .metricDiscovery ∨ p.selected.isSome = true)
  | .tableSubmitted => p.MaySubmit
  | .selectionConfirmed =>
    p.stage = .awaitingSelection ∧ ∃ c ∈ p.candidates.items, c.approved = true
  | .reportRequested => p.view.canRequestReport = true
  | _ => False

theorem submission_eq_accepted_iff {prompt : String} :
    p.submission = .accepted prompt ↔ p.MaySubmit ∧ prompt = Text.trimmed p.draft := by
  constructor
  · intro accepted
    obtain ⟨isOpen, unprompted, free, rfl, worded⟩ := submission_eq_accepted accepted
    exact ⟨⟨isOpen, unprompted, free, worded⟩, rfl⟩
  · rintro ⟨may, rfl⟩
    simp only [submission, may.isOpen, may.unprompted, may.free, may.worded, Bool.not_true,
      Bool.false_eq_true, if_false]

theorem canRequestReport_iff :
    p.view.canRequestReport = true ↔
      p.isOpen = true ∧ p.selectedChart?.isSome = true ∧ p.isBusy = false := by
  simp [view, and_assoc]

theorem discoverRequest?_isSome_iff (prompt : String) :
    (p.discoverRequest? prompt).isSome = true ↔
      p.variant = .metricDiscovery ∨ p.selectedChart?.isSome = true := by
  unfold discoverRequest?
  split <;> simp [*]

/-- A selected chart can be looked up. -/
theorem Charted.isSome_selectedChart? (c : Charted p) :
    p.selectedChart?.isSome = p.selected.isSome := by
  cases selected : p.selected with
  | none =>
    rw [selectedChart?_of_unselected selected]
    rfl
  | some id =>
    obtain ⟨chart, known⟩ := c id selected
    rw [selectedChart?, selected]
    exact congrArg Option.isSome known

/-- An open panel has a session, whether its context has come or not. -/
theorem Run.session_of_isOpen (r : Run variant h p) (isOpen : p.isOpen = true) :
    ∃ session, p.session = some session := by
  cases pending : p.bootstrap with
  | none =>
    obtain ⟨session, on, -⟩ := r.contextual.shown isOpen pending
    exact ⟨session, on⟩
  | some t =>
    obtain ⟨-, session, on, -⟩ := r.contextual.loading t pending
    exact ⟨session, on⟩

/-! ## Starting -/

/-- What is asked for when a message starts a call. -/
def starting (p : Panel) (m : Message) (call : Call) : List Effect :=
  .busyChanged true :: (p.questionOf m).flatMap showing ++ [.issue p.nextTicket call]

/-- Only a message under its condition starts its call. -/
theorem Rule.mayStart (step : Rule p m q es) (charted : Charted p) {t : Ticket} {call : Call}
    (begins : m.begins call = true) (issued : .issue t call ∈ es) : p.MayStart m := by
  cases step with
  | ignored _ _ => cases issued
  | refused _ _ _ => exact absurd issued (by simp)
  | prompted prompt request accepted put =>
    refine ⟨(submission_eq_accepted_iff.mp accepted).1, ?_⟩
    rw [← charted.isSome_selectedChart?, ← discoverRequest?_isSome_iff prompt, put]
    rfl
  | tabled prompt accepted => exact (submission_eq_accepted_iff.mp accepted).1
  | confirmed waiting approved _ =>
    exact ⟨waiting, p.candidates.approvedLabels_ne_nil_iff.mp approved⟩
  | reportBegun session chart isOpen known _ free =>
    exact canRequestReport_iff.mpr ⟨isOpen, by rw [known]; rfl, free⟩
  | _ => cases begins

/-- A message under its condition starts its call. -/
theorem Run.rule_of_mayStart (r : Run variant h p) (may : p.MayStart m) :
    ∃ call q, m.begins call = true ∧ Rule p m q (p.starting m call) ∧
      q.draft = if m.submitsDraft then "" else p.draft := by
  cases m with
  | promptSubmitted =>
    obtain ⟨may, puts⟩ := may
    have accepted := submission_eq_accepted_iff.mpr ⟨may, rfl⟩
    rw [← r.charted.isSome_selectedChart?, ← discoverRequest?_isSome_iff (Text.trimmed p.draft)]
      at puts
    obtain ⟨request, put⟩ := Option.isSome_iff_exists.mp puts
    exact ⟨.discover request, _, rfl, .prompted _ request accepted put, rfl⟩
  | tableSubmitted =>
    have accepted := submission_eq_accepted_iff.mpr ⟨may, rfl⟩
    exact ⟨.synthesize (.prompt (Text.trimmed p.draft)), _, rfl, .tabled _ accepted, rfl⟩
  | selectionConfirmed =>
    obtain ⟨waiting, some⟩ := may
    have approved := p.candidates.approvedLabels_ne_nil_iff.mpr some
    exact ⟨.synthesize (.selection p.candidates.approvedLabels), _, rfl,
      .confirmed waiting approved (r.gated.free_of_awaiting waiting), rfl⟩
  | reportRequested =>
    obtain ⟨isOpen, shown, free⟩ := canRequestReport_iff.mp may
    obtain ⟨chart, known⟩ := Option.isSome_iff_exists.mp shown
    obtain ⟨session, on⟩ := r.session_of_isOpen isOpen
    exact ⟨.generateReport session p.transcript.history, _, rfl,
      .reportBegun session chart isOpen known on free, rfl⟩
  | _ => exact may.elim

/-- Throughout a run, a message starts its call exactly under its condition: a prompt or a table
when the panel is open, no checklist is up, no call is in flight and the draft is not blank (a
prompt about a chart also needs one that is selected), a selection when one is awaited with
something approved, and a report exactly when the view offers it. The start announces that the
panel is busy, shows the draft as a question if it was submitted, and then issues just its call;
only a submission empties the draft. -/
theorem starts_iff (r : Run variant h p) (m : Message) :
    ((∃ t call, m.begins call = true ∧ .issue t call ∈ (p.step m).effects) ↔ p.MayStart m) ∧
      (p.MayStart m → ∃ call, m.begins call = true ∧
        (p.step m).effects =
          .busyChanged true ::
            (if m.submitsDraft then
              [.turnAppended (.user (Text.trimmed p.draft)), .scrollToBottom] else []) ++
            [.issue p.nextTicket call] ∧
        (p.step m).panel.draft = if m.submitsDraft then "" else p.draft) := by
  have starts (may : p.MayStart m) : ∃ call, m.begins call = true ∧
      (p.step m).effects = p.starting m call ∧
      (p.step m).panel.draft = if m.submitsDraft then "" else p.draft := by
    obtain ⟨call, q, begins, step, draft⟩ := r.rule_of_mayStart may
    obtain ⟨panel, effects⟩ := step.step
    exact ⟨call, begins, effects, panel ▸ draft⟩
  refine ⟨⟨?_, fun may => ?_⟩, fun may => ?_⟩
  · rintro ⟨t, call, begins, issued⟩
    exact (step_allowed p m).mayStart r.charted begins issued
  · obtain ⟨call, begins, effects, -⟩ := starts may
    refine ⟨p.nextTicket, call, begins, ?_⟩
    rw [effects, starting]
    exact List.mem_append_right _ (.head _)
  · obtain ⟨call, begins, effects, draft⟩ := starts may
    refine ⟨call, begins, effects.trans ?_, draft⟩
    rw [starting, questionOf]
    split <;> rfl

/-- A draft waits while a selection is confirmed: the selection starts its call and leaves the
draft, and the prompt may not start one. -/
theorem starts_iff_confirming :
    let told := tellAll ([], .new .metricDiscovery)
      [.opened "a", .draftChanged "why", .promptSubmitted,
        .completed ⟨0, 1⟩ (.discovery (.ok (.candidates ["x"]))), .allToggled true,
        .draftChanged "where"]
    told.2.MayStart .selectionConfirmed ∧
      (∃ call, (told.2.step .selectionConfirmed).effects =
        [.busyChanged true, .issue ⟨0, 2⟩ call]) ∧
      (told.2.step .selectionConfirmed).panel.draft = "where" ∧
      ¬ told.2.MayStart .promptSubmitted ∧
      ¬ ∃ t request, .issue t (.discover request) ∈ (told.2.step .promptSubmitted).effects := by
  intro told
  have run : Run .metricDiscovery told.1 told.2 := Run.new.tellAll _
  have may : told.2.MayStart .selectionConfirmed := ⟨by decide, ⟨"x", true⟩, by decide, rfl⟩
  have pending : told.2.transcript.hasPending = true := by decide
  have mayNot : ¬ told.2.MayStart .promptSubmitted := by
    intro may
    rw [may.1.unprompted] at pending
    cases pending
  obtain ⟨call, -, effects, draft⟩ := (starts_iff run .selectionConfirmed).2 may
  refine ⟨may, ⟨call, effects⟩, draft.trans (by decide), mayNot, ?_⟩
  rintro ⟨t, request, issued⟩
  exact mayNot ((starts_iff run .promptSubmitted).1.mp ⟨t, .discover request, rfl, issued⟩)

end Panel

end AnalysisPanel
