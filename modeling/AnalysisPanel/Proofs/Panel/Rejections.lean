import AnalysisPanel.Proofs.Panel.Chains
import AnalysisPanel.Proofs.Panel.Mirror

/-! Rejected messages. What a panel turns down or passes over leaves all of it as it was and asks
for nothing but a word to the user. The one exception is a toggle past the end of a checklist that
is up: it changes nothing that is shown, and yet asks for a repaint. -/

namespace AnalysisPanel.Panel

variable {p q : Panel} {m : Message} {es : List Effect} {index : Nat}

/-! ## Rejections -/

/-- A message that is rejected or passed over: a request that issues no call, a toggle of what is
not there or not awaited, a chart that is unknown, a reply nobody waits for, and what a panel that
is closed or on the session already has no use for. -/
def Rejects (p : Panel) (m : Message) : Prop :=
  match m with
  | .opened session => p.isOpen = true ∧ p.session = some session
  | .closed | .draftChanged _ => p.isOpen = false
  | .promptSubmitted | .tableSubmitted | .selectionConfirmed | .reportRequested =>
    callsOf (p.step m).effects = []
  | .candidateToggled index _ => p.stage ≠ .awaitingSelection ∨ p.candidates.size ≤ index
  | .allToggled _ => p.stage ≠ .awaitingSelection
  | .chartSelected id => p.isOpen = false ∨ p.context.chart? id = none
  | .linkActivated index => (p.transcript.get? index).bind Entry.link? = none
  | .completed t (.session _) => p.acceptsBootstrap t = false
  | .completed t _ => p.accepts t = false
  | .tick | .noOp => True

/-- A toggle past the end of the checklist while a selection is awaited. -/
def Misses (p : Panel) : Message → Prop
  | .candidateToggled index _ => p.stage = .awaitingSelection ∧ p.candidates.size ≤ index
  | _ => False

theorem holds_eq_false_iff {cs : CandidateSet} : cs.holds index = false ↔ cs.size ≤ index := by
  simp [CandidateSet.holds, CandidateSet.size]

theorem not_rejected_of_accepts {t : Ticket} {reply : Reply TransportFailure}
    (kind : reply.operation ≠ .loadSession) (accepted : p.accepts t = true) :
    ¬ p.Rejects (.completed t reply) := by
  intro rejected
  cases reply with
  | session result => exact kind rfl
  | _ => exact Bool.false_ne_true (rejected.symm.trans accepted)

theorem not_rejected_of_acceptsBootstrap {t : Ticket}
    {result : Except TransportFailure SessionContext} (accepted : p.acceptsBootstrap t = true) :
    ¬ p.Rejects (.completed t (.session result)) :=
  fun rejected => Bool.false_ne_true (rejected.symm.trans accepted)

/-! ## What they come to -/

theorem step_of_misses (missed : p.Misses m) :
    (p.step m).panel = { p with dirty := true } ∧ (p.step m).effects = [] := by
  cases m with
  | candidateToggled index approved =>
    obtain ⟨waiting, past⟩ := missed
    have missing := holds_eq_false_iff.mpr past
    obtain ⟨panel, effects⟩ := (Rule.missed index approved waiting missing).step
    rw [setAt_of_not_holds missing] at panel
    exact ⟨panel, effects⟩
  | _ => exact missed.elim

/-- A step that issues a call is no rejection of the request for it. -/
theorem Rule.calls_nil_of_rejected (step : Rule p m q es) (starts : m.starts = true)
    (rejected : p.Rejects m) : callsOf es = [] := by
  rw [← step.step.2]
  cases m with
  | promptSubmitted => exact rejected
  | tableSubmitted => exact rejected
  | selectionConfirmed => exact rejected
  | reportRequested => exact rejected
  | _ => cases starts

/-- Short of such a toggle, a rejection leaves the panel as it was. -/
theorem Rule.of_rejected (step : Rule p m q es) (rejected : p.Rejects m) (met : ¬ p.Misses m) :
    q = p ∧ (es = [] ∨ ∃ failure, es = [.showValidation failure]) := by
  have begun := step.calls_nil_of_rejected
  cases step with
  | ignored _ _ => exact ⟨rfl, .inl rfl⟩
  | refused _ failure _ => exact ⟨rfl, .inr ⟨failure, rfl⟩⟩
  | linkOpened _ _ link => exact absurd (link.symm.trans rejected) nofun
  | opened _ isClosed _ => exact absurd (rejected.1.symm.trans isClosed) nofun
  | switched _ _ other _ => exact absurd rejected.2 other
  | closed isOpen => exact absurd (isOpen.symm.trans rejected) nofun
  | drafted _ isOpen => exact absurd (isOpen.symm.trans rejected) nofun
  | toggled _ _ waiting held =>
    rcases rejected with away | past
    · exact absurd waiting away
    · exact absurd (held.symm.trans (holds_eq_false_iff.mpr past)) nofun
  | missed _ _ waiting missing => exact absurd ⟨waiting, holds_eq_false_iff.mp missing⟩ met
  | toggledAll _ waiting => exact absurd waiting rejected
  | selected _ _ isOpen known =>
    rcases rejected with isClosed | unknown
    · exact absurd (isOpen.symm.trans isClosed) nofun
    · exact absurd (known.symm.trans unknown) nofun
  | prompted _ _ _ _ => cases begun rfl rejected
  | tabled _ _ => cases begun rfl rejected
  | confirmed _ _ _ => cases begun rfl rejected
  | reportBegun _ _ _ _ _ _ => cases begun rfl rejected
  | contextLoaded _ _ accepted => exact absurd rejected (not_rejected_of_acceptsBootstrap accepted)
  | contextLost _ _ accepted => exact absurd rejected (not_rejected_of_acceptsBootstrap accepted)
  | completed _ accepted c =>
    exact absurd rejected (not_rejected_of_accepts c.operation_ne accepted)

/-- Whatever a panel rejects or passes over leaves every part of it as it was, exactly unless it is
a toggle past the end of the checklist that is awaited and no repaint was due: that asks for a
repaint and changes nothing else. At most the user is told why. -/
theorem rejected_keeps_panel_iff (rejected : p.Rejects m) :
    ((p.step m).panel = p ↔ ¬ (p.Misses m ∧ p.dirty = false)) ∧
      (p.Misses m → (p.step m).panel = { p with dirty := true }) ∧
      ((p.step m).effects = [] ∨
        ∃ failure, (p.step m).effects = [.showValidation failure]) := by
  by_cases missed : p.Misses m
  · obtain ⟨panel, effects⟩ := step_of_misses missed
    refine ⟨⟨?_, fun due => ?_⟩, fun _ => panel, .inl effects⟩
    · rintro same ⟨-, clean⟩
      rw [panel] at same
      exact absurd ((congrArg dirty same).trans clean) nofun
    · have dirty : p.dirty = true := by simpa [missed] using due
      rw [panel, ← dirty]
  · obtain ⟨panel, effects⟩ := (step_allowed p m).of_rejected rejected missed
    exact ⟨⟨fun _ due => missed due.1, fun _ => panel⟩, fun due => absurd due missed, effects⟩

/-- A discovery that suggests one metric. -/
def suggesting : List Message :=
  [.opened "a", .draftChanged "why", .promptSubmitted,
    .completed ⟨0, 1⟩ (.discovery (.ok (.candidates ["x"])))]

/-- The panel with one metric suggested, after its repaint. -/
def repainted : Panel := (tellAll ([], .new .metricDiscovery) suggesting).2.consumeDirty.2

/-- A second question is turned down while the selection is awaited, and a toggle past the end of
the checklist asks for a repaint. -/
theorem rejected_keeps_panel_iff_awaiting :
    (repainted.step .promptSubmitted).panel = repainted ∧
      (repainted.step .promptSubmitted).effects = [.showValidation .selectionPending] ∧
      (repainted.step (.candidateToggled 5 true)).panel = { repainted with dirty := true } ∧
      (repainted.step (.candidateToggled 5 true)).panel ≠ repainted := by
  have turned : repainted.Rejects .promptSubmitted := rfl
  have missed : repainted.Misses (.candidateToggled 5 true) := ⟨by decide, by decide⟩
  have past : repainted.Rejects (.candidateToggled 5 true) := .inr missed.2
  refine ⟨(rejected_keeps_panel_iff turned).1.mpr (fun due => due.1), rfl,
    (rejected_keeps_panel_iff past).2.1 missed, fun same => ?_⟩
  exact (rejected_keeps_panel_iff past).1.mp same ⟨missed, by decide⟩

/-- Rejections are not always silent: a toggle past the end of a checklist that was just painted
asks for a repaint. -/
theorem missed_toggle_repaints :
    ¬ ∀ variant h p m, Run variant h p → p.Rejects m →
      (p.step m).panel = p ∧
        ((p.step m).effects = [] ∨ ∃ failure, (p.step m).effects = [.showValidation failure]) := by
  intro keeps
  have run : Run .metricDiscovery _ repainted := (Run.new.tellAll suggesting).repainted
  have past : repainted.Rejects (.candidateToggled 5 true) := .inr (by decide)
  have same := (keeps _ _ _ _ run past).1
  exact absurd (congrArg dirty same) (by decide)

end AnalysisPanel.Panel
