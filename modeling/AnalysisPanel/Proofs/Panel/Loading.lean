import AnalysisPanel.Proofs.Panel.Context
import AnalysisPanel.Proofs.Panel.Isolation

/-! Conversations while a context loads. Until the context of its session has come, a panel has no
chart to select, so nothing it is told in the meantime can hang on the context: it comes to the same
whether the context is there before or afterwards. -/

namespace AnalysisPanel

/-- Messages that neither look for a chart nor open, close or load a session. -/
def Message.sparesContext : Message → Bool
  | .opened _ | .closed | .chartSelected _ | .completed _ (.session _) => false
  | _ => true

namespace Panel

variable {variant : Variant} {h : History} {p q : Panel} {m : Message} {es : List Effect}
  {t : Ticket} {context : SessionContext} {contextFor : Option SessionId}

/-! ## Selected charts -/

/-- The chart that is selected is in the context. -/
def Charted (p : Panel) : Prop :=
  ∀ id, p.selected = some id → ∃ chart, p.context.chart? id = some chart

theorem charted_of_unselected (unselected : p.selected = none) : Charted p := by
  intro id selected
  rw [unselected] at selected
  cases selected

theorem Charted.unselected (c : Charted p) (bare : p.context = {}) : p.selected = none := by
  cases selected : p.selected with
  | none => rfl
  | some id =>
    obtain ⟨chart, known⟩ := c id selected
    rw [bare] at known
    cases known

/-- A step leaves the chart selected in the context: the context is replaced only where nothing is
selected. -/
theorem Charted.rule (c : Charted p) (blank : p.isOpen = false → p.selected = none)
    (bare : ∀ t, p.bootstrap = some t → p.context = {}) (step : Rule p m q es) : Charted q := by
  cases step with
  | opened _ isClosed o => cases o <;> exact charted_of_unselected (blank isClosed)
  | switched _ _ _ o => cases o <;> exact charted_of_unselected rfl
  | closed _ => exact charted_of_unselected rfl
  | drafted text _ =>
    obtain ⟨dirty, same⟩ := p.setDraft_eq text
    rw [same]
    exact c
  | selected id chart _ known =>
    rintro _ ⟨⟩
    exact ⟨chart, known⟩
  | contextLoaded t _ accepted =>
    exact charted_of_unselected (c.unselected (bare t (acceptsBootstrap_iff.mp accepted).2))
  | contextLost t _ accepted =>
    exact charted_of_unselected (c.unselected (bare t (acceptsBootstrap_iff.mp accepted).2))
  | completed _ _ c' => cases c' <;> exact c
  | _ => exact c

theorem Run.charted (r : Run variant h p) : Charted p := by
  induction r using Run.invariant with
  | new => exact charted_of_unselected rfl
  | rule r c _ step =>
    exact c.rule (fun closed => (r.blank closed).selected)
      (fun t pending => (r.contextual.loading t pending).1) step
  | repainted _ c => exact c

/-- Nothing is selected while a context loads. -/
theorem Run.unselected_of_loading (r : Run variant h p) (pending : p.bootstrap = some t) :
    p.selected = none :=
  r.charted.unselected (r.contextual.loading t pending).1

/-! ## Steps with another context -/

/-- The panel with a context that has come. -/
def holding (p : Panel) (context : SessionContext) (contextFor : Option SessionId) : Panel :=
  { p with context, contextFor, bootstrap := none, dirty := true }

theorem selectedChart?_of_unselected (unselected : p.selected = none) :
    p.selectedChart? = none := by
  rw [selectedChart?, unselected]
  rfl

theorem discoverRequest?_holding (unselected : p.selected = none) (prompt : String) :
    (p.holding context contextFor).discoverRequest? prompt = p.discoverRequest? prompt := by
  have same : (p.holding context contextFor).selectedChart? = p.selectedChart? :=
    (selectedChart?_of_unselected (p := p.holding context contextFor) unselected).trans
      (selectedChart?_of_unselected unselected).symm
  unfold discoverRequest?
  rw [same]
  rfl

theorem setDraft_holding (p : Panel) (text : String) :
    (p.holding context contextFor).setDraft text =
      (p.setDraft text).holding context contextFor := by
  unfold setDraft
  rw [apply_ite (holding · context contextFor)]
  rfl

theorem Ignores.holding (ignored : p.Ignores m) (unselected : p.selected = none)
    (spares : m.sparesContext = true) : (p.holding context contextFor).Ignores m := by
  cases m with
  | opened session => cases spares
  | closed => cases spares
  | chartSelected id => cases spares
  | reportRequested =>
    rcases ignored with isClosed | ⟨known, -⟩
    · exact .inl isClosed
    · exact absurd (selectedChart?_of_unselected unselected) known
  | completed t reply =>
    cases reply with
    | session result => cases spares
    | _ => exact ignored
  | _ => exact ignored

theorem Refuses.holding {failure : ValidationFailure} (refused : p.Refuses failure m)
    (unselected : p.selected = none) : (p.holding context contextFor).Refuses failure m := by
  cases m with
  | promptSubmitted =>
    rcases refused with refused | ⟨mute, prompt, accepted, unput⟩
    · exact .inl refused
    · exact .inr ⟨mute, prompt, accepted, (discoverRequest?_holding unselected prompt).trans unput⟩
  | reportRequested =>
    obtain ⟨missing, isOpen, -⟩ := refused
    exact ⟨missing, isOpen, selectedChart?_of_unselected unselected⟩
  | _ => exact refused

theorem Completing.holding {reply : Reply TransportFailure} (c : Completing p reply q es) :
    Completing (p.holding context contextFor) reply (q.holding context contextFor) es := by
  cases c with
  | failed operation failure kind => exact .failed operation failure kind
  | offered labels some => exact .offered labels some
  | nothingFound => exact .nothingFound
  | answered text => exact .answered text
  | synthesized payload => exact .synthesized payload
  | deliveredSelection link pending => exact .deliveredSelection link pending
  | deliveredTable link free => exact .deliveredTable link free
  | reported content => exact .reported content

/-- A step of a panel with nothing selected is a step also with another context. -/
theorem Rule.holding (step : Rule p m q es) (unselected : p.selected = none)
    (spares : m.sparesContext = true) (context : SessionContext)
    (contextFor : Option SessionId) :
    Rule (p.holding context contextFor) m (q.holding context contextFor) es := by
  cases step with
  | ignored _ ignored => exact .ignored _ (ignored.holding unselected spares)
  | refused _ failure refused => exact .refused _ failure (refused.holding unselected)
  | linkOpened index url link => exact .linkOpened index url link
  | opened _ _ _ => cases spares
  | switched _ _ _ _ => cases spares
  | closed _ => cases spares
  | drafted text isOpen =>
    rw [← setDraft_holding]
    exact .drafted text isOpen
  | toggled index approved waiting held => exact .toggled index approved waiting held
  | missed index approved waiting missing => exact .missed index approved waiting missing
  | toggledAll approved waiting => exact .toggledAll approved waiting
  | selected _ _ _ _ => cases spares
  | prompted prompt request accepted put =>
    exact .prompted prompt request accepted ((discoverRequest?_holding unselected prompt).trans put)
  | tabled prompt accepted => exact .tabled prompt accepted
  | confirmed waiting some free => exact .confirmed waiting some free
  | reportBegun _ chart _ known _ _ =>
    rw [selectedChart?_of_unselected unselected] at known
    cases known
  | contextLoaded _ _ _ => cases spares
  | contextLost _ _ _ => cases spares
  | completed t accepted c => exact .completed t accepted c.holding

/-- What a load is accepted by stays as it is. -/
theorem Rule.awaits_context (step : Rule p m q es) (spares : m.sparesContext = true) :
    q.isOpen = p.isOpen ∧ q.bootstrap = p.bootstrap ∧ q.session = p.session := by
  cases step with
  | opened _ _ _ => cases spares
  | switched _ _ _ _ => cases spares
  | closed _ => cases spares
  | drafted text _ =>
    obtain ⟨dirty, same⟩ := p.setDraft_eq text
    rw [same]
    exact ⟨rfl, rfl, rfl⟩
  | contextLoaded _ _ _ => cases spares
  | contextLost _ _ _ => cases spares
  | completed _ _ c => cases c <;> exact ⟨rfl, rfl, rfl⟩
  | _ => exact ⟨rfl, rfl, rfl⟩

/-! ## Loads beside a conversation -/

/-- The session that a load leaves the context held for. -/
def heldFor (session : Option SessionId) : Except TransportFailure SessionContext → Option SessionId
  | .ok _ => session
  | .error _ => none

theorem step_load (accepted : p.acceptsBootstrap t = true)
    (result : Except TransportFailure SessionContext) :
    (p.step (.completed t (.session result))).panel =
        p.holding (contextOf result) (heldFor p.session result) ∧
      (p.step (.completed t (.session result))).effects = [] := by
  cases result with
  | ok ctx => exact (Rule.contextLoaded t ctx accepted).step
  | error failure => exact (Rule.contextLost t failure accepted).step

/-- While a context loads, its arrival and a message that neither selects a chart nor opens, closes
or loads a session may come in either order: the panel afterwards is the same, the message asks for
the same, and the arrival asks for nothing. The load is taken over in both. -/
theorem context_load_commutes (r : Run variant h p) (pending : p.bootstrap = some t)
    (result : Except TransportFailure SessionContext) (spares : m.sparesContext = true) :
    let load := Message.completed t (.session result)
    let after := (p.step load).panel.step m
    let before := (p.step m).panel.step load
    after.panel = before.panel ∧ after.effects = (p.step m).effects ∧
      (p.step load).effects = [] ∧ before.effects = [] ∧
      before.panel.bootstrap = none ∧ before.panel.context = contextOf result := by
  intro load after before
  have step := step_allowed p m
  have isOpen : p.isOpen = true := r.gated.isOpen_of_awaits (.inr ⟨pending, rfl⟩)
  obtain ⟨isOpen', pending', session⟩ := step.awaits_context spares
  obtain ⟨loaded, silent⟩ := step_load (acceptsBootstrap_iff.mpr ⟨isOpen, pending⟩) result
  obtain ⟨loaded', silent'⟩ :=
    step_load (acceptsBootstrap_iff.mpr ⟨isOpen'.trans isOpen, pending'.trans pending⟩) result
  obtain ⟨panel, effects⟩ :=
    (step.holding (r.unselected_of_loading pending) spares (contextOf result)
      (heldFor p.session result)).step
  rw [session] at loaded'
  rw [← loaded] at panel effects
  refine ⟨panel.trans loaded'.symm, effects, silent, silent', ?_, ?_⟩
  · rw [loaded']
    rfl
  · rw [loaded']
    rfl

/-- Metrics are found while the session is still loading. -/
theorem context_load_commutes_discovering :
    let told := tellAll ([], .new .metricDiscovery)
      [.opened "a", .draftChanged "why", .promptSubmitted]
    let load := Message.completed ⟨0, 0⟩ (.session (.ok ⟨"sales", [⟨1, "by month", .null⟩]⟩))
    let found := Message.completed ⟨0, 1⟩ (.discovery (.ok (.candidates ["x"])))
    told.2.bootstrap = some ⟨0, 0⟩ ∧ found.sparesContext = true ∧
      ((told.2.step load).panel.step found).panel = ((told.2.step found).panel.step load).panel ∧
      ((told.2.step load).panel.step found).effects = (told.2.step found).effects ∧
      ((told.2.step found).panel.step load).panel.stage = .awaitingSelection ∧
      ((told.2.step found).panel.step load).panel.context.summary = "sales" := by
  intro told load found
  have run : Run .metricDiscovery told.1 told.2 := Run.new.tellAll _
  have pending : told.2.bootstrap = some ⟨0, 0⟩ := by decide
  have spares : found.sparesContext = true := rfl
  obtain ⟨same, effects, -, -, -, context⟩ :=
    context_load_commutes run pending (.ok ⟨"sales", [⟨1, "by month", .null⟩]⟩) spares
  exact ⟨pending, spares, same, effects, by decide, congrArg SessionContext.summary context⟩

end Panel

end AnalysisPanel
