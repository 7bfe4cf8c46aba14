import AnalysisPanel.Panel.View
import AnalysisPanel.Proofs.Panel.Loading
import AnalysisPanel.Proofs.Panel.Numbering
import AnalysisPanel.Proofs.Panel.Payloads

/-! The selected chart. Only its number is recorded, and it is looked up anew whenever it is needed;
but as long as a selection is recorded the panel waits for no context, so what is looked up is the
chart that was there when the user selected it. -/

namespace AnalysisPanel.Panel

/-! ## Selections in a history -/

namespace Event

/-- The chart that is selected in a step, if the panel is open and knows its number. -/
def chosen? (e : Event) : Option Chart :=
  match e.message with
  | .chartSelected id => if e.before.isOpen then e.before.context.chart? id else none
  | _ => none

/-- Whether the panel closes in a step, for good or to open on another session. -/
def closes (e : Event) : Bool := !(closingsOf e.effects).isEmpty

end Event

variable {variant : Variant} {h since before : History} {p q : Panel} {m : Message}
  {es : List Effect} {e : Event} {id : ChartId} {chart : Chart}

theorem chosen?_eq_some (chosen : e.chosen? = some chart) :
    ∃ id, e.message = .chartSelected id ∧ e.before.isOpen = true ∧
      e.before.context.chart? id = some chart := by
  unfold Event.chosen? at chosen
  split at chosen
  · rename_i id message
    split at chosen
    · rename_i isOpen
      exact ⟨id, message, isOpen, chosen⟩
    · cases chosen
  · cases chosen

theorem chart?_eq_some {ctx : SessionContext} (known : ctx.chart? id = some chart) :
    chart ∈ ctx.charts ∧ chart.id = id := by
  have named := List.find?_some known
  exact ⟨List.mem_of_find?_eq_some known, eq_of_beq named⟩

/-! ## What a step does to a selection -/

/-- A step that neither selects a chart nor closes the panel leaves a selection that is recorded,
and the context it is looked up in. -/
theorem Run.keeps_selected (r : Run variant h p) (selected : p.selected = some id)
    (step : Rule p m q es) (unchosen : (⟨p, m, es⟩ : Event).chosen? = none)
    (stays : (⟨p, m, es⟩ : Event).closes = false) :
    q.selected = some id ∧ q.context = p.context := by
  have settled {t : Ticket} (pending : p.bootstrap = some t) : False := by
    rw [r.unselected_of_loading pending] at selected
    cases selected
  cases step with
  | opened _ isClosed _ =>
    rw [(r.blank isClosed).selected] at selected
    cases selected
  | switched _ _ _ _ =>
    rw [Event.closes, closingsOf_append, closingsOf_closing] at stays
    cases stays
  | closed _ =>
    rw [Event.closes, closingsOf_closing] at stays
    cases stays
  | drafted text _ =>
    obtain ⟨dirty, same⟩ := p.setDraft_eq text
    rw [same]
    exact ⟨selected, rfl⟩
  | selected id chart isOpen known =>
    rw [Event.chosen?] at unchosen
    simp only [isOpen, known, if_true] at unchosen
    cases unchosen
  | contextLoaded _ _ accepted => exact (settled (acceptsBootstrap_iff.mp accepted).2).elim
  | contextLost _ _ accepted => exact (settled (acceptsBootstrap_iff.mp accepted).2).elim
  | completed _ _ c => cases c <;> exact ⟨selected, rfl⟩
  | _ => exact ⟨selected, rfl⟩

/-- From the step that selects a chart on, the selection and the context stay. -/
theorem Run.selected_since (r : Run variant (since ++ e :: before) p)
    (chosen : e.chosen? = some chart)
    (stays : ∀ e' ∈ since, e'.chosen? = none ∧ e'.closes = false) :
    p.selected = some chart.id ∧ p.context = e.before.context := by
  induction since generalizing p with
  | nil =>
    obtain ⟨id, message, isOpen, known⟩ := chosen?_eq_some chosen
    obtain ⟨-, -, dirty, same⟩ := r.of_cons
    rw [same, message, (Rule.selected id chart isOpen known).step.1, (chart?_eq_some known).2]
    exact ⟨rfl, rfl⟩
  | cons e' since ih =>
    obtain ⟨earlier, effects, dirty, same⟩ := r.of_cons
    obtain ⟨unchosen, open'⟩ := stays e' List.mem_cons_self
    obtain ⟨selected, context⟩ := ih earlier fun e he => stays e (List.mem_cons_of_mem _ he)
    have step : Rule e'.before e'.message (e'.before.step e'.message).panel e'.effects :=
      effects ▸ step_allowed e'.before e'.message
    obtain ⟨selected', context'⟩ := earlier.keeps_selected selected step unchosen open'
    rw [same]
    exact ⟨selected', context'.trans context⟩

theorem Run.selectedChart?_since (r : Run variant (since ++ e :: before) p)
    (chosen : e.chosen? = some chart)
    (stays : ∀ e' ∈ since, e'.chosen? = none ∧ e'.closes = false) :
    p.selectedChart? = some chart := by
  obtain ⟨id, -, -, known⟩ := chosen?_eq_some chosen
  obtain ⟨selected, context⟩ := r.selected_since chosen stays
  rw [selectedChart?, selected, context, Option.bind_some, (chart?_eq_some known).2, known]

/-! ## Selections last -/

/-- A question about a chart carries the payload of the chart selected last. -/
theorem Run.scope_since (r : Run variant (since ++ e :: before) p)
    (chosen : e.chosen? = some chart)
    (stays : ∀ e' ∈ since, e'.chosen? = none ∧ e'.closes = false) {e' : Event} (he' : e' ∈ since)
    {t : Ticket} {prompt : String} {turns : List HistoryTurn} {scope : Json.Value}
    (issued : (t, .discover (.analysis prompt turns scope)) ∈ e'.calls) :
    scope = chart.payload := by
  obtain ⟨later, earlier, rfl⟩ := List.append_of_mem he'
  rw [List.append_assoc, List.cons_append] at r
  obtain ⟨run, q, step⟩ := r.at
  have found := run.selectedChart?_since chosen fun e he =>
    stays e (List.mem_append_right _ (List.mem_cons_of_mem _ he))
  obtain ⟨-, chart', found', payload⟩ := step.warrants _ issued
  rw [found] at found'
  cases found'
  exact payload.symm

/-- In every state of a run a selection that is recorded stands for a chart of the context held.
And from the step on in which a selection takes effect, until the panel closes or another
selection takes effect, the chart selected is the one that was found then, in the same context;
the view marks it, a question about the chart would carry its payload, and every one that was
asked since carries it. -/
theorem selected_chart_lasts (r : Run variant h p) :
    (∀ id, p.selected = some id →
      ∃ chart ∈ p.context.charts, chart.id = id ∧ p.selectedChart? = some chart) ∧
    ∀ since e before chart, h = since ++ e :: before → e.chosen? = some chart →
      (∀ e' ∈ since, e'.chosen? = none ∧ e'.closes = false) →
      p.selectedChart? = some chart ∧ p.context = e.before.context ∧
        p.view.selected = some chart.id ∧ p.view.selectedTitle = some chart.title ∧
        (p.variant = .scopedAnalysis → ∀ prompt, p.discoverRequest? prompt =
          some (.analysis prompt p.transcript.history chart.payload)) ∧
        ∀ e' ∈ since, ∀ t prompt turns scope,
          (t, .discover (.analysis prompt turns scope)) ∈ e'.calls → scope = chart.payload := by
  refine ⟨?_, ?_⟩
  · intro id selected
    obtain ⟨chart, known⟩ := r.charted id selected
    obtain ⟨member, same⟩ := chart?_eq_some known
    refine ⟨chart, member, same, ?_⟩
    rw [selectedChart?, selected, Option.bind_some, known]
  · rintro since e before chart rfl chosen stays
    have found := r.selectedChart?_since chosen stays
    refine ⟨found, (r.selected_since chosen stays).2, ?_, ?_, ?_, ?_⟩
    · exact congrArg (Option.map (·.id)) found
    · exact congrArg (Option.map (·.title)) found
    · intro analyses prompt
      simp only [discoverRequest?, analyses, found, Option.map_some]
    · intro e' he' t prompt turns scope issued
      exact r.scope_since chosen stays he' issued

/-- What a panel is told up to a selection: a session with two charts is loaded, and one of them is
selected. -/
def selecting : List Message :=
  [.opened "a", .completed ⟨0, 0⟩ (.session (.ok
    ⟨"sales", [⟨1, "by month", .null⟩, ⟨-2, "by region", .bool true⟩]⟩)), .chartSelected (-2)]

/-- What it is told next: the load again, with other charts; a load nobody asked for; its session
opened once more; a chart it does not know; and a question. -/
def misleading : List Message :=
  [.completed ⟨0, 0⟩ (.session (.ok ⟨"costs", [⟨-2, "by month", .null⟩]⟩)),
    .completed ⟨7, 7⟩ (.session (.error ⟨"lost"⟩)), .opened "a", .chartSelected 5,
    .draftChanged "why", .promptSubmitted]

/-- The chart selected is still the one that was there, and the question carries its payload. -/
theorem selected_chart_lasts_misled :
    let told := tellAll ([], .new .scopedAnalysis) (selecting ++ misleading)
    let since := told.1.take 6
    told.2.selectedChart?.map (·.title) = some "by region" ∧ told.2.view.selected = some (-2) ∧
      (∀ e ∈ since, e.chosen? = none ∧ e.closes = false) ∧
      (∃ e ∈ since, ∃ t prompt turns scope,
        (t, .discover (.analysis prompt turns scope)) ∈ e.calls) ∧
      ∀ e ∈ since, ∀ t prompt turns scope,
        (t, .discover (.analysis prompt turns scope)) ∈ e.calls → scope = .bool true := by
  intro told since
  have run : Run .scopedAnalysis told.1 told.2 := Run.new.tellAll _
  obtain ⟨e, before, cut, chosen⟩ : ∃ e before, told.1 = since ++ e :: before ∧
      e.chosen? = some ⟨-2, "by region", .bool true⟩ := ⟨_, _, rfl, rfl⟩
  have stays : ∀ e ∈ since, e.chosen? = none ∧ e.closes = false := by decide
  obtain ⟨found, -, marked, -, -, carried⟩ :=
    (selected_chart_lasts run).2 since e before _ cut chosen stays
  refine ⟨congrArg (Option.map (·.title)) found, marked, stays, ?_, carried⟩
  exact ⟨_, .head _, ⟨0, 1⟩, "why", [], .bool true, .head _⟩

end AnalysisPanel.Panel
