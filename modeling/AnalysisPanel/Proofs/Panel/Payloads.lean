import AnalysisPanel.Proofs.Panel.Chains
import AnalysisPanel.Proofs.Panel.Context

/-! What calls carry. A question about a chart carries the payload of the chart selected,
as the last load of the open session brought it; a delivery carries the payload of the
reply it is issued on. -/

namespace AnalysisPanel.Panel

/-! ## The last load -/

/-- The most recent accepted load of a session: its ticket and what it brought. -/
def History.lastLoad (session : SessionId) :
    History → Option (Ticket × Except TransportFailure SessionContext)
  | [] => none
  | e :: h =>
    match e.loaded?, e.loaded?.bind fun reply => History.callOf h reply.1 with
    | some reply, some (.loadSession s) => if s = session then some reply else lastLoad session h
    | _, _ => lastLoad session h

theorem brought_eq_lastLoad (h : History) (session : SessionId) :
    h.brought session = (h.lastLoad session).map (·.2) := by
  induction h with
  | nil => rfl
  | cons e h ih =>
    cases loaded : e.loaded? with
    | none => simp [History.brought, History.lastLoad, loaded, ih]
    | some reply =>
      cases issued : History.callOf h reply.1 with
      | none => simp [History.brought, History.lastLoad, loaded, issued, ih]
      | some call =>
        cases call with
        | loadSession s =>
          simp only [History.brought, History.lastLoad, loaded, Option.bind_some, issued, ih]
          split <;> rfl
        | _ => simp [History.brought, History.lastLoad, loaded, issued, ih]

variable {variant : Variant} {h earlier later : History} {e : Event} {p q : Panel} {m : Message}
  {es : List Effect} {t : Ticket}

theorem loaded?_eq_some {e : Event} {result : Except TransportFailure SessionContext}
    (loaded : e.loaded? = some (t, result)) : e.message = .completed t (.session result) := by
  unfold Event.loaded? at loaded
  split at loaded
  · rename_i t' result' message
    split at loaded
    · cases loaded
      exact message
    · cases loaded
  · cases loaded

/-- The last load of a session was issued for it, and its reply was heard. -/
theorem of_lastLoad {session : SessionId} {result : Except TransportFailure SessionContext}
    (last : h.lastLoad session = some (t, result)) :
    (t, .loadSession session) ∈ h.issued ∧
      ∃ e ∈ h, e.message = .completed t (.session result) := by
  induction h with
  | nil => cases last
  | cons e h ih =>
    have older (last : History.lastLoad session h = some (t, result)) :
        (t, .loadSession session) ∈ History.issued (e :: h) ∧
          ∃ e' ∈ e :: h, e'.message = .completed t (.session result) := by
      obtain ⟨issued, e', he', message⟩ := ih last
      exact ⟨List.mem_append_right _ issued, e', List.mem_cons_of_mem _ he', message⟩
    unfold History.lastLoad at last
    split at last
    · rename_i loaded issued
      split at last
      · rename_i same
        cases last
        rw [loaded] at issued
        have call := History.mem_issued_of_callOf issued
        rw [same] at call
        exact ⟨List.mem_append_right _ call, e, List.mem_cons_self, loaded?_eq_some loaded⟩
      · exact older last
    · exact older last

/-! ## What a step puts into a call -/

/-- Where what a call carries comes from, when it is issued on a message. -/
def Warrants (p : Panel) (m : Message) : Call → Prop
  | .discover (.analysis _ _ scope) =>
    p.isOpen = true ∧ ∃ chart, p.selectedChart? = some chart ∧ chart.payload = scope
  | .deliver payload => ∃ t, m = .completed t (.synthesis (.ok payload)) ∧ p.accepts t = true
  | _ => True

theorem warrants_of_discoverRequest? {prompt : String} {request : DiscoverRequest}
    (isOpen : p.isOpen = true) (put : p.discoverRequest? prompt = some request) :
    p.Warrants m (.discover request) := by
  unfold discoverRequest? at put
  split at put
  · cases put
    trivial
  · obtain ⟨chart, found, rfl⟩ := Option.map_eq_some_iff.mp put
    exact ⟨isOpen, chart, found, rfl⟩

theorem Opening.warrants {session : SessionId} {c : Panel} (o : Opening c session q es) :
    ∀ call ∈ callsOf es, p.Warrants m call.2 := by
  cases o with
  | held _ => exact List.forall_mem_nil _
  | loading _ => exact List.forall_mem_singleton.mpr trivial

theorem Rule.warrants (step : Rule p m q es) : ∀ call ∈ callsOf es, p.Warrants m call.2 := by
  cases step with
  | opened _ _ o => exact o.warrants
  | switched _ _ _ o =>
    rw [callsOf_append, callsOf_closing]
    exact o.warrants
  | closed _ =>
    rw [callsOf_closing]
    exact List.forall_mem_nil _
  | prompted prompt request accepted put =>
    exact List.forall_mem_singleton.mpr
      (warrants_of_discoverRequest? (submission_eq_accepted accepted).1 put)
  | tabled _ _ => exact List.forall_mem_singleton.mpr trivial
  | confirmed _ _ _ => exact List.forall_mem_singleton.mpr trivial
  | reportBegun _ _ _ _ _ _ => exact List.forall_mem_singleton.mpr trivial
  | completed t accepted c =>
    cases c with
    | synthesized payload => exact List.forall_mem_singleton.mpr ⟨t, rfl, accepted⟩
    | _ => exact List.forall_mem_nil _
  | _ => exact List.forall_mem_nil _

/-! ## What calls carry -/

/-- A step of a run was taken by the panel that the run had come to. -/
theorem Run.at (r : Run variant (later ++ e :: earlier) p) :
    Run variant earlier e.before ∧ ∃ q, Rule e.before e.message q e.effects := by
  obtain ⟨q, r⟩ := r.of_append
  obtain ⟨before, effects, -⟩ := r.of_cons
  refine ⟨before, (e.before.step e.message).panel, ?_⟩
  rw [effects]
  exact step_allowed e.before e.message

/-- A delivery is issued on the reply to the call in flight, and carries the payload of it. -/
theorem Run.delivery_of_synthesis (r : Run variant (later ++ e :: earlier) p) {payload : Json.Value}
    (issued : (t, .deliver payload) ∈ e.calls) :
    ∃ t', e.message = .completed t' (.synthesis (.ok payload)) ∧ e.before.accepts t' = true := by
  obtain ⟨-, q, step⟩ := r.at
  exact step.warrants _ issued

/-- A question about a chart is asked by a panel with a chart selected, and carries the payload of
the chart that the last load of the open session brought under that number. -/
theorem Run.scope_of_lastLoad (r : Run variant (later ++ e :: earlier) p) {prompt : String}
    {turns : List HistoryTurn} {scope : Json.Value}
    (issued : (t, .discover (.analysis prompt turns scope)) ∈ e.calls) :
    ∃ session id load ctx chart, e.before.session = some session ∧ e.before.selected = some id ∧
      earlier.lastLoad session = some (load, .ok ctx) ∧ ctx.chart? id = some chart ∧
      chart.payload = scope := by
  obtain ⟨before, q, step⟩ := r.at
  obtain ⟨isOpen, chart, found, payload⟩ := step.warrants _ issued
  obtain ⟨id, selected, found⟩ := Option.bind_eq_some_iff.mp found
  have context := before.contextual
  -- a panel without a context has no charts
  have some (bare : e.before.context = {}) : False := by
    rw [bare] at found
    cases found
  have settled : e.before.bootstrap = none := by
    cases bootstrap : e.before.bootstrap with
    | none => rfl
    | some load => exact (some (context.loading load bootstrap).1).elim
  obtain ⟨session, shown, held | ⟨bare, -⟩⟩ := context.shown isOpen settled
  · obtain ⟨ctx, brought, same⟩ := context.held session held
    cases overtaken : earlier.overtaken with
    | true =>
      rw [overtaken, if_pos rfl] at same
      exact (some same).elim
    | false =>
      rw [overtaken, if_neg Bool.false_ne_true] at same
      rw [brought_eq_lastLoad] at brought
      obtain ⟨⟨load, result⟩, last, rfl⟩ := Option.map_eq_some_iff.mp brought
      exact ⟨session, id, load, ctx, chart, shown, selected, last, same ▸ found, payload⟩
  · exact (some (context.bare bare)).elim

end AnalysisPanel.Panel
