import AnalysisPanel.Proofs.Panel.Gate

/-! The context a panel holds. A context belongs to the session it was loaded for, and survives
closing; but to begin another load forgets it, even when that load is never awaited. -/

namespace AnalysisPanel.Panel

/-! ## Loads in a history -/

namespace Event

/-- Whether a load of a session was begun in a step. -/
def beginsLoad (e : Event) : Bool := e.calls.any fun c => c.2.operation == .loadSession

/-- The reply to a load that the panel accepted in a step. -/
def loaded? (e : Event) : Option (Ticket × Except TransportFailure SessionContext) :=
  match e.message with
  | .completed t (.session result) => if e.before.acceptsBootstrap t then some (t, result) else none
  | _ => none

end Event

namespace History

/-- What the most recent accepted load of a session brought. -/
def brought (session : SessionId) : History → Option (Except TransportFailure SessionContext)
  | [] => none
  | e :: h =>
    match e.loaded?, e.loaded?.bind fun reply => History.callOf h reply.1 with
    | some (_, result), some (.loadSession s) =>
      if s = session then some result else brought session h
    | _, _ => brought session h

/-- Whether a load was begun after the most recent one that was accepted. -/
def overtaken : History → Bool
  | [] => false
  | e :: h => e.beginsLoad || e.loaded?.isNone && overtaken h

end History

/-- The context that a load leaves: what it brought, or nothing. -/
def contextOf : Except TransportFailure SessionContext → SessionContext
  | .ok ctx => ctx
  | .error _ => {}

/-! ## The invariant -/

/-- The context held is what the most recent load for its session brought, unless another load was
begun since; and while a load is pending its ticket stands for a load of the open session. -/
structure Contextual (h : History) (p : Panel) : Prop where
  held : ∀ s, p.contextFor = some s →
    ∃ ctx, h.brought s = some (.ok ctx) ∧ p.context = if h.overtaken then {} else ctx
  bare : p.contextFor = none → p.context = {}
  loading : ∀ t, p.bootstrap = some t → p.context = {} ∧
    ∃ s, p.session = some s ∧ h.callOf t = some (.loadSession s)
  shown : p.isOpen = true → p.bootstrap = none →
    ∃ s, p.session = some s ∧ (p.contextFor = some s ∨
      p.contextFor = none ∧ ∃ failure, h.brought s = some (.error failure))

variable {variant : Variant} {h : History} {p q : Panel} {m : Message} {es : List Effect}

theorem brought_of_quiet {e : Event} (quiet : e.loaded? = none) (s : SessionId) :
    History.brought s (e :: h) = h.brought s := by
  simp only [History.brought, quiet]

theorem overtaken_of_quiet {e : Event} (quiet : e.loaded? = none) (calm : e.beginsLoad = false) :
    History.overtaken (e :: h) = h.overtaken := by
  simp [History.overtaken, quiet, calm]

/-- A message that is passed over brings no context. -/
theorem loaded?_of_ignores (ignored : p.Ignores m) : (⟨p, m, es⟩ : Event).loaded? = none := by
  cases m with
  | completed t reply =>
    cases reply with
    | session result =>
      have stale : p.acceptsBootstrap t = false := ignored
      simp [Event.loaded?, stale]
    | _ => rfl
  | _ => rfl

theorem loaded?_of_refuses {failure : ValidationFailure} (refused : p.Refuses failure m) :
    (⟨p, m, es⟩ : Event).loaded? = none := by
  cases m with
  | completed t reply => exact refused.elim
  | _ => rfl

/-- A gated reply brings no context. -/
theorem loaded?_of_completing {t : Ticket} {reply : Reply TransportFailure}
    (c : Completing p reply q es) : (⟨p, .completed t reply, es⟩ : Event).loaded? = none := by
  cases c with
  | failed operation _ kind =>
    cases operation with
    | loadSession => exact absurd rfl kind
    | _ => rfl
  | _ => rfl

/-- Only a load begins a load: no call through the gate does. -/
theorem beginsLoad_of_completing {t : Ticket} {reply : Reply TransportFailure}
    (c : Completing p reply q es) : (⟨p, .completed t reply, es⟩ : Event).beginsLoad = false := by
  cases c <;> rfl

/-! ## What keeps it -/

theorem contextual_new (variant : Variant) : Contextual [] (.new variant) where
  held s hs := by cases hs
  bare _ := rfl
  loading t ht := by cases ht
  shown isOpen := by cases isOpen

/-- A step that neither begins a load nor takes one over, nor opens or closes the panel. -/
theorem Contextual.of_same (i : Contextual h p) (r : Run variant h p) (step : Rule p m q es)
    (quiet : (⟨p, m, es⟩ : Event).loaded? = none)
    (calm : (⟨p, m, es⟩ : Event).beginsLoad = false)
    (isOpen : q.isOpen = p.isOpen) (session : q.session = p.session)
    (context : q.context = p.context) (contextFor : q.contextFor = p.contextFor)
    (bootstrap : q.bootstrap = p.bootstrap) : Contextual (⟨p, m, es⟩ :: h) q where
  held s hs := by
    rw [brought_of_quiet quiet, overtaken_of_quiet quiet calm, context]
    exact i.held s (contextFor ▸ hs)
  bare hs := by
    rw [context]
    exact i.bare (contextFor ▸ hs)
  loading t ht := by
    obtain ⟨bare, s, hs, issued⟩ := i.loading t (bootstrap ▸ ht)
    exact ⟨context ▸ bare, s, session ▸ hs, step.callOf_cons r issued⟩
  shown hopen settled := by
    obtain ⟨s, hs, held⟩ := i.shown (isOpen ▸ hopen) (bootstrap ▸ settled)
    refine ⟨s, session ▸ hs, ?_⟩
    rw [contextFor, brought_of_quiet quiet]
    exact held

/-- Closing keeps the context and forgets the load that was pending. -/
theorem Contextual.closed (i : Contextual h p) {e : Event} (quiet : e.loaded? = none)
    (calm : e.beginsLoad = false) : Contextual (e :: h) p.closed where
  held s hs := by
    rw [brought_of_quiet quiet, overtaken_of_quiet quiet calm]
    exact i.held s hs
  bare hs := i.bare hs
  loading t ht := by cases ht
  shown isOpen := by cases isOpen

/-- A panel opens with the context it holds for the session, or begins to load another. -/
theorem Contextual.opening (i : Contextual h p) {c : Panel} {session : SessionId}
    (pre : List Effect) (silent : callsOf pre = []) (context : c.context = p.context)
    (contextFor : c.contextFor = p.contextFor) (settled : c.bootstrap = none)
    (o : Opening c session q es) :
    Contextual (⟨p, .opened session, pre ++ es⟩ :: h) q := by
  have quiet : (⟨p, .opened session, pre ++ es⟩ : Event).loaded? = none := rfl
  have calls : (⟨p, .opened session, pre ++ es⟩ : Event).calls = callsOf es := by
    rw [Event.calls, callsOf_append, silent, List.nil_append]
  cases o with
  | held same =>
    have calm : (⟨p, .opened session, pre ++ []⟩ : Event).beginsLoad = false := by
      rw [Event.beginsLoad, calls]
      rfl
    refine ⟨?_, ?_, ?_, ?_⟩
    · intro s hs
      rw [brought_of_quiet quiet, overtaken_of_quiet quiet calm]
      rw [show (c.openOn session).context = p.context from context]
      exact i.held s (contextFor ▸ hs)
    · intro hs
      exact absurd (same.symm.trans hs) (by simp)
    · intro t ht
      exact absurd (ht.symm.trans settled) (by simp)
    · intro _ _
      exact ⟨session, rfl, .inl same⟩
  | loading other =>
    have begun : History.overtaken (⟨p, .opened session,
        pre ++ [.issue c.nextTicket (.loadSession session)]⟩ :: h) = true := by
      rw [History.overtaken, Event.beginsLoad, calls]
      rfl
    refine ⟨?_, fun _ => rfl, ?_, ?_⟩
    · -- the context is forgotten here, but not for which session it was held
      intro s hs
      rw [brought_of_quiet quiet, begun]
      obtain ⟨ctx, found, -⟩ := i.held s (contextFor ▸ hs)
      exact ⟨ctx, found, rfl⟩
    · intro t ht
      have same : c.nextTicket = t := Option.some.inj ht
      rw [← same]
      exact ⟨rfl, session, rfl, History.callOf_new calls⟩
    · intro _ none
      cases none

/-- The reply to the pending load is what the session's load brought. -/
theorem Contextual.brought (i : Contextual h p) {t : Ticket}
    (accepted : p.acceptsBootstrap t = true) (result : Except TransportFailure SessionContext)
    (es : List Effect) :
    ∃ s, p.session = some s ∧
      History.brought s (⟨p, .completed t (.session result), es⟩ :: h) = some result := by
  obtain ⟨-, s, hs, issued⟩ := i.loading t (acceptsBootstrap_iff.mp accepted).2
  refine ⟨s, hs, ?_⟩
  simp [History.brought, Event.loaded?, accepted, issued]

theorem Contextual.loaded (i : Contextual h p) {t : Ticket} {ctx : SessionContext}
    (accepted : p.acceptsBootstrap t = true) :
    Contextual (⟨p, .completed t (.session (.ok ctx)), []⟩ :: h) (p.withContext ctx) := by
  obtain ⟨s, hs, found⟩ := i.brought accepted (.ok ctx) []
  have settled : History.overtaken (⟨p, .completed t (.session (.ok ctx)), []⟩ :: h) = false := by
    simp [History.overtaken, Event.beginsLoad, Event.calls, callsOf, Event.loaded?, accepted]
  refine ⟨?_, ?_, ?_, ?_⟩
  · intro s' hs'
    have same : s = s' := Option.some.inj (hs.symm.trans hs')
    rw [← same, settled]
    exact ⟨ctx, found, rfl⟩
  · intro none
    exact absurd (hs.symm.trans none) (by simp)
  · intro t ht
    cases ht
  · intro _ _
    exact ⟨s, hs, .inl hs⟩

theorem Contextual.lost (i : Contextual h p) {t : Ticket} {failure : TransportFailure}
    (accepted : p.acceptsBootstrap t = true) :
    Contextual (⟨p, .completed t (.session (.error failure)), []⟩ :: h) p.withoutContext := by
  obtain ⟨s, hs, found⟩ := i.brought accepted (.error failure) []
  refine ⟨?_, fun _ => rfl, ?_, ?_⟩
  · intro s' hs'
    cases hs'
  · intro t ht
    cases ht
  · intro _ _
    exact ⟨s, hs, .inr ⟨rfl, failure, found⟩⟩

theorem Contextual.rule (i : Contextual h p) (r : Run variant h p) (step : Rule p m q es) :
    Contextual (⟨p, m, es⟩ :: h) q := by
  cases step with
  | ignored _ ignored =>
    exact i.of_same r (.ignored _ ignored) (loaded?_of_ignores ignored) rfl rfl rfl rfl rfl rfl
  | refused _ _ refused =>
    exact i.of_same r (.refused _ _ refused) (loaded?_of_refuses refused) rfl rfl rfl rfl rfl rfl
  | linkOpened _ _ link => exact i.of_same r (.linkOpened _ _ link) rfl rfl rfl rfl rfl rfl rfl
  | opened _ isClosed o => exact i.opening [] rfl rfl rfl (r.gated.closed isClosed).2.2 o
  | switched _ _ _ o => exact i.opening (c := p.closed) p.closing (callsOf_closing p) rfl rfl rfl o
  | closed isOpen =>
    exact i.closed rfl (by rw [Event.beginsLoad, Event.calls, callsOf_closing]; rfl)
  | drafted text isOpen =>
    have step := Rule.drafted text isOpen
    obtain ⟨dirty, same⟩ := p.setDraft_eq text
    rw [same] at step ⊢
    exact i.of_same r step rfl rfl rfl rfl rfl rfl rfl
  | toggled _ _ waiting held =>
    exact i.of_same r (.toggled _ _ waiting held) rfl rfl rfl rfl rfl rfl rfl
  | missed _ _ waiting held =>
    exact i.of_same r (.missed _ _ waiting held) rfl rfl rfl rfl rfl rfl rfl
  | toggledAll _ waiting => exact i.of_same r (.toggledAll _ waiting) rfl rfl rfl rfl rfl rfl rfl
  | selected _ chart isOpen known =>
    exact i.of_same r (.selected _ chart isOpen known) rfl rfl rfl rfl rfl rfl rfl
  | prompted _ _ accepted request =>
    exact i.of_same r (.prompted _ _ accepted request) rfl rfl rfl rfl rfl rfl rfl
  | tabled _ accepted => exact i.of_same r (.tabled _ accepted) rfl rfl rfl rfl rfl rfl rfl
  | confirmed waiting some free =>
    exact i.of_same r (.confirmed waiting some free) rfl rfl rfl rfl rfl rfl rfl
  | reportBegun _ _ isOpen chart session free =>
    exact i.of_same r (.reportBegun _ _ isOpen chart session free) rfl rfl rfl rfl rfl rfl rfl
  | contextLoaded _ _ accepted => exact i.loaded accepted
  | contextLost _ _ accepted => exact i.lost accepted
  | completed t accepted c =>
    have same : q.isOpen = p.isOpen ∧ q.session = p.session ∧ q.context = p.context ∧
        q.contextFor = p.contextFor ∧ q.bootstrap = p.bootstrap := by
      cases c <;> exact ⟨rfl, rfl, rfl, rfl, rfl⟩
    obtain ⟨isOpen, session, context, contextFor, bootstrap⟩ := same
    exact i.of_same r (.completed t accepted c) (loaded?_of_completing c)
      (beginsLoad_of_completing c) isOpen session context contextFor bootstrap

theorem Run.contextual (r : Run variant h p) : Contextual h p := by
  induction r using Run.invariant with
  | new => exact contextual_new variant
  | rule r i _ step => exact i.rule r step
  | repainted _ i => exact ⟨i.held, i.bare, i.loading, i.shown⟩

/-! ## The context held -/

theorem if_overtaken_eq_iff (b : Bool) (ctx : SessionContext) :
    (if b then {} else ctx) = ctx ↔ b = false ∨ ctx = {} := by
  cases b with
  | false => simp
  | true => simp [eq_comm]

/-- A panel that opens and loads nothing was marked as holding the context of the session. -/
theorem Rule.contextFor_of_silent {s : SessionId} (step : Rule p (.opened s) q es)
    (other : ¬ (p.isOpen = true ∧ p.session = some s)) (silent : callsOf es = []) :
    p.contextFor = some s := by
  cases step with
  | ignored _ same => exact absurd same other
  | refused _ _ refused => exact refused.elim
  | opened _ _ o =>
    cases o with
    | held same => exact same
    | loading _ => cases silent
  | switched _ _ _ o =>
    cases o with
    | held same => exact same
    | loading _ =>
      rw [callsOf_append, callsOf_closing] at silent
      cases silent

/-- A panel that is open with no load pending holds what the most recent accepted load of its
session brought exactly when no load was begun since, or that load brought nothing; otherwise it
holds nothing. A panel opens without a load only for the session whose load it took over last,
and it then holds that context under the same condition. -/
theorem held_context_iff (r : Run variant h p) (s : SessionId) :
    (p.isOpen = true → p.session = some s → p.bootstrap = none →
      ∃ result, h.brought s = some result ∧
        p.context = (if h.overtaken then {} else contextOf result) ∧
        (p.context = contextOf result ↔ h.overtaken = false ∨ contextOf result = {})) ∧
    (¬ (p.isOpen = true ∧ p.session = some s) → callsOf (p.step (.opened s)).effects = [] →
      ∃ ctx, h.brought s = some (.ok ctx) ∧
        (p.context = ctx ↔ h.overtaken = false ∨ ctx = {})) := by
  have i := r.contextual
  constructor
  · intro isOpen session settled
    obtain ⟨s', hs', shown⟩ := i.shown isOpen settled
    have same : s' = s := Option.some.inj (hs'.symm.trans session)
    rw [same] at shown
    rcases shown with held | ⟨bare, failure, found⟩
    · obtain ⟨ctx, found, context⟩ := i.held s held
      refine ⟨.ok ctx, found, context, ?_⟩
      rw [context]
      exact if_overtaken_eq_iff _ _
    · refine ⟨.error failure, found, ?_, ?_⟩
      · rw [i.bare bare]
        simp [contextOf]
      · rw [i.bare bare]
        simp [contextOf]
  · intro other silent
    have held := (step_allowed p (.opened s)).contextFor_of_silent other silent
    obtain ⟨ctx, found, context⟩ := i.held s held
    refine ⟨ctx, found, ?_⟩
    rw [context]
    exact if_overtaken_eq_iff _ _

/-- A context that is loaded stays when the panel closes, and is there again when its session is
opened anew. -/
theorem held_context_iff_reopened :
    let closed := tellAll ([], .new .metricDiscovery)
      [.opened "a", .completed ⟨0, 0⟩ (.session (.ok ⟨"sales", []⟩)), .closed]
    let reopened := tellAll closed [.opened "a"]
    closed.2.isOpen = false ∧ callsOf (closed.2.step (.opened "a")).effects = [] ∧
      (∃ ctx, closed.1.brought "a" = some (.ok ctx) ∧ closed.2.context = ctx) ∧
      reopened.2.isOpen = true ∧ reopened.2.session = some "a" ∧ reopened.2.bootstrap = none ∧
      ∃ result, reopened.1.brought "a" = some result ∧
        reopened.2.context = contextOf result := by
  intro closed reopened
  have run : Run .metricDiscovery closed.1 closed.2 := Run.new.tellAll _
  have silent : callsOf (closed.2.step (.opened "a")).effects = [] := rfl
  obtain ⟨ctx, loaded, kept⟩ := (held_context_iff run "a").2 (by decide) silent
  obtain ⟨result, found, -, same⟩ :=
    (held_context_iff (run.tellAll [.opened "a"]) "a").1 (by decide) (by decide) (by decide)
  exact ⟨by decide, silent, ⟨ctx, loaded, kept.mpr (.inl (by decide))⟩, by decide, by decide,
    by decide, result, found, same.mpr (.inl (by decide))⟩

/-- A session loaded earlier is opened again while the load of another is under way: it is not
loaded anew, and its context is gone. -/
theorem context_lost_on_return :
    ¬ ∀ variant h p s, Run variant h p → p.isOpen = true → p.session = some s →
      p.bootstrap = none → ∃ result, h.brought s = some result ∧ p.context = contextOf result := by
  intro belongs
  let told := tellAll ([], .new .metricDiscovery)
    [.opened "a", .completed ⟨0, 0⟩ (.session (.ok ⟨"sales", []⟩)), .opened "b", .opened "a"]
  obtain ⟨result, found, same⟩ :=
    belongs .metricDiscovery told.1 told.2 "a" (Run.new.tellAll _) (by decide) (by decide)
      (by decide)
  have loaded : told.1.brought "a" = some (.ok ⟨"sales", []⟩) := rfl
  rw [loaded] at found
  cases found
  have lost : told.2.context.summary = "" := by decide
  rw [same] at lost
  exact absurd lost (by decide)

end AnalysisPanel.Panel
