import AnalysisPanel.Proofs.Panel.Trace

/-! Tickets. A step issues at most one call, under the next number, and closes at most the present
generation. Which replies a panel waits for changes only by what a step issues, closes or takes. -/

namespace AnalysisPanel

/-- The operation whose reply a stage waits for. -/
def Stage.operation? : Stage → Option Operation
  | .idle | .awaitingSelection => none
  | .discovering => some .discover
  | .synthesizing => some .synthesize
  | .delivering => some .deliver
  | .generatingReport => some .generateReport

theorem Stage.operation?_ne_loadSession (s : Stage) : s.operation? ≠ some .loadSession := by
  cases s <;> decide

/-- Whether an effect is for the engine: the issue of a call, or the close of a generation. -/
def Effect.isDemand : Effect → Bool
  | .issue _ _ | .closeSession _ => true
  | _ => false

/-- The effects that are for the engine, in order. -/
def demandsOf (es : List Effect) : List Effect := es.filter Effect.isDemand

@[simp] theorem demandsOf_append (es fs : List Effect) :
    demandsOf (es ++ fs) = demandsOf es ++ demandsOf fs :=
  List.filter_append ..

theorem demandsOf_cut {es pre post : List Effect} {e : Effect} (demand : e.isDemand = true)
    (cut : es = pre ++ e :: post) : demandsOf es = demandsOf pre ++ e :: demandsOf post := by
  rw [cut, demandsOf_append]
  exact congrArg (demandsOf pre ++ ·) (List.filter_cons_of_pos demand)

/-- Only effects that are for the engine issue calls. -/
theorem callsOf_demandsOf (es : List Effect) : callsOf (demandsOf es) = callsOf es := by
  rw [callsOf, demandsOf, List.filterMap_filter, callsOf]
  congr 1
  funext e
  cases e <;> rfl

namespace Panel

theorem demandsOf_closing (p : Panel) : demandsOf p.closing = [.closeSession p.generation] := by
  unfold closing
  split <;> rfl

@[simp] theorem callsOf_closing (p : Panel) : callsOf p.closing = [] := by
  rw [← callsOf_demandsOf, demandsOf_closing]
  rfl

/-! ## Replies taken -/

/-- Whether a message is the reply to the call that holds the gate. -/
def takesReply (p : Panel) : Message → Bool
  | .completed _ (.session _) => false
  | .completed t _ => p.accepts t
  | _ => false

/-- Whether a message is the reply to the load under way. -/
def takesContext (p : Panel) : Message → Bool
  | .completed t (.session _) => p.acceptsBootstrap t
  | _ => false

variable {p q : Panel} {m : Message} {es : List Effect}

theorem accepts_iff {t : Ticket} :
    p.accepts t = true ↔ p.isOpen = true ∧ p.inFlight = some t := by
  simp [accepts]

theorem acceptsBootstrap_iff {t : Ticket} :
    p.acceptsBootstrap t = true ↔ p.isOpen = true ∧ p.bootstrap = some t := by
  simp [acceptsBootstrap]

theorem takesReply_eq_true (h : p.takesReply m = true) :
    ∃ t reply, m = .completed t reply ∧ reply.operation ≠ .loadSession ∧ p.accepts t = true := by
  cases m with
  | completed t reply =>
    cases reply with
    | session result => cases h
    | _ => exact ⟨t, _, rfl, by simp [Reply.operation], h⟩
  | _ => cases h

theorem takesContext_eq_true (h : p.takesContext m = true) :
    ∃ t result, m = .completed t (.session result) ∧ p.acceptsBootstrap t = true := by
  cases m with
  | completed t reply =>
    cases reply with
    | session result => exact ⟨t, result, rfl, h⟩
    | _ => cases h
  | _ => cases h

theorem takesReply_of_accepts {t : Ticket} {reply : Reply TransportFailure}
    (kind : reply.operation ≠ .loadSession) (accepted : p.accepts t = true) :
    p.takesReply (.completed t reply) = true := by
  cases reply with
  | session result => exact absurd rfl kind
  | _ => exact accepted

theorem takesContext_of_takesReply (h : p.takesReply m = true) : p.takesContext m = false := by
  obtain ⟨t, reply, rfl, kind, -⟩ := takesReply_eq_true h
  cases reply with
  | session result => exact absurd rfl kind
  | _ => rfl

theorem takesReply_of_takesContext (h : p.takesContext m = true) : p.takesReply m = false := by
  cases taken : p.takesReply m with
  | false => rfl
  | true =>
    rw [takesContext_of_takesReply taken] at h
    cases h

theorem takes_of_silent (silent : m.reply? = none) :
    p.takesReply m = false ∧ p.takesContext m = false := by
  cases m with
  | completed t reply => cases silent
  | _ => exact ⟨rfl, rfl⟩

/-- A message that is passed over is no reply that the panel takes. -/
theorem takes_of_ignores (ignored : p.Ignores m) :
    p.takesReply m = false ∧ p.takesContext m = false := by
  cases m with
  | completed t reply =>
    cases reply with
    | session result => exact ⟨rfl, ignored⟩
    | _ => exact ⟨ignored, rfl⟩
  | _ => exact ⟨rfl, rfl⟩

theorem takes_of_refuses {failure : ValidationFailure} (refused : p.Refuses failure m) :
    p.takesReply m = false ∧ p.takesContext m = false := by
  cases m with
  | completed t reply => exact refused.elim
  | _ => exact ⟨rfl, rfl⟩

/-! ## The ledger -/

/-- What a panel keeps about tickets, and the operation that the call in flight is for. -/
structure Ledger where
  generation : Nat
  nextSeq : Nat
  inFlight : Option Ticket
  awaited : Option Operation
  bootstrap : Option Ticket

def ledger (p : Panel) : Ledger where
  generation := p.generation
  nextSeq := p.nextSeq
  inFlight := p.inFlight
  awaited := p.stage.operation?
  bootstrap := p.bootstrap

@[simp] theorem ledger_finishCall (p : Panel) :
    p.finishCall.ledger = { p.ledger with inFlight := none, awaited := none } := by
  simp only [ledger, finishCall]
  split <;> rfl

/-- What a step from `p` to `q` does about tickets, and which effects for the engine go with it. -/
inductive Issues (p : Panel) (m : Message) (q : Panel) : List Effect → Prop where
  | kept : p.takesReply m = false → p.takesContext m = false → q.ledger = p.ledger →
      Issues p m q []
  | released : p.takesReply m = true →
      q.ledger = { p.ledger with inFlight := none, awaited := none } → Issues p m q []
  | settled : p.takesContext m = true → q.ledger = { p.ledger with bootstrap := none } →
      Issues p m q []
  | called (call : Call) : p.isBusy = false ∧ m.reply? = none ∨ p.takesReply m = true →
      q.ledger =
        { p.ledger with
          nextSeq := p.nextSeq + 1, inFlight := some p.nextTicket,
          awaited := some call.operation } →
      Issues p m q [.issue p.nextTicket call]
  | closed : m.reply? = none → q.ledger = ⟨p.generation + 1, p.nextSeq, none, none, none⟩ →
      Issues p m q [.closeSession p.generation]
  | loading (session : SessionId) : m.reply? = none → q.session = some session →
      q.ledger = { p.ledger with nextSeq := p.nextSeq + 1, bootstrap := some p.nextTicket } →
      Issues p m q [.issue p.nextTicket (.loadSession session)]
  | reloading (session : SessionId) : m.reply? = none → q.session = some session →
      q.ledger =
        ⟨p.generation + 1, p.nextSeq + 1, none, none, some ⟨p.generation + 1, p.nextSeq⟩⟩ →
      Issues p m q
        [.closeSession p.generation,
          .issue ⟨p.generation + 1, p.nextSeq⟩ (.loadSession session)]

theorem Completing.issues {reply : Reply TransportFailure} {t : Ticket}
    (c : Completing p reply q es) (accepted : p.accepts t = true) :
    Issues p (.completed t reply) q (demandsOf es) := by
  cases c with
  | failed operation failure kind =>
    exact .released (takesReply_of_accepts (by simpa using kind) accepted) (ledger_finishCall _)
  | offered labels _ => exact .released accepted (ledger_finishCall _)
  | nothingFound => exact .released accepted (ledger_finishCall _)
  | answered text => exact .released accepted (ledger_finishCall _)
  | synthesized payload => exact .called _ (.inr accepted) rfl
  | deliveredSelection link _ => exact .released accepted (ledger_finishCall _)
  | deliveredTable link _ => exact .released accepted (ledger_finishCall _)
  | reported content => exact .released accepted (ledger_finishCall _)

/-- Every step does one of these things about tickets. -/
theorem Rule.issues (r : Rule p m q es) : Issues p m q (demandsOf es) := by
  cases r with
  | ignored _ ignored =>
    obtain ⟨reply, context⟩ := takes_of_ignores ignored
    exact .kept reply context rfl
  | refused _ _ refused =>
    obtain ⟨reply, context⟩ := takes_of_refuses refused
    exact .kept reply context rfl
  | linkOpened _ _ _ => exact .kept rfl rfl rfl
  | opened session _ o =>
    cases o with
    | held _ => exact .kept rfl rfl rfl
    | loading _ => exact .loading session rfl rfl rfl
  | switched session _ _ o =>
    rw [demandsOf_append, demandsOf_closing]
    cases o with
    | held _ => exact .closed rfl rfl
    | loading _ => exact .reloading session rfl rfl rfl
  | closed _ =>
    rw [demandsOf_closing]
    exact .closed rfl rfl
  | drafted text _ =>
    obtain ⟨dirty, same⟩ := p.setDraft_eq text
    rw [same]
    exact .kept rfl rfl rfl
  | toggled _ _ _ _ => exact .kept rfl rfl rfl
  | missed _ _ _ _ => exact .kept rfl rfl rfl
  | toggledAll _ _ => exact .kept rfl rfl rfl
  | selected _ _ _ _ => exact .kept rfl rfl rfl
  | prompted prompt request accepted _ =>
    exact .called (.discover request) (.inl ⟨(submission_eq_accepted accepted).2.2.1, rfl⟩) rfl
  | tabled prompt accepted =>
    exact .called (.synthesize (.prompt prompt))
      (.inl ⟨(submission_eq_accepted accepted).2.2.1, rfl⟩) rfl
  | confirmed _ _ free => exact .called (.synthesize _) (.inl ⟨free, rfl⟩) rfl
  | reportBegun _ _ _ _ _ free => exact .called (.generateReport _ _) (.inl ⟨free, rfl⟩) rfl
  | contextLoaded _ _ accepted => exact .settled accepted rfl
  | contextLost _ _ accepted => exact .settled accepted rfl
  | completed t accepted c => exact c.issues accepted

/-! ## Numbers -/

/-- A step uses up one number for each call it issues. -/
theorem Issues.nextSeq_eq (i : Issues p m q es) :
    q.nextSeq = p.nextSeq + (callsOf es).length := by
  cases i with
  | kept _ _ h | released _ h | settled _ h | called _ _ h | closed _ h | loading _ _ _ h
  | reloading _ _ _ h => exact congrArg Ledger.nextSeq h

/-- At most one call is issued, under the number that was next and the generation of the panel
afterwards. -/
theorem Issues.calls (i : Issues p m q es) :
    callsOf es = [] ∨ ∃ call, callsOf es = [(⟨q.generation, p.nextSeq⟩, call)] := by
  cases i with
  | kept _ _ _ | released _ _ | settled _ _ | closed _ _ => exact .inl rfl
  | called _ _ h | loading _ _ _ h =>
    have same : q.generation = p.generation := congrArg Ledger.generation h
    exact .inr ⟨_, by rw [same]; rfl⟩
  | reloading _ _ _ h =>
    have next : q.generation = p.generation + 1 := congrArg Ledger.generation h
    exact .inr ⟨_, by rw [next]; rfl⟩

theorem Issues.generation (i : Issues p m q es) :
    q.generation = p.generation ∧ (∀ g, .closeSession g ∉ es) ∨
      q.generation = p.generation + 1 ∧ ∀ g, .closeSession g ∈ es → g = p.generation := by
  cases i with
  | kept _ _ h | released _ h | settled _ h | called _ _ h | loading _ _ _ h =>
    exact .inl ⟨congrArg Ledger.generation h, by simp⟩
  | closed _ h | reloading _ _ _ h => exact .inr ⟨congrArg Ledger.generation h, by simp⟩

/-- A step leaves the generation as it is, or closes it and goes on with the next. -/
theorem Rule.generation (r : Rule p m q es) :
    q.generation = p.generation ∧ (∀ g, .closeSession g ∉ es) ∨
      q.generation = p.generation + 1 ∧ ∀ g, .closeSession g ∈ es → g = p.generation := by
  have closes (g : Nat) (h : .closeSession g ∈ es) : .closeSession g ∈ demandsOf es :=
    List.mem_filter.mpr ⟨h, rfl⟩
  rcases r.issues.generation with ⟨same, none⟩ | ⟨next, one⟩
  · exact .inl ⟨same, fun g h => none g (closes g h)⟩
  · exact .inr ⟨next, fun g h => one g (closes g h)⟩

theorem Rule.nextSeq_le (r : Rule p m q es) : p.nextSeq ≤ q.nextSeq := by
  rw [r.issues.nextSeq_eq]
  exact Nat.le_add_right ..

/-- At most one call is issued in a step, and it bears the number that was next. -/
theorem Rule.calls (r : Rule p m q es) :
    callsOf es = [] ∨ ∃ call, callsOf es = [(⟨q.generation, p.nextSeq⟩, call)] := by
  rw [← callsOf_demandsOf]
  exact r.issues.calls

theorem Rule.seq_eq (r : Rule p m q es) :
    ∀ c ∈ callsOf es, c.1.seq = p.nextSeq ∧ p.nextSeq < q.nextSeq := by
  intro c hc
  have next := r.issues.nextSeq_eq
  rw [callsOf_demandsOf] at next
  rcases r.calls with none | ⟨call, one⟩
  · rw [none] at hc
    cases hc
  · rw [one] at hc next
    rw [List.mem_singleton.mp hc, next]
    exact ⟨rfl, Nat.lt_succ_self _⟩

/-! ## What a panel waits for -/

/-- The reply to an operation is waited for under a ticket. -/
def Ledger.Awaits (l : Ledger) (t : Ticket) (op : Operation) : Prop :=
  l.inFlight = some t ∧ l.awaited = some op ∨ l.bootstrap = some t ∧ op = .loadSession

/-- A panel that is open takes the reply it waits for. -/
theorem takes_of_awaits {t : Ticket} {op : Operation} (isOpen : p.isOpen = true)
    (a : p.ledger.Awaits t op) {reply : Reply TransportFailure} (kind : reply.operation = op) :
    p.takesReply (.completed t reply) = true ∧ op ≠ .loadSession ∨
      p.takesContext (.completed t reply) = true ∧ op = .loadSession := by
  rcases a with ⟨inFlight, awaited⟩ | ⟨bootstrap, rfl⟩
  · have gated : op ≠ .loadSession := by
      rintro rfl
      exact p.stage.operation?_ne_loadSession awaited
    exact .inl ⟨takesReply_of_accepts (kind ▸ gated) (accepts_iff.mpr ⟨isOpen, inFlight⟩), gated⟩
  · refine .inr ⟨?_, rfl⟩
    cases reply with
    | session result => exact acceptsBootstrap_iff.mpr ⟨isOpen, bootstrap⟩
    | _ => cases kind

/-- A message that a panel does not take is not the reply it waits for. -/
theorem ne_of_not_taken {t : Ticket} {op : Operation} (a : p.ledger.Awaits t op)
    (gated : op ≠ .loadSession → p.takesReply m = false)
    (load : op = .loadSession → p.takesContext m = false) (isOpen : p.isOpen = true)
    (reply : Reply TransportFailure) (brings : m = .completed t reply) : reply.operation ≠ op := by
  intro kind
  rcases takes_of_awaits isOpen a kind with ⟨taken, other⟩ | ⟨taken, same⟩
  · rw [← brings, gated other] at taken
    cases taken
  · rw [← brings, load same] at taken
    cases taken

/-- What a panel waits for after a step it waited for already and did not take in the step, or the
step itself issued the call. No other call goes through the gate while a reply through it is waited
for. -/
theorem Issues.waited (i : Issues p m q es) {t : Ticket} {op : Operation}
    (a : q.ledger.Awaits t op) :
    (∃ call, (t, call) ∈ callsOf es ∧ call.operation = op ∧ t.generation = q.generation) ∨
      p.ledger.Awaits t op ∧ q.generation = p.generation ∧
        (op ≠ .loadSession → p.takesReply m = false ∧ gatedCallsOf es = []) ∧
        (op = .loadSession → p.takesContext m = false) := by
  cases i with
  | kept reply context h =>
    rw [h] at a
    exact .inr ⟨a, congrArg Ledger.generation h, fun _ => ⟨reply, rfl⟩, fun _ => context⟩
  | released taken h =>
    rw [h] at a
    rcases a with ⟨none, -⟩ | load
    · cases none
    · exact .inr ⟨.inr load, congrArg Ledger.generation h, fun gated => absurd load.2 gated,
        fun _ => takesContext_of_takesReply taken⟩
  | settled taken h =>
    rw [h] at a
    rcases a with held | ⟨none, -⟩
    · have gated : op ≠ .loadSession := by
        rintro rfl
        exact p.stage.operation?_ne_loadSession held.2
      exact .inr ⟨.inl held, congrArg Ledger.generation h,
        fun _ => ⟨takesReply_of_takesContext taken, rfl⟩, fun load => absurd load gated⟩
    · cases none
  | called call passes h =>
    have generation : q.generation = p.generation := congrArg Ledger.generation h
    have context : p.takesContext m = false := by
      rcases passes with ⟨-, silent⟩ | taken
      · exact (takes_of_silent silent).2
      · exact takesContext_of_takesReply taken
    rw [h] at a
    rcases a with ⟨inFlight, awaited⟩ | load
    · cases inFlight
      exact .inl ⟨call, List.mem_singleton_self _, Option.some.inj awaited, generation.symm⟩
    · exact .inr ⟨.inr load, generation, fun gated => absurd load.2 gated, fun _ => context⟩
  | closed _ h =>
    rw [h] at a
    rcases a with ⟨none, -⟩ | ⟨none, -⟩
    · cases none
    · cases none
  | loading session silent _ h =>
    have generation : q.generation = p.generation := congrArg Ledger.generation h
    rw [h] at a
    rcases a with held | ⟨bootstrap, rfl⟩
    · exact .inr ⟨.inl held, generation, fun _ => ⟨(takes_of_silent silent).1, rfl⟩,
        fun _ => (takes_of_silent silent).2⟩
    · cases bootstrap
      exact .inl ⟨_, List.mem_singleton_self _, rfl, generation.symm⟩
  | reloading session _ _ h =>
    have generation : q.generation = p.generation + 1 := congrArg Ledger.generation h
    rw [h] at a
    rcases a with ⟨none, -⟩ | ⟨bootstrap, rfl⟩
    · cases none
    · cases bootstrap
      exact .inl ⟨_, List.mem_singleton_self _, rfl, generation.symm⟩

theorem Rule.waited (r : Rule p m q es) {t : Ticket} {op : Operation}
    (a : q.ledger.Awaits t op) :
    (∃ call, (t, call) ∈ callsOf es ∧ call.operation = op ∧ t.generation = q.generation) ∨
      p.ledger.Awaits t op ∧ q.generation = p.generation ∧
        (op ≠ .loadSession → p.takesReply m = false ∧ gatedCallsOf es = []) ∧
        (op = .loadSession → p.takesContext m = false) := by
  rw [gatedCallsOf, ← callsOf_demandsOf]
  exact r.issues.waited a

theorem Rule.awaits (r : Rule p m q es) {t : Ticket} {op : Operation}
    (a : q.ledger.Awaits t op) :
    (∃ call, (t, call) ∈ callsOf es ∧ call.operation = op ∧ t.generation = q.generation) ∨
      p.ledger.Awaits t op ∧ q.generation = p.generation ∧
        (p.isOpen = true → ∀ reply, m = .completed t reply → reply.operation ≠ op) := by
  rcases r.waited a with new | ⟨before, generation, reply, context⟩
  · exact .inl new
  · exact .inr ⟨before, generation,
      ne_of_not_taken before (fun gated => (reply gated).1) context⟩

/-! ## Effects for the engine over a run -/

/-- If every step stands in a relation to the effects for the engine before it, given what it finds
of them in the panel, and leaves the panel so, then the relation holds along a whole run. -/
theorem Run.along_demands {variant : Variant} {P : List Effect → Effect → Prop}
    {I : Panel → List Effect → Prop} (new : I (.new variant) [])
    (rule : ∀ {p m q es earlier}, Rule p m q es → I p earlier →
      Along P earlier (demandsOf es) ∧ I q (earlier ++ demandsOf es))
    (repainted : ∀ {p earlier}, I p earlier → I p.consumeDirty.2 earlier)
    {h : History} {p : Panel} (r : Run variant h p) :
    Along P [] (demandsOf h.effects) ∧ I p (demandsOf h.effects) := by
  induction r using Run.invariant with
  | new => exact ⟨trivial, new⟩
  | rule _ ih _ step =>
    obtain ⟨along, kept⟩ := rule step ih.2
    rw [History.effects, demandsOf_append, along_append]
    exact ⟨⟨ih.1, along⟩, kept⟩
  | repainted _ ih => exact ⟨ih.1, repainted ih.2⟩

/-! ## Tickets of a run -/

/-- Every ticket issued in a run is older than the next one. -/
theorem Run.seq_lt_nextSeq {variant : Variant} {h : History} {p : Panel} (r : Run variant h p) :
    ∀ c ∈ h.issued, c.1.seq < p.nextSeq := by
  induction r using Run.invariant with
  | new =>
    intro c hc
    cases hc
  | rule _ ih _ step =>
    intro c hc
    rcases List.mem_append.mp hc with hc | hc
    · obtain ⟨hseq, hlt⟩ := step.seq_eq c hc
      rw [hseq]
      exact hlt
    · exact Nat.lt_of_lt_of_le (ih c hc) step.nextSeq_le
  | repainted _ ih => exact ih

theorem History.mem_issued_of_callOf {h : History} {t : Ticket} {call : Call}
    (ht : h.callOf t = some call) : (t, call) ∈ h.issued := by
  obtain ⟨c, found, rfl⟩ := Option.map_eq_some_iff.mp ht
  have same : c.1 = t := by simpa using List.find?_some found
  rw [← same]
  exact List.mem_of_find?_eq_some found

/-- A ticket that was issued stands for the same call ever after. -/
theorem Rule.callOf_cons {variant : Variant} {h : History} {call : Call} {t : Ticket}
    (r : Run variant h p) (step : Rule p m q es) (ht : h.callOf t = some call) :
    History.callOf (⟨p, m, es⟩ :: h) t = some call := by
  have older := r.seq_lt_nextSeq _ (History.mem_issued_of_callOf ht)
  have fresh : (callsOf es).find? (fun c => c.1 == t) = none := by
    apply List.find?_eq_none.mpr
    intro c hc same
    have hseq := (step.seq_eq c hc).1
    rw [eq_of_beq same] at hseq
    exact Nat.ne_of_lt older hseq
  have split : (History.issued (⟨p, m, es⟩ :: h)).find? (fun c => c.1 == t) =
      h.issued.find? (fun c => c.1 == t) := by
    rw [History.issued, List.flatMap_cons, List.find?_append, Event.calls, fresh]
    rfl
  rw [History.callOf, split]
  exact ht

/-- What a step issues is found under its ticket. -/
theorem History.callOf_new {h : History} {t : Ticket} {call : Call} (step : callsOf es = [(t, call)]) :
    History.callOf (⟨p, m, es⟩ :: h) t = some call := by
  rw [History.callOf, History.issued, List.flatMap_cons, List.find?_append, Event.calls, step]
  simp

/-- Every ticket stands for one call. -/
theorem Run.callOf_of_mem {variant : Variant} {h : History} (r : Run variant h p) {t : Ticket}
    {call : Call} (issued : (t, call) ∈ h.issued) : h.callOf t = some call := by
  induction r using Run.invariant with
  | new => cases issued
  | rule before ih _ step =>
    rcases List.mem_append.mp issued with new | old
    · rcases step.calls with none | ⟨call', one⟩
      · rw [Event.calls, none] at new
        cases new
      · rw [Event.calls, one] at new
        cases List.mem_singleton.mp new
        exact History.callOf_new one
    · exact step.callOf_cons before (ih old)
  | repainted _ ih => exact ih issued

theorem Run.issued_unique {variant : Variant} {h : History} (r : Run variant h p) {t : Ticket}
    {call call' : Call} (issued : (t, call) ∈ h.issued) (issued' : (t, call') ∈ h.issued) :
    call = call' :=
  Option.some.inj ((r.callOf_of_mem issued).symm.trans (r.callOf_of_mem issued'))

end Panel

end AnalysisPanel
