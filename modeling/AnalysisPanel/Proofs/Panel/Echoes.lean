import AnalysisPanel.Proofs.Panel.Execution
import AnalysisPanel.Proofs.Panel.Gate
import AnalysisPanel.Proofs.Panel.Numbering

/-! Late replies. A reply counts at most once: once its ticket is spent no state of the run accepts
it again, so replies that come twice or too late may be put anywhere into a run and change neither
its states nor its effects. -/

namespace AnalysisPanel.Panel

/-! ## Tickets that are spent -/

/-- Whether a step takes the reply under a ticket. -/
def Event.takes (e : Event) (t : Ticket) : Bool :=
  (e.before.takesReply e.message || e.before.takesContext e.message) &&
    e.message.reply?.any fun r => r.1 == t

/-- A ticket that is spent: its reply was taken, the panel was closed after it was issued, or
another call took the gate over from it. -/
inductive Spent : History → Ticket → Prop where
  | taken {h : History} {t : Ticket} (e : Event) : e.takes t = true → Spent (e :: h) t
  | closed {h : History} {t : Ticket} (e : Event) (call : Call) (generation : Nat) :
      (t, call) ∈ h.issued → .closeSession generation ∈ e.effects → Spent (e :: h) t
  | replaced {h : History} {t : Ticket} (e : Event) (call : Call) (next : Ticket × Call) :
      (t, call) ∈ h.issued → call.operation ≠ .loadSession → next ∈ gatedCallsOf e.effects →
      Spent (e :: h) t
  | earlier {h : History} {t : Ticket} (e : Event) : Spent h t → Spent (e :: h) t

variable {variant : Variant} {h : History} {p q : Panel} {m : Message} {es : List Effect}
  {t : Ticket} {op : Operation}

theorem Spent.append (s : Spent h t) (later : History) : Spent (later ++ h) t := by
  induction later with
  | nil => exact s
  | cons e later ih => exact .earlier e ih

theorem spent_of_taken {e : Event} (he : e ∈ h) (taken : e.takes t = true) : Spent h t := by
  induction h with
  | nil => cases he
  | cons e' h ih =>
    rcases List.mem_cons.mp he with rfl | he
    · exact .taken e taken
    · exact .earlier e' (ih he)

/-! ## Whatever is accepted is awaited -/

theorem awaits_of_acceptsBootstrap (accepted : p.acceptsBootstrap t = true) :
    p.ledger.Awaits t .loadSession :=
  .inr ⟨(acceptsBootstrap_iff.mp accepted).2, rfl⟩

/-- The gate is held for an operation of its own, never for a load. -/
theorem Gated.awaits_of_accepts (g : Gated p) (accepted : p.accepts t = true) :
    ∃ op, op ≠ .loadSession ∧ p.ledger.Awaits t op := by
  have waits := g.stage.trans (g.busy_of_accepts accepted)
  obtain ⟨op, stage⟩ := Option.isSome_iff_exists.mp waits
  refine ⟨op, ?_, .inl ⟨(accepts_iff.mp accepted).2, stage⟩⟩
  rintro rfl
  exact p.stage.operation?_ne_loadSession stage

/-- A reply that is taken was awaited, through the gate or beside it. -/
theorem Gated.awaits_of_takes (g : Gated p) (taken : (⟨p, m, es⟩ : Event).takes t = true) :
    ∃ op, p.ledger.Awaits t op ∧ (op ≠ .loadSession → p.takesReply m = true) ∧
      (op = .loadSession → p.takesContext m = true) := by
  obtain ⟨takes, under⟩ := Bool.and_eq_true_iff.mp taken
  rcases Bool.or_eq_true_iff.mp takes with reply | context
  · obtain ⟨t', answer, rfl, -, accepted⟩ := takesReply_eq_true reply
    have same : t' = t := eq_of_beq under
    obtain ⟨op, gated, a⟩ := g.awaits_of_accepts (same ▸ accepted)
    exact ⟨op, a, fun _ => reply, fun load => absurd load gated⟩
  · obtain ⟨t', result, rfl, accepted⟩ := takesContext_eq_true context
    have same : t' = t := eq_of_beq under
    exact ⟨.loadSession, awaits_of_acceptsBootstrap (same ▸ accepted),
      fun gated => absurd rfl gated, fun _ => context⟩

/-! ## Whatever is awaited was issued -/

theorem Run.awaited_call (r : Run variant h p) (a : p.ledger.Awaits t op) :
    ∃ call, (t, call) ∈ h.issued ∧ call.operation = op := by
  induction r using Run.invariant with
  | new => rcases a with ⟨none, -⟩ | ⟨none, -⟩ <;> cases none
  | rule _ ih _ step =>
    rcases step.waited a with ⟨call, new, kind, -⟩ | ⟨before, -⟩
    · exact ⟨call, List.mem_append_left _ new, kind⟩
    · obtain ⟨call, old, kind⟩ := ih before
      exact ⟨call, List.mem_append_right _ old, kind⟩
  | repainted _ ih => exact ih a

theorem Run.awaited_unique (r : Run variant h p) {op' : Operation} (a : p.ledger.Awaits t op)
    (a' : p.ledger.Awaits t op') : op = op' := by
  obtain ⟨call, issued, rfl⟩ := r.awaited_call a
  obtain ⟨call', issued', rfl⟩ := r.awaited_call a'
  rw [r.issued_unique issued issued']

/-- A step spends only what was issued before it. -/
theorem Run.issued_of_spent_cons (r : Run variant h p) (s : Spent (⟨p, m, es⟩ :: h) t)
    (earlier : Spent h t → ∃ call, (t, call) ∈ h.issued) : ∃ call, (t, call) ∈ h.issued := by
  cases s with
  | taken _ taken =>
    obtain ⟨op, a, -⟩ := r.gated.awaits_of_takes taken
    exact (r.awaited_call a).imp fun _ found => found.1
  | closed _ call _ issued _ => exact ⟨call, issued⟩
  | replaced _ call _ issued _ _ => exact ⟨call, issued⟩
  | earlier _ s => exact earlier s

theorem Run.issued_of_spent (r : Run variant h p) (s : Spent h t) :
    ∃ call, (t, call) ∈ h.issued := by
  induction r using Run.invariant with
  | new => cases s
  | rule before ih _ _ =>
    obtain ⟨call, issued⟩ := before.issued_of_spent_cons s ih
    exact ⟨call, List.mem_append_right _ issued⟩
  | repainted _ ih => exact ih s

/-! ## What is spent is awaited no longer -/

theorem Run.not_takes (r : Run variant h p) (a : p.ledger.Awaits t op)
    (reply : op ≠ .loadSession → p.takesReply m = false)
    (context : op = .loadSession → p.takesContext m = false) :
    (⟨p, m, es⟩ : Event).takes t = false := by
  apply Bool.eq_false_iff.mpr
  intro taken
  obtain ⟨op', a', takesReply, takesContext⟩ := r.gated.awaits_of_takes taken
  cases r.awaited_unique a a'
  by_cases load : op = .loadSession
  · exact absurd (takesContext load) (by simp [context load])
  · exact absurd (takesReply load) (by simp [reply load])

theorem Run.not_spent (r : Run variant h p) (a : p.ledger.Awaits t op) : ¬ Spent h t := by
  induction r using Run.invariant generalizing op with
  | new => exact fun s => by cases s
  | @rule h p m before ih q es _ step =>
    rcases step.waited a with ⟨call, new, -⟩ | ⟨awaited, generation, reply, context⟩
    · -- the ticket is new, and whatever spends a ticket finds it issued before
      intro s
      obtain ⟨call, issued⟩ := before.issued_of_spent_cons s before.issued_of_spent
      have older := before.seq_lt_nextSeq _ issued
      rw [(step.seq_eq _ new).1] at older
      exact Nat.lt_irrefl _ older
    · -- the ticket was awaited before, and the step leaves it alone
      intro s
      cases s with
      | taken _ taken =>
        rw [before.not_takes awaited (fun gated => (reply gated).1) context] at taken
        cases taken
      | closed _ call closing issued closes =>
        rcases step.generation with ⟨-, none⟩ | ⟨next, -⟩
        · exact none _ closes
        · exact absurd (generation.symm.trans next) (by simp)
      | replaced _ call next issued gated called =>
        obtain ⟨call', issued', kind⟩ := before.awaited_call awaited
        rw [before.issued_unique issued issued', kind] at gated
        rw [(reply gated).2] at called
        cases called
      | earlier _ s => exact ih awaited s
  | repainted _ ih => exact ih a

theorem Run.not_accepts_of_spent (r : Run variant h p) (s : Spent h t) :
    p.accepts t = false ∧ p.acceptsBootstrap t = false := by
  refine ⟨Bool.eq_false_iff.mpr ?_, Bool.eq_false_iff.mpr ?_⟩
  · intro accepted
    obtain ⟨op, -, a⟩ := r.gated.awaits_of_accepts accepted
    exact r.not_spent a s
  · intro accepted
    exact r.not_spent (awaits_of_acceptsBootstrap accepted) s

theorem Run.ignores_of_spent (r : Run variant h p) (s : Spent h t)
    (reply : Reply TransportFailure) : p.Ignores (.completed t reply) := by
  obtain ⟨gated, load⟩ := r.not_accepts_of_spent s
  cases reply with
  | session result => exact load
  | _ => exact gated

theorem Run.countP_takes_le_one (r : Run variant h p) (t : Ticket) :
    h.countP (fun e => e.takes t) ≤ 1 := by
  induction r using Run.invariant with
  | new => exact Nat.zero_le _
  | @rule h p m before ih q es _ step =>
    by_cases taken : (⟨p, m, es⟩ : Event).takes t = true
    · -- a ticket that is taken now is awaited, so no earlier step took it
      have fresh : ¬ Spent h t := by
        obtain ⟨op, a, -⟩ := before.gated.awaits_of_takes taken
        exact before.not_spent a
      have none : h.countP (fun e => e.takes t) = 0 := by
        apply List.countP_eq_zero.mpr
        intro e he earlier
        exact fresh (spent_of_taken he earlier)
      have counted := List.countP_cons_of_pos (p := fun e : Event => e.takes t) (l := h) taken
      omega
    · rw [List.countP_cons_of_neg (p := fun e : Event => e.takes t) taken]
      exact ih
  | repainted _ ih => exact ih

/-! ## Echoes -/

/-- Messages with echoes put in anywhere. An echo is a reply, of any kind and content, under a
ticket that is spent by then in the run without echoes. -/
inductive Echoed : History × Panel → List Message → List Message → Prop where
  | nil (told) : Echoed told [] []
  | told {told messages echoed} (m : Message) : Echoed (tellAll told [m]) messages echoed →
      Echoed told (m :: messages) (m :: echoed)
  | echo {told messages echoed} (t : Ticket) (reply : Reply TransportFailure) :
      Spent told.1 t → Echoed told messages echoed →
      Echoed told messages (.completed t reply :: echoed)

/-- A run with echoes goes through the same steps as the run without, besides its echoes, for which
nothing changes and nothing is asked for. -/
theorem Echoed.tellAll {told : History × Panel} {messages echoed : List Message}
    (r : Run variant told.1 told.2) (e : Echoed told messages echoed) {h : History}
    (same : h.effects = told.1.effects) (sub : List.Sublist told.1 h) :
    (Panel.tellAll (h, told.2) echoed).2 = (Panel.tellAll told messages).2 ∧
      (Panel.tellAll (h, told.2) echoed).1.effects = (Panel.tellAll told messages).1.effects ∧
      List.Sublist (Panel.tellAll told messages).1 (Panel.tellAll (h, told.2) echoed).1 := by
  induction e generalizing h with
  | nil told => exact ⟨rfl, same, sub⟩
  | told m _ ih =>
    refine ih (r.tell m) ?_ (sub.cons_cons _)
    exact congrArg (· ++ _) same
  | @echo told messages echoed t reply spent _ ih =>
    obtain ⟨panel, effects⟩ := step_of_ignores (r.ignores_of_spent spent reply)
    have silent : History.effects (⟨told.2, .completed t reply,
        (told.2.step (.completed t reply)).effects⟩ :: h) = told.1.effects := by
      rw [History.effects, effects, List.append_nil, same]
    have later := ih r silent (sub.cons _)
    rw [Panel.tellAll, panel]
    exact later

/-- Every call of a run bears the number of calls asked for before it and the number of closes
before it, and every close the number of closes before it. Once a ticket is spent no later state
accepts a reply under it, so its reply is taken at most once; and echoes put anywhere into what is
told change neither the states nor the effects. -/
theorem reply_counts_once (r : Run variant h p) :
    (∀ pre t call post, h.effects = pre ++ .issue t call :: post →
      t = ⟨(closingsOf pre).length, (callsOf pre).length⟩) ∧
    (∀ pre generation post, h.effects = pre ++ .closeSession generation :: post →
      generation = (closingsOf pre).length) ∧
    (∀ t, Spent h t → ∀ later q, Run variant (later ++ h) q →
      q.accepts t = false ∧ q.acceptsBootstrap t = false) ∧
    (∀ t, h.countP (fun e => e.takes t) ≤ 1) ∧
    ∀ messages echoed, Echoed (h, p) messages echoed →
      (Panel.tellAll (h, p) echoed).2 = (Panel.tellAll (h, p) messages).2 ∧
        (Panel.tellAll (h, p) echoed).1.effects = (Panel.tellAll (h, p) messages).1.effects ∧
        List.Sublist (Panel.tellAll (h, p) messages).1 (Panel.tellAll (h, p) echoed).1 := by
  refine ⟨?_, ?_, ?_, r.countP_takes_le_one, ?_⟩
  · intro pre t call post cut
    exact r.due_at rfl cut
  · intro pre generation post cut
    exact r.due_at rfl cut
  · intro t spent later q r'
    exact r'.not_accepts_of_spent (spent.append later)
  · intro messages echoed e
    exact e.tellAll r rfl (List.Sublist.refl h)

/-- A panel closes while a table is on its way, and opens again. -/
def reopening : List Message :=
  [.opened "a", .draftChanged "why", .tableSubmitted, .completed ⟨0, 1⟩ (.synthesis (.ok .null)),
    .closed, .opened "a"]

/-- The table arrives after all, twice, and the panel goes on as if it had not. -/
theorem reply_counts_once_reopening :
    let told := tellAll ([], .new .scopedAnalysis) reopening
    let late := Message.completed ⟨0, 2⟩ (.delivery (.ok "link"))
    let echoed := [late, .draftChanged "where", late]
    let last := Effect.issue ⟨1, 3⟩ (.loadSession "a")
    told.1.effects = told.1.effects.dropLast ++ last :: [] ∧
      (closingsOf told.1.effects.dropLast).length = 1 ∧
      (callsOf told.1.effects.dropLast).length = 3 ∧
      Spent told.1 ⟨0, 2⟩ ∧ told.2.accepts ⟨0, 2⟩ = false ∧
      told.1.countP (fun e => e.takes ⟨0, 1⟩) ≤ 1 ∧
      Echoed told [.draftChanged "where"] echoed ∧
      (tellAll told echoed).2 = (tellAll told [.draftChanged "where"]).2 := by
  intro told late echoed last
  have run : Run .scopedAnalysis told.1 told.2 := Run.new.tellAll _
  obtain ⟨calls, -, later, once, echoes⟩ := reply_counts_once run
  have cut : told.1.effects = told.1.effects.dropLast ++ last :: [] := rfl
  have numbers := calls _ _ _ _ cut
  have closed (h : History) : Spent (h ++ told.1) ⟨0, 2⟩ := by
    refine Spent.append (.earlier _ (.closed _ (.deliver .null) 0 ?_ ?_)) h
    · exact .head _
    · exact .head _
  have put : Echoed told [.draftChanged "where"] echoed :=
    .echo _ _ (closed []) (.told _ (.echo _ _ (closed [_]) (.nil _)))
  exact ⟨cut, (congrArg Ticket.generation numbers).symm, (congrArg Ticket.seq numbers).symm,
    closed [], (later _ (closed []) [] told.2 run).1, once _, put, (echoes _ _ put).1⟩

end AnalysisPanel.Panel
