import AnalysisPanel.Proofs.Panel.Gate
import AnalysisPanel.Proofs.Program.Semantics

/-! Delivery of replies. Whatever a panel waits for is on its way through the engine exactly once,
and nothing else on its way is taken for it, however the moves of user, engine and services are
interleaved. -/

namespace AnalysisPanel

open Relation Service

/-! ## Orders of a step -/

/-- The calls that effects issue are what their orders put on the way. -/
theorem items_ordersOf (es : List Effect) :
    (ordersOf es).filterMap Order.item? = (callsOf es).map fun c => (c.1, c.2.operation) := by
  induction es with
  | nil => rfl
  | cons effect rest ih =>
    cases effect with
    | issue t call => exact congrArg ((t, call.operation) :: ·) ih
    | _ => exact ih

theorem close_mem_ordersOf {es : List Effect} {generation : Nat}
    (h : .close generation ∈ ordersOf es) : .closeSession generation ∈ es := by
  obtain ⟨effect, he, order⟩ := List.mem_filterMap.mp h
  cases effect <;> simp_all [Effect.order?]

namespace System

/-! ## The invariant -/

/-- No two calls on their way share a ticket, every close that is queued is of an earlier
generation, and what the panel waits for is on its way under a ticket of its own generation. -/
structure Sound (s : System) : Prop where
  gated : s.panel.Gated
  numbered : s.engine.Numbered
  distinct : (s.engine.pending.map (·.1)).Nodup
  older : ∀ i ∈ s.engine.pending, i.1.seq < s.panel.nextSeq
  closing : ∀ generation, .close generation ∈ s.engine.orders → generation < s.panel.generation
  awaited : ∀ t op, s.panel.ledger.Awaits t op →
    t.generation = s.panel.generation ∧ (t, op) ∈ s.engine.pending

variable {s : System} {p : Panel} {e e' : Engine}

/-- What is left of calls with distinct tickets has distinct tickets. -/
theorem nodup_of_split {l l' gone : List Item} (split : l.Perm (gone ++ l'))
    (distinct : (l.map (·.1)).Nodup) : (l'.map (·.1)).Nodup := by
  have both := distinct.perm (split.map (·.1))
  rw [List.map_append] at both
  exact (List.nodup_append.mp both).2.1

theorem sound_new (variant : Variant) : Sound ⟨.new variant, {}⟩ where
  gated := Panel.gated_new variant
  numbered := Engine.numbered_new
  distinct := .nil
  older i hi := by cases hi
  closing generation h := by cases h
  awaited t op a := by rcases a with ⟨none, -⟩ | ⟨none, -⟩ <;> cases none

/-- The engine by itself gives up only calls that the panel has closed before. -/
theorem Sound.advance (i : Sound ⟨p, e⟩) (a : Engine.Advances e e') : Sound ⟨p, e'⟩ := by
  obtain ⟨lost, split, closed⟩ := a.pending
  refine ⟨i.gated, a.numbered, nodup_of_split split i.distinct, ?_, ?_, ?_⟩
  · intro item hitem
    exact i.older item (split.mem_iff.mpr (List.mem_append_right _ hitem))
  · intro generation h
    exact i.closing generation (a.orders _ h)
  · intro t op waits
    obtain ⟨generation, hmem⟩ := i.awaited t op waits
    refine ⟨generation, ?_⟩
    rcases List.mem_append.mp (split.mem_iff.mp hmem) with gone | kept
    · have older := i.closing _ (closed _ gone)
      exact absurd generation (Nat.ne_of_lt older)
    · exact kept

/-- What a step issues bears a newer number than what was on its way. -/
theorem nodup_issued {q : Panel} {m : Message} {es : List Effect} (step : Panel.Rule p m q es)
    {left : List Item} (older : ∀ i ∈ left, i.1.seq < p.nextSeq)
    (distinct : (left.map (·.1)).Nodup) :
    (((callsOf es).map fun c => (c.1, c.2.operation)) ++ left |>.map (·.1)).Nodup := by
  rw [List.map_append]
  refine List.nodup_append.mpr ⟨?_, distinct, ?_⟩
  · rcases step.calls with none | ⟨call, one⟩
    · rw [none]
      exact .nil
    · rw [one]
      exact List.pairwise_singleton ..
  · rintro t issued t' kept rfl
    obtain ⟨item, hitem, rfl⟩ := List.mem_map.mp kept
    obtain ⟨issued, hissued, same⟩ := List.mem_map.mp issued
    obtain ⟨c, hc, rfl⟩ := List.mem_map.mp hissued
    have before := older item hitem
    rw [← same, (step.seq_eq c hc).1] at before
    exact Nat.lt_irrefl _ before

/-- A generation that a step closes is past when the step is over. -/
theorem closing_lt {q : Panel} {m : Message} {es : List Effect} (step : Panel.Rule p m q es)
    {orders : List Order} (past : ∀ generation, .close generation ∈ orders →
      generation < p.generation) :
    ∀ generation, .close generation ∈ orders ++ ordersOf es → generation < q.generation := by
  intro generation h
  rcases step.generation with ⟨same, none⟩ | ⟨next, one⟩
  · rw [same]
    rcases List.mem_append.mp h with queued | ordered
    · exact past generation queued
    · exact absurd (close_mem_ordersOf ordered) (none generation)
  · rw [next]
    rcases List.mem_append.mp h with queued | ordered
    · exact Nat.lt_succ_of_lt (past generation queued)
    · rw [one generation (close_mem_ordersOf ordered)]
      exact Nat.lt_succ_self _

/-- The panel is told something. If it is a reply, the call that brought it is on its way no
longer, and a panel that waited for it waits no longer. -/
theorem Sound.tell (i : Sound ⟨p, e⟩) {m : Message} (brought : List Item)
    (numbered : e'.Numbered) (orders : e'.orders = e.orders)
    (split : e.pending.Perm (brought ++ e'.pending))
    (brings : ∀ item ∈ brought, ∃ reply, m = .completed item.1 reply ∧ reply.operation = item.2) :
    Sound (System.tell ⟨p, e'⟩ m) := by
  have step := Panel.step_allowed p m
  have older (item : Item) (h : item ∈ e'.pending) : item.1.seq < p.nextSeq :=
    i.older item (split.mem_iff.mpr (List.mem_append_right _ h))
  have onTheWay := e'.pending_submitAll (ordersOf (p.step m).effects)
  rw [items_ordersOf] at onTheWay
  refine ⟨(i.gated.rule step).repainted, ⟨numbered.distinct, numbered.older⟩, ?_, ?_, ?_, ?_⟩
  · refine (onTheWay.map (·.1)).nodup_iff.mpr ?_
    exact nodup_issued step older (nodup_of_split split i.distinct)
  · intro item hitem
    rcases List.mem_append.mp (onTheWay.mem_iff.mp hitem) with issued | kept
    · obtain ⟨c, hc, rfl⟩ := List.mem_map.mp issued
      obtain ⟨seq, lt⟩ := step.seq_eq c hc
      rw [seq]
      exact lt
    · exact Nat.lt_of_lt_of_le (older item kept) step.nextSeq_le
  · exact closing_lt step (orders ▸ i.closing)
  · intro t op waits
    rcases step.awaits waits with ⟨call, issued, rfl, generation⟩ | ⟨waited, generation, untold⟩
    · refine ⟨generation, onTheWay.mem_iff.mpr (List.mem_append_left _ ?_)⟩
      exact List.mem_map_of_mem (f := fun c : Ticket × Call => (c.1, c.2.operation)) issued
    · obtain ⟨before, hmem⟩ := i.awaited t op waited
      refine ⟨before.trans generation.symm, onTheWay.mem_iff.mpr (List.mem_append_right _ ?_)⟩
      -- what the panel still waits for is not what it was just given
      rcases List.mem_append.mp (split.mem_iff.mp hmem) with given | kept
      · obtain ⟨reply, brings, kind⟩ := brings _ given
        exact absurd kind (untold (i.gated.isOpen_of_awaits waited) reply brings)
      · exact kept

theorem Sound.step {s' : System} (i : Sound s) (step : Step s s') : Sound s' := by
  cases step with
  | told m silent => exact i.tell [] i.numbered rfl .rfl fun _ h => by cases h
  | ordered next => exact i.advance (Engine.advances_next? i.numbered next)
  | finished running kind => exact i.advance (Engine.advances_finish i.numbered running kind)
  | received taken =>
    obtain ⟨rest, completions, rfl⟩ := Engine.take?_eq_some taken
    refine i.tell [_] ⟨i.numbered.distinct, i.numbered.older⟩ rfl (Engine.pending_take? taken) ?_
    intro item hitem
    rw [List.mem_singleton.mp hitem]
    exact ⟨_, rfl, Reply.operation_mapError _ _⟩

theorem sound_of_steps {variant : Variant} (steps : ReflTransGen Step ⟨.new variant, {}⟩ s) :
    Sound s := by
  induction steps with
  | refl => exact sound_new variant
  | tail _ step ih => exact ih.step step

/-- What a panel waits for is the one call on its way under its ticket. -/
theorem Sound.pending_filter (i : Sound s) {t : Ticket} {op : Operation}
    (waits : s.panel.ledger.Awaits t op) :
    s.engine.pending.filter (fun item => item.1 == t) = [(t, op)] :=
  filter_key_eq_singleton i.distinct (i.awaited t op waits).2

end System

namespace World

theorem Reachable.sound {variant : Variant} {w : World} (r : Reachable variant w) :
    w.system.Sound := by
  obtain ⟨w₀, host, engine, steps⟩ := r
  have start : w₀.system = ⟨.new variant, {}⟩ := by
    rw [system, host, engine]
    rfl
  have course : ReflTransGen System.Step w₀.system w.system :=
    steps.lift' system fun _ _ => Step.system
  rw [start] at course
  exact System.sound_of_steps course

/-- In every world that the program can come to, the panel never waits for a reply that does not
come, and takes no reply that it does not wait for. While the gate is held, exactly one call that
is queued, runs uncancelled or has come back bears the ticket in flight; it is of the kind that the
stage waits for, and the panel will take its reply. While the context is loading, exactly one load
bears its ticket. While the gate is free no call on its way can be taken as the reply of a call,
and while no context is loading none can be taken as a context. -/
theorem awaited_reply_pending {variant : Variant} {w : World} (r : Reachable variant w) :
    (w.host.panel.isBusy = true →
      ∃ t op, w.host.panel.inFlight = some t ∧ w.host.panel.stage.operation? = some op ∧
        w.engine.pending.filter (fun item => item.1 == t) = [(t, op)] ∧
        w.host.panel.accepts t = true) ∧
    (∀ t, w.host.panel.bootstrap = some t →
      w.engine.pending.filter (fun item => item.1 == t) = [(t, .loadSession)] ∧
        w.host.panel.acceptsBootstrap t = true) ∧
    (w.host.panel.isBusy = false →
      ∀ item ∈ w.engine.pending, w.host.panel.accepts item.1 = false) ∧
    (w.host.panel.bootstrap = none →
      ∀ item ∈ w.engine.pending, w.host.panel.acceptsBootstrap item.1 = false) := by
  have i := r.sound
  have g : w.host.panel.Gated := i.gated
  refine ⟨?_, ?_, ?_, ?_⟩
  · intro busy
    have holds := g.inFlight
    have awaits := g.stage
    rw [busy] at holds awaits
    obtain ⟨t, inFlight⟩ := Option.isSome_iff_exists.mp holds
    obtain ⟨op, stage⟩ := Option.isSome_iff_exists.mp awaits
    refine ⟨t, op, inFlight, stage, i.pending_filter (.inl ⟨inFlight, stage⟩), ?_⟩
    rw [Panel.accepts, g.isOpen_of_busy busy, inFlight]
    simp
  · intro t bootstrap
    have waits : w.host.panel.ledger.Awaits t .loadSession := .inr ⟨bootstrap, rfl⟩
    refine ⟨i.pending_filter waits, ?_⟩
    rw [Panel.acceptsBootstrap, g.isOpen_of_awaits waits, bootstrap]
    simp
  · intro free item _
    have none := g.inFlight
    rw [free] at none
    rw [Panel.accepts, Option.isNone_iff_eq_none.mp (Option.isSome_eq_false_iff.mp none)]
    exact Bool.and_false _
  · intro settled item _
    rw [Panel.acceptsBootstrap, settled]
    exact Bool.and_false _

/-- A question is asked while the context still loads: both calls are on their way. -/
theorem awaited_reply_pending_discovering :
    let opened := World.start { host := .new .metricDiscovery } "a"
    let drafted := opened.follow (opened.host.dispatch (.draftChanged "why"))
    let asked := (drafted.follow (drafted.host.dispatch .promptSubmitted)).settle
    asked.engine.pending = [(⟨0, 0⟩, .loadSession), (⟨0, 1⟩, .discover)] ∧
      asked.host.panel.isBusy = true ∧ asked.host.panel.bootstrap = some ⟨0, 0⟩ ∧
      (∃ t op, asked.host.panel.inFlight = some t ∧
        asked.host.panel.stage.operation? = some op ∧
        asked.engine.pending.filter (fun item => item.1 == t) = [(t, op)]) ∧
      asked.engine.pending.filter (fun item => item.1 == ⟨0, 0⟩) = [(⟨0, 0⟩, .loadSession)] := by
  intro opened drafted asked
  have steps : ReflTransGen Step { host := .new .metricDiscovery } asked :=
    (((ReflTransGen.single (.started "a")).tail (.told _ rfl)).tail (.told _ rfl)).tail .settled
  have reachable : Reachable .metricDiscovery asked := ⟨_, rfl, rfl, steps⟩
  have busy : asked.host.panel.isBusy = true := by decide
  have loading : asked.host.panel.bootstrap = some ⟨0, 0⟩ := by decide
  obtain ⟨call, load, -, -⟩ := awaited_reply_pending reachable
  obtain ⟨t, op, inFlight, stage, one, -⟩ := call busy
  exact ⟨by decide, busy, loading, ⟨t, op, inFlight, stage, one⟩, (load _ loading).1⟩

end World

end AnalysisPanel
