import AnalysisPanel.Proofs.Program.Semantics
import AnalysisPanel.Proofs.Service.Completions

/-! Generations of a panel as its engine sees them. The orders of a panel run through its
generations one after the other: each close is of the generation at hand, and nothing that
comes later is of it again. So the engine knows at most that one generation, and none that
it has closed. -/

namespace AnalysisPanel

open Service

/-! ## Orders from generation to generation -/

/-- The generation that an order is of. -/
def Service.Order.generation : Order → Nat
  | .call t _ => t.generation
  | .close generation => generation

/-- Orders that lead from one generation to another: calls are of the generation at hand, and its
close leads to the next. -/
inductive Leads : Nat → List Order → Nat → Prop where
  | done {n} : Leads n [] n
  | called {n m os} (t : Ticket) (call : Call) : t.generation = n → Leads n os m →
      Leads n (.call t call :: os) m
  | closed {n m os} : Leads (n + 1) os m → Leads n (.close n :: os) m

namespace Leads

variable {n m k : Nat} {os os' : List Order} {o : Order}

theorem append (first : Leads n os k) (second : Leads k os' m) : Leads n (os ++ os') m := by
  induction first with
  | done => exact second
  | called t call same _ ih => exact .called t call same (ih second)
  | closed _ ih => exact .closed (ih second)

/-- Between any two orders there is a generation at hand. -/
theorem split (leads : Leads n (os ++ os') m) : ∃ k, Leads n os k ∧ Leads k os' m := by
  induction os generalizing n with
  | nil => exact ⟨n, .done, leads⟩
  | cons o os ih =>
    cases leads with
    | called t call same rest =>
      obtain ⟨k, first, second⟩ := ih rest
      exact ⟨k, .called t call same first, second⟩
    | closed rest =>
      obtain ⟨k, first, second⟩ := ih rest
      exact ⟨k, .closed first, second⟩

/-- No order is of a generation that is over. -/
theorem le_generation (leads : Leads n os m) (ho : o ∈ os) : n ≤ o.generation := by
  induction leads with
  | done => cases ho
  | called t call same _ ih =>
    rcases List.mem_cons.mp ho with rfl | ho
    · exact Nat.le_of_eq same.symm
    · exact ih ho
  | closed _ ih =>
    rcases List.mem_cons.mp ho with rfl | ho
    · exact Nat.le_refl _
    · exact Nat.le_of_succ_le (ih ho)

theorem le (leads : Leads n os m) : n ≤ m := by
  induction leads with
  | done => exact Nat.le_refl _
  | called _ _ _ _ ih => exact ih
  | closed _ ih => exact Nat.le_of_succ_le ih

/-- What has been closed is over. -/
theorem closed_lt {generation : Nat} (leads : Leads n os m) (closed : .close generation ∈ os) :
    generation < m := by
  induction leads with
  | done => cases closed
  | called t call _ _ ih =>
    rcases List.mem_cons.mp closed with other | closed
    · cases other
    · exact ih closed
  | closed rest ih =>
    rcases List.mem_cons.mp closed with same | closed
    · cases same
      exact rest.le
    · exact ih closed

end Leads

/-! ## The engine -/

variable {b : Backend} {h : Trace} {e e' : Engine} {n m : Nat} {o : Order}

/-- The engine knows the generation at hand, once a call of it has started, and no other. -/
def Service.Engine.KnowsOnly (e : Engine) (generation : Nat) : Prop :=
  e.live = [] ∨ e.live = [generation]

theorem Service.Engine.KnowsOnly.execute (known : e.KnowsOnly n) (leads : Leads n [o] m) :
    (e.execute o).1.KnowsOnly m := by
  cases leads with
  | called t call same rest =>
    cases rest
    refine .inr ?_
    rcases known with none | one
    · simp [Engine.execute, Engine.start, none, same]
    · simp [Engine.execute, Engine.start, one, same]
  | closed rest =>
    cases rest
    refine .inl ?_
    rcases known with none | one
    · simp [Engine.execute, Engine.close, none]
    · simp [Engine.execute, Engine.close, one]

/-- Whatever the calls do meanwhile, an engine whose orders lead to a generation knows no other. -/
theorem Service.Course.knowsOnly (course : Course b h e) (leads : Leads 0 h.executed n) :
    e.KnowsOnly n := by
  induction course generalizing n with
  | new => exact .inl rfl
  | sent o _ ih => exact ih leads
  | executed _ first next ih =>
    obtain ⟨rest, -, rfl⟩ := next?_of_head? first next
    rw [Trace.executed_executed] at leads
    obtain ⟨k, before, last⟩ := leads.split
    have known := (ih before).execute last
    rw [Engine.KnowsOnly, Engine.execute_orders]
    exact known
  | @returned _ e r reply _ _ _ ih =>
    have same : (e.finish r reply).1.live = e.live := by
      unfold Engine.finish
      dsimp only
      split <;> rfl
    rw [Engine.KnowsOnly, same]
    exact ih leads
  | handed _ taken ih =>
    obtain ⟨rest, -, rfl⟩ := Engine.take?_eq_some taken
    exact ih leads

/-! ## The panel -/

/-- Orders come of effects for the engine only. -/
theorem ordersOf_demandsOf (es : List Effect) : ordersOf (demandsOf es) = ordersOf es := by
  rw [ordersOf, demandsOf, List.filterMap_filter, ordersOf]
  congr 1
  funext effect
  cases effect <;> rfl

/-- The orders of a step lead from the generation of the panel before to that after it. -/
theorem Panel.Rule.leads {p q : Panel} {msg : Message} {es : List Effect}
    (step : Panel.Rule p msg q es) : Leads p.generation (ordersOf es) q.generation := by
  rw [← ordersOf_demandsOf]
  generalize demandsOf es = demands, step.issues = issues
  cases issues with
  | kept _ _ same | released _ same | settled _ same =>
    have generation : q.generation = p.generation := congrArg Ledger.generation same
    rw [generation]
    exact .done
  | called _ _ same | loading _ _ _ same =>
    have generation : q.generation = p.generation := congrArg Ledger.generation same
    rw [generation]
    exact .called _ _ rfl .done
  | closed _ same =>
    have generation : q.generation = p.generation + 1 := congrArg Ledger.generation same
    rw [generation]
    exact .closed .done
  | reloading _ _ _ same =>
    have generation : q.generation = p.generation + 1 := congrArg Ledger.generation same
    rw [generation]
    exact .closed (.called _ _ rfl .done)

namespace Host

theorem orders_dispatch (h : Host) (msg : Message) :
    (h.dispatch msg).2.filterMap Act.order? = ordersOf (h.panel.step msg).effects := by
  have told := h.hears_dispatch msg {}
  exact (congrArg (fun s : System => s.engine.orders) told).symm

theorem leads_dispatchAll (h : Host) (ms : List Message) :
    Leads h.panel.generation ((h.dispatchAll ms).2.filterMap Act.order?)
      (h.dispatchAll ms).1.panel.generation := by
  induction ms generalizing h with
  | nil => exact .done
  | cons msg rest ih =>
    have step := (h.panel.step_allowed msg).leads
    rw [← orders_dispatch] at step
    have told : (h.dispatch msg).1.panel = (h.panel.step msg).panel.consumeDirty.2 :=
      panel_repaint _
    have same : (h.dispatch msg).1.panel.generation = (h.panel.step msg).panel.generation := by
      rw [told]
      rfl
    rw [← same] at step
    rw [dispatchAll, List.filterMap_append]
    exact step.append (ih _)

/-- The orders that a new host gives its engine when its panel is told one thing after the other. -/
def ordersFrom (variant : Variant) (ms : List Message) : List Order :=
  ((Host.new variant).dispatchAll ms).2.filterMap Act.order?

/-- Whatever a new panel is told, and however far its engine has come with the orders, whatever the
calls do meanwhile: the engine knows at most one generation, which it has not been told to close;
and once it has carried out the close of a generation, no order that is still to come is of it. -/
theorem closed_generation_stays_closed {variant : Variant} {ms : List Message}
    (course : Course b h e) (sent : h.sent <+: ordersFrom variant ms) :
    e.live.length ≤ 1 ∧ (∀ generation ∈ e.live, .close generation ∉ h.executed) ∧
      ∀ generation, .close generation ∈ h.executed →
        ∀ later, ordersFrom variant ms = h.executed ++ later →
          ∀ o ∈ later, o.generation ≠ generation := by
  have leads : Leads 0 (ordersFrom variant ms) _ := (Host.new variant).leads_dispatchAll ms
  obtain ⟨n, first⟩ : ∃ n, Leads 0 h.executed n := by
    obtain ⟨unsent, stream⟩ := sent
    have cut := leads
    rw [← stream, course.queue, List.append_assoc] at cut
    obtain ⟨n, first, -⟩ := cut.split
    exact ⟨n, first⟩
  have known := course.knowsOnly first
  refine ⟨?_, ?_, ?_⟩
  · rcases known with none | one
    · simp [none]
    · simp [one]
  · intro generation live closed
    have past := first.closed_lt closed
    rcases known with none | one
    · rw [none] at live
      cases live
    · rw [one, List.mem_singleton] at live
      exact Nat.ne_of_lt past live
  · intro generation closed later rest o ho
    rw [rest] at leads
    obtain ⟨k, before, after⟩ := leads.split
    exact Nat.ne_of_gt (Nat.lt_of_lt_of_le (before.closed_lt closed) (after.le_generation ho))

/-- A generation without calls is closed while the load of the one before it still runs. -/
theorem closed_generation_stays_closed_reopened :
    let ms : List Message :=
      [.opened "a", .completed ⟨0, 0⟩ (.session (.ok {})), .closed, .opened "a", .opened "b"]
    let load (t : Ticket) (session : SessionId) : Order := .call t (.loadSession session)
    let orders := [load ⟨0, 0⟩ "a", .close 0, .close 1, load ⟨2, 1⟩ "b"]
    let h : Trace :=
      (orders.take 3).reverse.map .executed ++ orders.reverse.map .sent
    ordersFrom .metricDiscovery ms = orders ∧
      ∃ e, Course echoing h e ∧ e.orders = [load ⟨2, 1⟩ "b"] ∧ e.live.length ≤ 1 ∧
        ∀ o ∈ e.orders, o.generation ≠ 0 := by
  intro ms load orders h
  have stream : ordersFrom .metricDiscovery ms = orders := rfl
  have whole : Course echoing h
      { orders := [load ⟨2, 1⟩ "b"], started := 1
        running := [⟨0, ⟨0, 0⟩, .loadSession "a", true⟩] } :=
    .executed (.executed (.executed (.sent _ (.sent _ (.sent _ (.sent _ .new)))) rfl rfl) rfl rfl)
      rfl rfl
  have sent : h.sent <+: ordersFrom .metricDiscovery ms := stream ▸ List.prefix_refl _
  obtain ⟨one, -, past⟩ := closed_generation_stays_closed whole sent
  exact ⟨stream, _, whole, rfl, one, past 0 (.tail _ (.head _)) [load ⟨2, 1⟩ "b"] stream⟩

end Host

end AnalysisPanel
