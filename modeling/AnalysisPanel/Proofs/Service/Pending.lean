import AnalysisPanel.Service.Engine

/-! Calls on their way through the engine. A call waits in the queue, runs, and comes back; no move
of the engine loses it on the way, unless its generation is closed while it runs. -/

namespace AnalysisPanel.Service

/-! ## Items -/

/-- A call on its way: its ticket and what it asks for. -/
abbrev Item := Ticket × Operation

def Order.item? : Order → Option Item
  | .call t request => some (t, request.operation)
  | .close _ => none

/-- A call that was cancelled leads to no completion. -/
def Running.item? (r : Running) : Option Item :=
  if r.cancelled then none else some (r.ticket, r.call.operation)

def Completion.item (c : Completion) : Item := (c.ticket, c.reply.operation)

/-- In a list without two members of one key, a member is the only one of its key. -/
theorem filter_key_eq_singleton {α β : Type} [DecidableEq β] {key : α → β} {l : List α} {a : α}
    (distinct : (l.map key).Nodup) (ha : a ∈ l) : l.filter (fun x => key x == key a) = [a] := by
  induction l with
  | nil => cases ha
  | cons b rest ih =>
    obtain ⟨fresh, distinct⟩ := List.nodup_cons.mp distinct
    rcases List.mem_cons.mp ha with rfl | ha
    · have others : rest.filter (fun x => key x == key a) = [] := by
        apply List.filter_eq_nil_iff.mpr
        intro x hx same
        exact fresh (eq_of_beq same ▸ List.mem_map_of_mem hx)
      simp only [List.filter_cons, beq_self_eq_true, if_true, others]
    · have other : key b ≠ key a := by
        intro same
        exact fresh (same ▸ List.mem_map_of_mem ha)
      simp only [List.filter_cons, beq_eq_false_iff_ne.mpr other, Bool.false_eq_true, if_false]
      exact ih distinct ha

namespace Engine

/-- The calls that a completion is still to come from: those ordered, those that run and were not
cancelled, and those that have come back. -/
def pending (e : Engine) : List Item :=
  e.orders.filterMap Order.item? ++ e.running.filterMap Running.item? ++
    e.completions.map Completion.item

/-- Puts orders at the end of the queue. -/
def submitAll (e : Engine) (os : List Order) : Engine := { e with orders := e.orders ++ os }

@[simp] theorem submitAll_nil (e : Engine) : e.submitAll [] = e := by simp [submitAll]

/-- Calls that run are told apart by their numbers. -/
structure Numbered (e : Engine) : Prop where
  distinct : (e.running.map (·.number)).Nodup
  older : ∀ r ∈ e.running, r.number < e.started

variable {e e' : Engine} {notes : List EngineNote}

theorem numbered_new : Numbered {} := ⟨.nil, fun _ hr => by cases hr⟩

/-! ## Moves of the engine -/

theorem pending_submitAll (e : Engine) (os : List Order) :
    (e.submitAll os).pending.Perm (os.filterMap Order.item? ++ e.pending) := by
  simp only [pending, submitAll, List.filterMap_append]
  rw [← List.append_assoc, ← List.append_assoc]
  exact (List.perm_append_comm.append_right _).append_right _

theorem pending_start (e : Engine) (t : Ticket) (call : Call) :
    (e.start t call).1.pending.Perm ((t, call.operation) :: e.pending) := by
  simp only [pending, start, List.filterMap_append]
  have one : [(⟨e.started, t, call, false⟩ : Running)].filterMap Running.item? =
      [(t, call.operation)] := rfl
  rw [one, ← List.append_assoc]
  exact (List.perm_append_singleton _ _).append_right _

theorem Numbered.start (n : e.Numbered) (t : Ticket) (call : Call) :
    (e.start t call).1.Numbered where
  distinct := by
    simp only [Engine.start, List.map_append]
    refine List.nodup_append.mpr ⟨n.distinct, by simp, ?_⟩
    intro a ha b hb same
    obtain ⟨r, hr, rfl⟩ := List.mem_map.mp ha
    rw [List.map_singleton, List.mem_singleton] at hb
    exact Nat.ne_of_lt (n.older r hr) (same.trans hb)
  older r hr := by
    rcases List.mem_append.mp hr with hr | hr
    · exact Nat.lt_succ_of_lt (n.older r hr)
    · rw [List.mem_singleton.mp hr]
      exact Nat.lt_succ_self _

/-- A call that runs, once a generation is closed. -/
def cancelledBy (generation : Nat) (r : Running) : Running :=
  if r.ticket.generation = generation then { r with cancelled := true } else r

theorem item?_cancelledBy (generation : Nat) (r : Running) :
    (cancelledBy generation r).item? =
      if r.ticket.generation = generation then none else r.item? := by
  unfold cancelledBy
  split <;> rfl

theorem number_cancelledBy (generation : Nat) (r : Running) :
    (cancelledBy generation r).number = r.number := by
  unfold cancelledBy
  split <;> rfl

/-- Calls of a generation and the calls that run once it is closed are all that run. -/
theorem items_cancelledBy (running : List Running) (generation : Nat) :
    ((running.filter fun r => r.ticket.generation == generation).filterMap Running.item? ++
        (running.map (cancelledBy generation)).filterMap Running.item?).Perm
      (running.filterMap Running.item?) := by
  have kept : (running.map (cancelledBy generation)).filterMap Running.item? =
      (running.filter fun r => !(r.ticket.generation == generation)).filterMap Running.item? := by
    rw [List.filterMap_map, List.filterMap_filter]
    congr 1
    funext r
    by_cases same : r.ticket.generation = generation
    · simp [item?_cancelledBy, same]
    · simp [item?_cancelledBy, same]
  rw [kept, ← List.filterMap_append]
  exact (List.filter_append_perm _ running).filterMap Running.item?

/-- Closing a generation takes away the calls of it that run, and no others. -/
theorem pending_close (e : Engine) (generation : Nat) :
    ∃ lost, e.pending.Perm (lost ++ (e.close generation).1.pending) ∧
      ∀ i ∈ lost, i.1.generation = generation := by
  by_cases live : generation ∈ e.live
  · rw [close, if_pos live]
    refine ⟨(e.running.filter fun r => r.ticket.generation == generation).filterMap Running.item?,
      ?_, ?_⟩
    · have all := ((items_cancelledBy e.running generation).append_left
        (e.orders.filterMap Order.item?)).append_right (e.completions.map Completion.item)
      refine all.symm.trans ?_
      simp only [pending, List.append_assoc]
      exact List.perm_append_comm_assoc ..
    · intro i hi
      obtain ⟨r, hr, item⟩ := List.mem_filterMap.mp hi
      have same := eq_of_beq (List.mem_filter.mp hr).2
      unfold Running.item? at item
      split at item
      · cases item
      · cases item
        exact same
  · rw [close, if_neg live]
    exact ⟨[], .rfl, fun _ hi => by cases hi⟩

theorem Numbered.close (n : e.Numbered) (generation : Nat) :
    (e.close generation).1.Numbered := by
  unfold Engine.close
  split
  · have numbers : (e.running.map (cancelledBy generation)).map (·.number) =
        e.running.map (·.number) := by
      simp [Function.comp_def, number_cancelledBy]
    refine ⟨?_, ?_⟩
    · exact numbers ▸ n.distinct
    · intro r hr
      obtain ⟨r', hr', rfl⟩ := List.mem_map.mp hr
      have older := n.older r' hr'
      rw [← number_cancelledBy generation r'] at older
      exact older
  · exact n

theorem running_finish (e : Engine) (r : Running) (reply : Reply Failure) :
    (e.finish r reply).1.running = e.running.filter fun other => other.number != r.number := by
  unfold finish
  dsimp only
  split <;> rfl

theorem Numbered.finish (n : e.Numbered) (r : Running) (reply : Reply Failure) :
    (e.finish r reply).1.Numbered where
  distinct := by
    rw [running_finish]
    exact n.distinct.sublist (List.filter_sublist.map _)
  older other hother := by
    rw [running_finish] at hother
    have older := n.older other (List.mem_filter.mp hother).1
    unfold Engine.finish
    dsimp only
    split <;> exact older

/-- A call that runs and the others are all that run. -/
theorem items_others (n : e.Numbered) {r : Running} (hr : r ∈ e.running) :
    (r.item?.toList ++
        (e.running.filter fun other => other.number != r.number).filterMap Running.item?).Perm
      (e.running.filterMap Running.item?) := by
  have whole := List.filter_append_perm (fun other => other.number == r.number) e.running
  rw [filter_key_eq_singleton n.distinct hr] at whole
  have items := whole.filterMap Running.item?
  rw [List.filterMap_append] at items
  cases item : r.item? with
  | none => simpa [item, bne] using items
  | some i => simpa [item, bne] using items

theorem perm_moved (orders running completions : List Item) (i : Item) :
    (orders ++ running ++ (completions ++ [i])).Perm (orders ++ i :: running ++ completions) := by
  have last : (orders ++ running ++ (completions ++ [i])).Perm
      (i :: (orders ++ running ++ completions)) := by
    rw [← List.append_assoc]
    exact List.perm_append_singleton ..
  exact last.trans (List.perm_middle.append_right completions).symm

/-- A call that comes back is pending as before, unless it was cancelled: then it was not. -/
theorem pending_finish (n : e.Numbered) {r : Running} (hr : r ∈ e.running) {reply : Reply Failure}
    (kind : reply.operation = r.call.operation) :
    (e.finish r reply).1.pending.Perm e.pending := by
  have all := ((items_others n hr).append_left (e.orders.filterMap Order.item?)).append_right
    (e.completions.map Completion.item)
  refine .trans ?_ all
  cases cancelled : r.cancelled with
  | true =>
    have item : r.item? = none := by
      rw [Running.item?, cancelled]
      rfl
    rw [finish, cancelled, item]
    exact .rfl
  | false =>
    have item : r.item? = some (r.ticket, reply.operation) := by
      rw [Running.item?, cancelled, kind]
      rfl
    rw [finish, cancelled, item]
    simp only [pending, Bool.false_eq_true, if_false, List.map_append]
    exact perm_moved ..

theorem take?_eq_some {c : Completion} (taken : e.take? = some (c, e')) :
    ∃ rest, e.completions = c :: rest ∧ e' = { e with completions := rest } := by
  unfold take? at taken
  split at taken
  · cases taken
  · rename_i rest completions
    cases taken
    exact ⟨rest, completions, rfl⟩

/-- The completion taken was pending; the others still are. -/
theorem pending_take? {c : Completion} (taken : e.take? = some (c, e')) :
    e.pending.Perm (c.item :: e'.pending) := by
  obtain ⟨rest, completions, rfl⟩ := take?_eq_some taken
  simp only [pending, completions, List.map_cons]
  exact List.perm_middle

/-! ## The engine by itself -/

/-- What the engine does by itself: it takes on no order, and only calls of a generation it was
told to close get lost. -/
structure Advances (e e' : Engine) : Prop where
  numbered : e'.Numbered
  orders : ∀ o ∈ e'.orders, o ∈ e.orders
  pending : ∃ lost, e.pending.Perm (lost ++ e'.pending) ∧
    ∀ i ∈ lost, .close i.1.generation ∈ e.orders

theorem orders_close (e : Engine) (generation : Nat) :
    (e.close generation).1.orders = e.orders := by
  unfold close
  split <;> rfl

theorem orders_finish (e : Engine) (r : Running) (reply : Reply Failure) :
    (e.finish r reply).1.orders = e.orders := by
  unfold finish
  dsimp only
  split <;> rfl

/-- Carrying out an order does not look at the queue. -/
theorem execute_orders (e : Engine) (os : List Order) (o : Order) :
    (Engine.execute { e with orders := os } o).1 = { (e.execute o).1 with orders := os } := by
  cases o with
  | call t call => rfl
  | close generation =>
    simp only [execute, close]
    split <;> rfl

theorem advances_next? (n : e.Numbered) (next : e.next? = some (e', notes)) : Advances e e' := by
  unfold next? at next
  split at next
  · cases next
  · rename_i o rest queue
    let waiting : Engine := { e with orders := rest }
    have n : waiting.Numbered := ⟨n.distinct, n.older⟩
    obtain rfl : (waiting.execute o).1 = e' := congrArg Prod.fst (Option.some.inj next)
    cases o with
    | call t call =>
      refine ⟨n.start t call, ?_, [], ?_, fun _ hi => by cases hi⟩
      · intro o ho
        rw [queue]
        exact List.mem_cons_of_mem _ ho
      · have before : e.pending = (t, call.operation) :: waiting.pending := by
          simp [pending, queue, waiting, Order.item?]
        rw [before]
        exact (pending_start waiting t call).symm
    | close generation =>
      obtain ⟨lost, split, ofIt⟩ := pending_close waiting generation
      have before : e.pending = waiting.pending := by
        simp only [pending, queue, waiting]
        rfl
      refine ⟨n.close generation, ?_, lost, before ▸ split, ?_⟩
      · intro o ho
        rw [execute, orders_close] at ho
        rw [queue]
        exact List.mem_cons_of_mem _ ho
      · intro i hi
        rw [queue, ofIt i hi]
        exact List.mem_cons_self

theorem advances_finish (n : e.Numbered) {r : Running} (hr : r ∈ e.running)
    {reply : Reply Failure} (kind : reply.operation = r.call.operation) :
    Advances e (e.finish r reply).1 where
  numbered := n.finish r reply
  orders o ho := orders_finish e r reply ▸ ho
  pending := ⟨[], (pending_finish n hr kind).symm, fun _ hi => by cases hi⟩

end Engine

end AnalysisPanel.Service
