import AnalysisPanel.Service.Exchange
import AnalysisPanel.Proofs.Service.Pending

/-! Completions of calls. Orders are carried out in the order in which they were sent, calls come
back in any order, and each completion is of one call, under the ticket and with the reply of that
call. Only a call whose generation is closed while it runs leads to no completion. -/

namespace AnalysisPanel.Service

/-! ## Services -/

/-- What the services may bring for each operation, given its arguments. -/
structure Backend where
  loads : SessionId → Except Failure SessionContext → Prop
  discovers : DiscoverRequest → Except Failure Discovery → Prop
  synthesizes : SynthesisRequest → Except Failure Json.Value → Prop
  delivers : Json.Value → Except Failure String → Prop
  reports : SessionId → List HistoryTurn → Except Failure Bytes → Prop

/-- A reply to a call: what the services bring for its operation and its own arguments. -/
inductive Backend.Answers (b : Backend) : Call → Reply Failure → Prop where
  | loaded {session result} : b.loads session result →
      Answers b (.loadSession session) (.session result)
  | discovered {request result} : b.discovers request result →
      Answers b (.discover request) (.discovery result)
  | synthesized {request result} : b.synthesizes request result →
      Answers b (.synthesize request) (.synthesis result)
  | delivered {payload result} : b.delivers payload result →
      Answers b (.deliver payload) (.delivery result)
  | reported {session extra result} : b.reports session extra result →
      Answers b (.generateReport session extra) (.report result)

theorem Backend.Answers.operation {b : Backend} {call : Call} {reply : Reply Failure}
    (answers : b.Answers call reply) : reply.operation = call.operation := by
  cases answers <;> rfl

theorem operation_perform (settings : Settings) (answer : Request → Answer) (call : Call) :
    (perform settings answer call).operation = call.operation := by
  unfold perform
  split
  · exact Reply.operation_failed ..
  · dsimp only
    split
    · exact Reply.operation_failed ..
    · cases call with
      | discover request => cases request <;> rfl
      | _ => rfl

/-! ## Traces -/

/-- What happens at an engine: an order is sent, or is the next to be carried out; the call of a
number comes back; a completion is handed to the host. -/
inductive Move where
  | sent (o : Order)
  | executed (o : Order)
  | returned (number : Nat) (reply : Reply Failure)
  | handed (c : Completion)

def Order.call? : Order → Option (Ticket × Call)
  | .call t request => some (t, request)
  | .close _ => none

namespace Move

def sent? : Move → Option Order
  | .sent o => some o
  | _ => none

def executed? : Move → Option Order
  | .executed o => some o
  | _ => none

def returned? : Move → Option Nat
  | .returned number _ => some number
  | _ => none

def handed? : Move → Option Completion
  | .handed c => some c
  | _ => none

end Move

/-- The moves of an engine, newest first. -/
abbrev Trace := List Move

namespace Trace

/-- The orders sent, in their order. -/
def sent (h : Trace) : List Order := (h.filterMap Move.sent?).reverse

/-- The orders carried out, in their order. -/
def executed (h : Trace) : List Order := (h.filterMap Move.executed?).reverse

/-- The calls started, in their order: the number of a call is its place in this list. -/
def started (h : Trace) : List (Ticket × Call) := h.executed.filterMap Order.call?

/-- The numbers of the calls that came back. -/
def returned (h : Trace) : List Nat := h.filterMap Move.returned?

/-- The completions that the host received, in their order. -/
def handed (h : Trace) : List Completion := (h.filterMap Move.handed?).reverse

end Trace

/-- A call whose generation was closed while it ran: after it was started and before it came back,
a close of its generation was carried out. -/
inductive Silenced : Trace → Nat → Prop where
  | closed {h : Trace} {number : Nat} {t : Ticket} {call : Call} :
      h.started[number]? = some (t, call) → number ∉ h.returned →
      Silenced (.executed (.close t.generation) :: h) number
  | since {h : Trace} {number : Nat} (m : Move) : Silenced h number → Silenced (m :: h) number

/-- What a new engine may go through with a backend. -/
inductive Course (b : Backend) : Trace → Engine → Prop where
  | new : Course b [] {}
  | sent {h e} (o : Order) : Course b h e → Course b (.sent o :: h) (e.submit o)
  | executed {h e o e' notes} : Course b h e → e.orders.head? = some o →
      e.next? = some (e', notes) → Course b (.executed o :: h) e'
  | returned {h e r reply} : Course b h e → r ∈ e.running → b.Answers r.call reply →
      Course b (.returned r.number reply :: h) (e.finish r reply).1
  | handed {h e c e'} : Course b h e → e.take? = some (c, e') → Course b (.handed c :: h) e'

variable {b : Backend} {h : Trace} {e e' : Engine} {m : Move} {number : Nat}

/-! ## The queue -/

namespace Trace

@[simp] theorem sent_sent (o : Order) : sent (.sent o :: h) = h.sent ++ [o] := List.reverse_cons

@[simp] theorem executed_executed (o : Order) : executed (.executed o :: h) = h.executed ++ [o] :=
  List.reverse_cons

@[simp] theorem handed_handed (c : Completion) : handed (.handed c :: h) = h.handed ++ [c] :=
  List.reverse_cons

theorem started_call (t : Ticket) (call : Call) :
    started (.executed (.call t call) :: h) = h.started ++ [(t, call)] := by
  rw [started, executed_executed, List.filterMap_append]
  rfl

theorem started_close (generation : Nat) :
    started (.executed (.close generation) :: h) = h.started := by
  rw [started, executed_executed, List.filterMap_append]
  exact List.append_nil _

theorem executed_cons (m : Move) (h : Trace) : ∃ more, executed (m :: h) = h.executed ++ more := by
  cases m with
  | executed o => exact ⟨[o], executed_executed o⟩
  | _ => exact ⟨[], (List.append_nil _).symm⟩

theorem started_cons (m : Move) (h : Trace) : ∃ more, started (m :: h) = h.started ++ more := by
  obtain ⟨more, grown⟩ := executed_cons m h
  refine ⟨more.filterMap Order.call?, ?_⟩
  rw [started, grown, List.filterMap_append]
  rfl

/-- A call keeps its number. -/
theorem started_of_started {c : Ticket × Call} (m : Move) (call : h.started[number]? = some c) :
    (started (m :: h))[number]? = some c := by
  obtain ⟨more, grown⟩ := h.started_cons m
  rw [grown, List.getElem?_append_left (List.getElem?_eq_some_iff.mp call).1]
  exact call

end Trace

theorem next?_of_head? {o : Order} {notes : List EngineNote} (first : e.orders.head? = some o)
    (next : e.next? = some (e', notes)) :
    ∃ rest, e.orders = o :: rest ∧ e' = (Engine.execute { e with orders := rest } o).1 := by
  cases queue : e.orders with
  | nil =>
    rw [queue] at first
    cases first
  | cons o' rest =>
    rw [queue] at first
    obtain rfl : o' = o := Option.some.inj first
    rw [Engine.next?, queue] at next
    exact ⟨rest, rfl, (congrArg Prod.fst (Option.some.inj next)).symm⟩

theorem Course.queue (c : Course b h e) : h.sent = h.executed ++ e.orders := by
  induction c with
  | new => rfl
  | sent o _ ih =>
    rw [Trace.sent_sent, ih, List.append_assoc]
    rfl
  | @executed h e o e' notes _ first next ih =>
    obtain ⟨rest, queue, rfl⟩ := next?_of_head? first next
    have sent : Trace.sent (.executed o :: h) = h.sent := rfl
    rw [sent, ih, queue, Trace.executed_executed, Engine.execute_orders, List.append_assoc]
    rfl
  | returned _ _ _ ih =>
    rw [Engine.orders_finish]
    exact ih
  | handed _ taken ih =>
    obtain ⟨rest, -, rfl⟩ := Engine.take?_eq_some taken
    exact ih

/-! ## Calls that run -/

theorem Silenced.lt (s : Silenced h number) : number < h.started.length := by
  induction s with
  | closed call _ =>
    rw [Trace.started_close]
    exact (List.getElem?_eq_some_iff.mp call).1
  | @since h _ m _ ih =>
    obtain ⟨more, grown⟩ := h.started_cons m
    rw [grown, List.length_append]
    exact Nat.lt_add_right _ ih

/-- Only a close that is carried out silences a call. -/
theorem silenced_cons_iff (other : ∀ generation, m ≠ .executed (.close generation)) :
    Silenced (m :: h) number ↔ Silenced h number := by
  refine ⟨?_, .since m⟩
  intro silenced
  cases silenced with
  | closed _ _ => exact absurd rfl (other _)
  | since _ before => exact before

/-- What an engine holds of the calls that were started: it runs those that have not come back,
knows the generations of those that were not silenced as live, and the others as cancelled. -/
structure Tracks (h : Trace) (e : Engine) : Prop where
  started : e.started = h.started.length
  returned : ∀ number ∈ h.returned, number < h.started.length
  numbered : e.Numbered
  running : ∀ r ∈ e.running,
    h.started[r.number]? = some (r.ticket, r.call) ∧ r.number ∉ h.returned
  live : ∀ r ∈ e.running, r.cancelled = false → r.ticket.generation ∈ e.live
  cancelled : ∀ r ∈ e.running, r.cancelled = true ↔ Silenced h r.number

theorem tracks_new : Tracks [] {} where
  started := rfl
  returned _ h := by cases h
  numbered := Engine.numbered_new
  running _ h := by cases h
  live _ h := by cases h
  cancelled _ h := by cases h

/-- Moves of the queues leave the calls alone. -/
theorem Tracks.queued (i : Tracks h e) (started : Trace.started (m :: h) = h.started)
    (returned : Trace.returned (m :: h) = h.returned)
    (other : ∀ generation, m ≠ .executed (.close generation)) (orders : List Order)
    (completions : List Completion) : Tracks (m :: h) { e with orders, completions } where
  started := started ▸ i.started
  returned := by
    rw [started, returned]
    exact i.returned
  numbered := ⟨i.numbered.distinct, i.numbered.older⟩
  running := by
    rw [started, returned]
    exact i.running
  live := i.live
  cancelled r hr := (i.cancelled r hr).trans (silenced_cons_iff other).symm

theorem Tracks.start (i : Tracks h e) (t : Ticket) (call : Call) :
    Tracks (.executed (.call t call) :: h) (e.start t call).1 := by
  have older {number : Nat} (lt : number < h.started.length) :
      (h.started ++ [(t, call)])[number]? = h.started[number]? := List.getElem?_append_left lt
  refine ⟨?_, ?_, i.numbered.start t call, ?_, ?_, ?_⟩
  · rw [Trace.started_call, List.length_append, ← i.started]
    rfl
  · intro number back
    rw [Trace.started_call, List.length_append]
    exact Nat.lt_add_right _ (i.returned number back)
  · intro r hr
    rw [Trace.started_call]
    rcases List.mem_append.mp hr with hr | hr
    · obtain ⟨started, out⟩ := i.running r hr
      rw [older (List.getElem?_eq_some_iff.mp started).1]
      exact ⟨started, out⟩
    · rw [List.mem_singleton.mp hr, i.started]
      refine ⟨List.getElem?_concat_length, ?_⟩
      intro back
      exact Nat.lt_irrefl _ (i.returned _ back)
  · intro r hr waits
    simp only [Engine.start]
    rcases List.mem_append.mp hr with hr | hr
    · split
      · exact i.live r hr waits
      · exact List.mem_cons_of_mem _ (i.live r hr waits)
    · rw [List.mem_singleton.mp hr]
      split
      · assumption
      · exact List.mem_cons_self
  · intro r hr
    rw [silenced_cons_iff (by simp)]
    rcases List.mem_append.mp hr with hr | hr
    · exact i.cancelled r hr
    · rw [List.mem_singleton.mp hr, i.started]
      constructor
      · intro cancelled
        cases cancelled
      · intro silenced
        exact absurd silenced.lt (Nat.lt_irrefl _)

/-- Whether the generation is live or not, a close leaves the calls of it cancelled. -/
theorem Tracks.running_close (i : Tracks h e) {generation : Nat} {r' : Running}
    (hr' : r' ∈ (e.close generation).1.running) :
    ∃ r ∈ e.running, r' = { r with
      cancelled := r.cancelled || decide (r.ticket.generation = generation) } := by
  unfold Engine.close at hr'
  split at hr'
  · obtain ⟨r, hr, rfl⟩ := List.mem_map.mp hr'
    refine ⟨r, hr, ?_⟩
    by_cases same : r.ticket.generation = generation
    · simp [same]
    · simp [same]
  · -- the generation is not live, so no call of it is left to cancel
    rename_i closed
    have already : (r'.cancelled || decide (r'.ticket.generation = generation)) = r'.cancelled := by
      cases waits : r'.cancelled with
      | true => rfl
      | false =>
        have other : r'.ticket.generation ≠ generation := by
          rintro rfl
          exact closed (i.live r' hr' waits)
        simp [other]
    refine ⟨r', hr', ?_⟩
    rw [already]

theorem Tracks.close (i : Tracks h e) (generation : Nat) :
    Tracks (.executed (.close generation) :: h) (e.close generation).1 := by
  have started : (e.close generation).1.started = e.started := by
    unfold Engine.close
    split <;> rfl
  refine ⟨?_, ?_, i.numbered.close generation, ?_, ?_, ?_⟩
  · rw [started, Trace.started_close]
    exact i.started
  · rw [Trace.started_close]
    exact i.returned
  · intro r' hr'
    obtain ⟨r, hr, rfl⟩ := i.running_close hr'
    rw [Trace.started_close]
    exact i.running r hr
  · intro r' hr' waits
    obtain ⟨r, hr, rfl⟩ := i.running_close hr'
    obtain ⟨before, other⟩ := Bool.or_eq_false_iff.mp waits
    have live := i.live r hr before
    unfold Engine.close
    split
    · exact List.mem_filter.mpr ⟨live, by simpa using other⟩
    · exact live
  · intro r' hr'
    obtain ⟨r, hr, rfl⟩ := i.running_close hr'
    obtain ⟨call, out⟩ := i.running r hr
    simp only [Bool.or_eq_true, decide_eq_true_eq]
    constructor
    · rintro (before | rfl)
      · exact .since _ ((i.cancelled r hr).mp before)
      · exact .closed call out
    · intro silenced
      cases silenced with
      | closed call' _ =>
        rw [call] at call'
        obtain ⟨rfl, -⟩ := Prod.mk.inj (Option.some.inj call')
        exact .inr rfl
      | since _ before => exact .inl ((i.cancelled r hr).mpr before)

theorem Tracks.finish (i : Tracks h e) {r : Running} (hr : r ∈ e.running)
    (reply : Reply Failure) :
    Tracks (.returned r.number reply :: h) (e.finish r reply).1 := by
  have same : (e.finish r reply).1.started = e.started ∧ (e.finish r reply).1.live = e.live := by
    unfold Engine.finish
    dsimp only
    split <;> exact ⟨rfl, rfl⟩
  have left (other : Running) (h : other ∈ (e.finish r reply).1.running) :
      other ∈ e.running ∧ other.number ≠ r.number := by
    rw [Engine.running_finish] at h
    simpa using h
  refine ⟨same.1.trans i.started, ?_, i.numbered.finish r reply, ?_, ?_, ?_⟩
  · intro number back
    rcases List.mem_cons.mp back with rfl | back
    · exact (List.getElem?_eq_some_iff.mp (i.running r hr).1).1
    · exact i.returned number back
  · intro other h
    obtain ⟨running, apart⟩ := left other h
    obtain ⟨call, out⟩ := i.running other running
    exact ⟨call, List.not_mem_cons_of_ne_of_not_mem apart out⟩
  · intro other h waits
    rw [same.2]
    exact i.live other (left other h).1 waits
  · intro other h
    rw [silenced_cons_iff (by simp)]
    exact i.cancelled other (left other h).1

theorem Course.tracks (c : Course b h e) : Tracks h e := by
  induction c with
  | new => exact tracks_new
  | sent o _ i => exact i.queued rfl rfl (by simp) _ _
  | @executed h e o e' notes _ first next i =>
    obtain ⟨rest, -, rfl⟩ := next?_of_head? first next
    have i : Tracks h { e with orders := rest } :=
      ⟨i.started, i.returned, ⟨i.numbered.distinct, i.numbered.older⟩, i.running, i.live,
        i.cancelled⟩
    cases o with
    | call t call => exact i.start t call
    | close generation => exact i.close generation
  | returned _ running _ i => exact i.finish running _
  | handed _ taken i =>
    obtain ⟨rest, -, rfl⟩ := Engine.take?_eq_some taken
    exact i.queued rfl rfl (by simp) _ _

/-! ## Calls that came back -/

/-- The completions of a course: those that the host received, and those that wait for it. -/
def completionsOf (h : Trace) (e : Engine) : List Completion := h.handed ++ e.completions

theorem mem_returned {reply : Reply Failure} (back : .returned number reply ∈ h) :
    number ∈ h.returned :=
  List.mem_filterMap.mpr ⟨_, back, rfl⟩

/-- A call that came back is silenced no more. -/
theorem not_silenced_cons (m : Move) (spared : ¬ Silenced h number) (back : number ∈ h.returned) :
    ¬ Silenced (m :: h) number := by
  intro silenced
  cases silenced with
  | closed _ out => exact out back
  | since _ before => exact spared before

/-- The completions of a course are those of the calls that came back and were not silenced. -/
structure Completes (b : Backend) (h : Trace) (e : Engine) : Prop where
  completed : ∀ c ∈ completionsOf h e, ¬ Silenced h c.number ∧ .returned c.number c.reply ∈ h ∧
    ∃ call, h.started[c.number]? = some (c.ticket, call) ∧ b.Answers call c.reply
  distinct : ((completionsOf h e).map (·.number)).Nodup
  yielded : ∀ number reply, .returned number reply ∈ h → ¬ Silenced h number →
    ∃ t, ⟨number, t, reply⟩ ∈ completionsOf h e

theorem completes_new : Completes b [] {} where
  completed _ h := by cases h
  distinct := .nil
  yielded _ _ h := by cases h

theorem Completes.kept (i : Completes b h e) (quiet : ∀ number reply, m ≠ .returned number reply)
    (same : completionsOf (m :: h) e' = completionsOf h e) : Completes b (m :: h) e' := by
  refine ⟨?_, same ▸ i.distinct, ?_⟩
  · intro c hc
    obtain ⟨spared, back, call, started, answers⟩ := i.completed c (same ▸ hc)
    exact ⟨not_silenced_cons m spared (mem_returned back), List.mem_cons_of_mem _ back, call,
      Trace.started_of_started m started, answers⟩
  · intro number reply back spared
    rw [same]
    rcases List.mem_cons.mp back with now | before
    · exact absurd now.symm (quiet _ _)
    · exact i.yielded number reply before fun silenced => spared (.since m silenced)

theorem completionsOf_finish (r : Running) (reply : Reply Failure) :
    completionsOf (.returned r.number reply :: h) (e.finish r reply).1 =
      completionsOf h e ++ if r.cancelled then [] else [⟨r.number, r.ticket, reply⟩] := by
  unfold Engine.finish
  dsimp only
  cases r.cancelled with
  | true => exact (List.append_nil _).symm
  | false => exact (List.append_assoc ..).symm

theorem Completes.finish (i : Completes b h e) (runs : Tracks h e) {r : Running}
    (hr : r ∈ e.running) {reply : Reply Failure} (answers : b.Answers r.call reply) :
    Completes b (.returned r.number reply :: h) (e.finish r reply).1 := by
  obtain ⟨call, out⟩ := runs.running r hr
  have silenced : r.cancelled = true ↔ Silenced (.returned r.number reply :: h) r.number := by
    rw [silenced_cons_iff (by simp)]
    exact runs.cancelled r hr
  have fresh (c : Completion) (hc : c ∈ completionsOf h e) : c.number ≠ r.number := by
    intro same
    exact out (same ▸ mem_returned (i.completed c hc).2.1)
  refine ⟨?_, ?_, ?_⟩
  · intro c hc
    rw [completionsOf_finish] at hc
    rcases List.mem_append.mp hc with hc | hc
    · obtain ⟨spared, back, call, started, answers⟩ := i.completed c hc
      exact ⟨not_silenced_cons _ spared (mem_returned back), List.mem_cons_of_mem _ back, call,
        Trace.started_of_started _ started, answers⟩
    · split at hc
      · cases hc
      · rename_i waits
        rw [List.mem_singleton.mp hc]
        exact ⟨fun h => waits (silenced.mpr h), List.mem_cons_self, r.call, call, answers⟩
  · rw [completionsOf_finish, List.map_append]
    refine List.nodup_append.mpr ⟨i.distinct, ?_, ?_⟩
    · split <;> simp
    · intro number old number' new same
      obtain ⟨c, hc, rfl⟩ := List.mem_map.mp old
      obtain ⟨c', hc', rfl⟩ := List.mem_map.mp new
      split at hc'
      · cases hc'
      · rw [List.mem_singleton.mp hc'] at same
        exact fresh c hc same
  · intro number reply' back spared
    rw [completionsOf_finish]
    rcases List.mem_cons.mp back with now | before
    · cases now
      rw [if_neg fun cancelled => spared (silenced.mp cancelled)]
      exact ⟨r.ticket, List.mem_append_right _ List.mem_cons_self⟩
    · obtain ⟨t, old⟩ := i.yielded number reply' before fun silenced => spared (.since _ silenced)
      exact ⟨t, List.mem_append_left _ old⟩

theorem Course.completes (c : Course b h e) : Completes b h e := by
  induction c with
  | new => exact completes_new
  | sent o _ i => exact i.kept (by simp) rfl
  | @executed h e o e' notes _ first next i =>
    obtain ⟨rest, -, rfl⟩ := next?_of_head? first next
    refine i.kept (by simp) ?_
    cases o with
    | call t call => rfl
    | close generation =>
      simp only [Engine.execute, Engine.close]
      split <;> rfl
  | returned c running answers i => exact i.finish c.tracks running answers
  | @handed h e c e' _ taken i =>
    obtain ⟨rest, queue, rfl⟩ := Engine.take?_eq_some taken
    refine i.kept (by simp) ?_
    rw [completionsOf, Trace.handed_handed, List.append_assoc, completionsOf, queue]
    rfl

/-! ## The order of commands -/

/-- The call of a number stands in the queue behind as many calls as its number says. -/
theorem split_of_call {os : List Order} {k : Nat} {t : Ticket} {call : Call}
    (found : (os.filterMap Order.call?)[k]? = some (t, call)) :
    ∃ before after, os = before ++ .call t call :: after ∧
      (before.filterMap Order.call?).length = k := by
  induction os generalizing k with
  | nil => cases found
  | cons o os ih =>
    cases o with
    | close generation =>
      obtain ⟨before, after, split, count⟩ := ih found
      exact ⟨.close generation :: before, after, congrArg _ split, count⟩
    | call t' call' =>
      cases k with
      | zero =>
        cases found
        exact ⟨[], os, rfl, rfl⟩
      | succ k =>
        obtain ⟨before, after, split, count⟩ := ih found
        exact ⟨.call t' call' :: before, after, congrArg _ split, congrArg (· + 1) count⟩

/-- What silences a call is a close of its own generation, carried out after the call. -/
theorem Silenced.split (s : Silenced h number) :
    ∃ before t call between after,
      h.executed = before ++ .call t call :: between ++ .close t.generation :: after ∧
        (before.filterMap Order.call?).length = number := by
  induction s with
  | @closed h number t call started _ =>
    obtain ⟨before, between, split, count⟩ := split_of_call started
    refine ⟨before, t, call, between, [], ?_, count⟩
    rw [Trace.executed_executed, split]
  | @since h number m _ ih =>
    obtain ⟨before, t, call, between, after, split, count⟩ := ih
    obtain ⟨more, grown⟩ := h.executed_cons m
    refine ⟨before, t, call, between, after ++ more, ?_, count⟩
    rw [grown, split, List.append_assoc]
    rfl

/-- The completions that an engine yields, received or waiting to be, whatever it is told and in
whatever order calls come back. Each one is of a call of its own, under the ticket of that call and
with a reply that the services bring for its operation and its arguments. A call that a close of
its generation finds running yields none, now or later; every other call that comes back yields
exactly one. What silences a call is a close of its own generation that was sent after it, so
neither other generations nor earlier closes matter. -/
theorem completions_answer_calls (c : Course b h e) :
    (∀ d ∈ completionsOf h e, ∃ call,
      (h.sent.filterMap Order.call?)[d.number]? = some (d.ticket, call) ∧
        .returned d.number d.reply ∈ h ∧ d.reply.operation = call.operation ∧
        b.Answers call d.reply) ∧
    ((completionsOf h e).map (·.number)).Nodup ∧
    (∀ number, Silenced h number → ∀ d ∈ completionsOf h e, d.number ≠ number) ∧
    (∀ number reply, .returned number reply ∈ h → ¬ Silenced h number →
      ∃ t, (completionsOf h e).filter (·.number == number) = [⟨number, t, reply⟩]) ∧
    ∀ number, Silenced h number → ∃ before t call between after,
      h.sent = before ++ .call t call :: between ++ .close t.generation :: after ∧
        (before.filterMap Order.call?).length = number := by
  have i := c.completes
  refine ⟨?_, i.distinct, ?_, ?_, ?_⟩
  · intro d hd
    obtain ⟨-, back, call, started, answers⟩ := i.completed d hd
    refine ⟨call, ?_, back, answers.operation, answers⟩
    rw [c.queue, List.filterMap_append, List.getElem?_append_left]
    · exact started
    · exact (List.getElem?_eq_some_iff.mp started).1
  · rintro _ silenced d hd rfl
    exact (i.completed d hd).1 silenced
  · intro number reply back spared
    obtain ⟨t, yielded⟩ := i.yielded number reply back spared
    exact ⟨t, filter_key_eq_singleton i.distinct yielded⟩
  · intro number silenced
    obtain ⟨before, t, call, between, after, split, count⟩ := silenced.split
    refine ⟨before, t, call, between, after ++ e.orders, ?_, count⟩
    rw [c.queue, split, List.append_assoc]
    rfl

/-- Services that know each session by its name. -/
def echoing : Backend where
  loads session result := result = .ok { summary := session }
  discovers _ result := result = .ok (.candidates [])
  synthesizes _ result := result = .ok .null
  delivers _ result := result = .ok "link"
  reports _ _ result := result = .ok []

/-- Generation 0 is closed while its first call runs, and used again. The call of generation 1 and
the second one of generation 0 yield their completions. -/
theorem completions_answer_calls_reopened :
    let load (t : Ticket) (session : SessionId) : Order := .call t (.loadSession session)
    let loaded (session : SessionId) : Reply Failure := .session (.ok { summary := session })
    let h : Trace :=
      [.returned 1 (loaded "b"), .returned 0 (loaded "a"), .returned 2 (loaded "c"),
        .executed (load ⟨0, 2⟩ "c"), .executed (.close 0), .sent (load ⟨0, 2⟩ "c"),
        .sent (.close 0), .executed (load ⟨1, 1⟩ "b"), .executed (load ⟨0, 0⟩ "a"),
        .sent (load ⟨1, 1⟩ "b"), .sent (load ⟨0, 0⟩ "a")]
    ∃ e, Course echoing h e ∧ Silenced h 0 ∧ (∀ d ∈ completionsOf h e, d.number ≠ 0) ∧
      ((completionsOf h e).map (·.number)).Nodup ∧
      e.completions = [⟨2, ⟨0, 2⟩, loaded "c"⟩, ⟨1, ⟨1, 1⟩, loaded "b"⟩] := by
  intro load loaded h
  have queued : Course echoing [.sent (load ⟨1, 1⟩ "b"), .sent (load ⟨0, 0⟩ "a")]
      { orders := [load ⟨0, 0⟩ "a", load ⟨1, 1⟩ "b"] } := .sent _ (.sent _ .new)
  have running : Course echoing (h.drop 7)
      { live := [1, 0], started := 2
        running := [⟨0, ⟨0, 0⟩, .loadSession "a", false⟩, ⟨1, ⟨1, 1⟩, .loadSession "b", false⟩] } :=
    .executed (.executed queued rfl rfl) rfl rfl
  have reopened : Course echoing (h.drop 3)
      { live := [0, 1], started := 3
        running := [⟨0, ⟨0, 0⟩, .loadSession "a", true⟩, ⟨1, ⟨1, 1⟩, .loadSession "b", false⟩,
          ⟨2, ⟨0, 2⟩, .loadSession "c", false⟩] } :=
    .executed (.executed (.sent _ (.sent _ running)) rfl rfl) rfl rfl
  have second : Course echoing (h.drop 2)
      { live := [0, 1], started := 3
        running := [⟨0, ⟨0, 0⟩, .loadSession "a", true⟩, ⟨1, ⟨1, 1⟩, .loadSession "b", false⟩]
        completions := [⟨2, ⟨0, 2⟩, loaded "c"⟩] } :=
    .returned reopened (.tail _ (.tail _ (.head _))) (.loaded rfl)
  have whole : Course echoing h
      { live := [0, 1], started := 3
        completions := [⟨2, ⟨0, 2⟩, loaded "c"⟩, ⟨1, ⟨1, 1⟩, loaded "b"⟩] } :=
    .returned (.returned second (.head _) (.loaded rfl)) (.head _) (.loaded rfl)
  have silenced : Silenced h 0 :=
    .since _ (.since _ (.since _ (.since _ (.closed (t := ⟨0, 0⟩) rfl List.not_mem_nil))))
  obtain ⟨-, distinct, none, -, -⟩ := completions_answer_calls whole
  exact ⟨_, whole, silenced, none 0 silenced, distinct, rfl⟩

end AnalysisPanel.Service
