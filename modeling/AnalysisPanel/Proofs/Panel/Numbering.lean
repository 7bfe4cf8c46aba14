import AnalysisPanel.Proofs.Panel.Tickets

/-! Numbers over a whole run. Every call bears the number of calls before it and the number of
closes before it, and every close is of the generation that as many closes ended before. -/

namespace AnalysisPanel

/-- The generation an effect closes. -/
def Effect.closing? : Effect → Option Nat
  | .closeSession generation => some generation
  | _ => none

/-- The generations that effects close, in order. -/
def closingsOf (es : List Effect) : List Nat := es.filterMap Effect.closing?

/-- The ticket that is due after effects. -/
def ticketAfter (es : List Effect) : Ticket := ⟨(closingsOf es).length, (callsOf es).length⟩

/-- A call bears the ticket that is due, and a close is of the generation that is due. -/
def Effect.Due (earlier : List Effect) : Effect → Prop
  | .issue t _ => t = ticketAfter earlier
  | .closeSession generation => generation = (ticketAfter earlier).generation
  | _ => True

@[simp] theorem closingsOf_append (es fs : List Effect) :
    closingsOf (es ++ fs) = closingsOf es ++ closingsOf fs :=
  List.filterMap_append ..

theorem closingsOf_demandsOf (es : List Effect) : closingsOf (demandsOf es) = closingsOf es := by
  rw [closingsOf, demandsOf, List.filterMap_filter, closingsOf]
  congr 1
  funext e
  cases e <;> rfl

theorem ticketAfter_demandsOf (es : List Effect) : ticketAfter (demandsOf es) = ticketAfter es := by
  rw [ticketAfter, closingsOf_demandsOf, callsOf_demandsOf, ticketAfter]

theorem ticketAfter_issue (es : List Effect) (t : Ticket) (call : Call) :
    ticketAfter (es ++ [.issue t call]) =
      ⟨(ticketAfter es).generation, (ticketAfter es).seq + 1⟩ := by
  simp [ticketAfter, closingsOf, callsOf, Effect.closing?, Effect.call?]

theorem ticketAfter_closeSession (es : List Effect) (generation : Nat) :
    ticketAfter (es ++ [.closeSession generation]) =
      ⟨(ticketAfter es).generation + 1, (ticketAfter es).seq⟩ := by
  simp [ticketAfter, closingsOf, callsOf, Effect.closing?, Effect.call?]

namespace Panel

variable {variant : Variant} {h : History} {p q : Panel} {m : Message} {es earlier : List Effect}

theorem closingsOf_closing (p : Panel) : closingsOf p.closing = [p.generation] := by
  unfold closing
  split <;> rfl

/-- If the next ticket of a panel is the one that is due, then what a step issues and closes is due,
and so is the next ticket after it. -/
theorem Issues.due (i : Issues p m q es) (due : p.nextTicket = ticketAfter earlier) :
    Along Effect.Due earlier es ∧ q.nextTicket = ticketAfter (earlier ++ es) := by
  have next (l : Ledger) (h : q.ledger = l) : q.nextTicket = ⟨l.generation, l.nextSeq⟩ := by
    rw [← h]
    rfl
  have generation : p.generation = (ticketAfter earlier).generation :=
    congrArg Ticket.generation due
  have seq : p.nextSeq = (ticketAfter earlier).seq := congrArg Ticket.seq due
  cases i with
  | kept _ _ h | released _ h | settled _ h =>
    rw [next _ h, List.append_nil]
    exact ⟨trivial, due⟩
  | called _ _ h | loading _ _ _ h =>
    rw [next _ h, ticketAfter_issue, ← generation, ← seq]
    exact ⟨⟨due, trivial⟩, rfl⟩
  | closed _ h =>
    rw [next _ h, ticketAfter_closeSession, ← generation, ← seq]
    exact ⟨⟨generation, trivial⟩, rfl⟩
  | reloading session _ _ h =>
    -- the close comes first, so the load is counted in the next generation
    have closed := ticketAfter_closeSession earlier p.generation
    rw [next _ h, List.append_cons, ticketAfter_issue, closed, ← generation, ← seq]
    refine ⟨⟨generation, ?_, trivial⟩, rfl⟩
    rw [Effect.Due, closed, ← generation, ← seq]

theorem Run.due (r : Run variant h p) :
    Along Effect.Due [] (demandsOf h.effects) ∧ p.nextTicket = ticketAfter (demandsOf h.effects) :=
  r.along_demands (I := fun p es => p.nextTicket = ticketAfter es) rfl
    (fun step due => step.issues.due due) fun due => due

/-- Wherever a run asks for a call or a close, it bears the numbers that are due. -/
theorem Run.due_at (r : Run variant h p) {pre post : List Effect} {e : Effect}
    (demand : e.isDemand = true) (cut : h.effects = pre ++ e :: post) : e.Due pre := by
  have due := r.due.1.at (demandsOf_cut demand cut)
  cases e with
  | issue t call => exact due.trans (ticketAfter_demandsOf pre)
  | closeSession generation =>
    exact due.trans (congrArg Ticket.generation (ticketAfter_demandsOf pre))
  | _ => trivial

/-- Neither counter of a panel is greater than the number of messages in its run. -/
theorem Run.counters_le_length (r : Run variant h p) :
    p.generation ≤ h.length ∧ p.nextSeq ≤ h.length := by
  induction r using Run.invariant with
  | new => exact ⟨Nat.le_refl 0, Nat.le_refl 0⟩
  | rule _ ih _ step =>
    obtain ⟨generation, seq⟩ := ih
    have numbered := step.issues.nextSeq_eq
    have calls := step.issues.calls
    rw [List.length_cons]
    constructor
    · rcases step.generation with ⟨same, -⟩ | ⟨next, -⟩ <;> omega
    · rcases calls with none | ⟨call, one⟩
      · rw [none, List.length_nil] at numbered
        omega
      · rw [one, List.length_singleton] at numbered
        omega
  | repainted _ ih => exact ih

end Panel

end AnalysisPanel
