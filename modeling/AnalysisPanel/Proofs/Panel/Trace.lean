import AnalysisPanel.Proofs.Panel.Semantics

/-! Runs of a panel with the history of what it was told. The newest step of a history stands
first, so that the most recent step of a kind is the first one found. -/

namespace AnalysisPanel

/-! ## Calls and entries among effects -/

namespace Effect

/-- The call an effect issues. -/
def call? : Effect → Option (Ticket × Call)
  | .issue t call => some (t, call)
  | _ => none

/-- The entry an effect shows. -/
def entry? : Effect → Option Entry
  | .turnAppended e => some e
  | _ => none

end Effect

/-- The calls that effects issue, in order. -/
def callsOf (es : List Effect) : List (Ticket × Call) := es.filterMap Effect.call?

@[simp] theorem callsOf_append (es fs : List Effect) :
    callsOf (es ++ fs) = callsOf es ++ callsOf fs :=
  List.filterMap_append ..

/-- The calls that effects issue through the gate; only session loads pass beside it. -/
def gatedCallsOf (es : List Effect) : List (Ticket × Call) :=
  (callsOf es).filter fun c => decide (c.2.operation ≠ .loadSession)

/-- The reply a message brings, with the ticket it comes under. -/
def Message.reply? : Message → Option (Ticket × Reply TransportFailure)
  | .completed t reply => some (t, reply)
  | _ => none

/-! ## Effects in order -/

/-- Each effect of a list stands in a relation to all effects before it: those that were there
already and those of the list. -/
def Along (P : List Effect → Effect → Prop) : List Effect → List Effect → Prop
  | _, [] => True
  | earlier, e :: es => P earlier e ∧ Along P (earlier ++ [e]) es

theorem along_append {P : List Effect → Effect → Prop} {earlier es fs : List Effect} :
    Along P earlier (es ++ fs) ↔ Along P earlier es ∧ Along P (earlier ++ es) fs := by
  induction es generalizing earlier with
  | nil => simp [Along]
  | cons e es ih => simp [Along, ih, and_assoc]

/-- The relation holds wherever the list is cut in two before one of its effects. -/
theorem Along.at {P : List Effect → Effect → Prop} {es pre post : List Effect} {e : Effect}
    (along : Along P [] es) (cut : es = pre ++ e :: post) : P pre e := by
  rw [cut, along_append] at along
  exact along.2.1

theorem along_of_cuts {P : List Effect → Effect → Prop} {earlier es : List Effect}
    (cuts : ∀ pre e post, es = pre ++ e :: post → P (earlier ++ pre) e) : Along P earlier es := by
  induction es generalizing earlier with
  | nil => trivial
  | cons e es ih =>
    refine ⟨by simpa using cuts [] e es rfl, ih ?_⟩
    rintro pre e' post rfl
    simpa using cuts (e :: pre) e' post rfl

namespace Panel

/-! ## Histories -/

/-- A step taken: the panel before it, what it was told and what it asked for. -/
structure Event where
  before : Panel
  message : Message
  effects : List Effect

/-- The calls issued in a step. -/
def Event.calls (e : Event) : List (Ticket × Call) := callsOf e.effects

/-- The steps of a run, newest first. -/
abbrev History := List Event

namespace History

/-- The calls issued in a history, those of the newest step first. -/
def issued (h : History) : List (Ticket × Call) := h.flatMap Event.calls

/-- The effects asked for in a history, from its first step to its newest. -/
def effects : History → List Effect
  | [] => []
  | e :: h => effects h ++ e.effects

/-- The call that was issued under a ticket. -/
def callOf (h : History) (t : Ticket) : Option Call :=
  (h.issued.find? fun c => c.1 == t).map (·.2)

/-- Every reply that comes under an issued ticket is of the kind of its call. Replies may come
late, twice, in any order or under tickets never issued. -/
def Faithful : History → Prop
  | [] => True
  | e :: h =>
    (∀ r ∈ e.message.reply?, ∀ c ∈ issued h, c.1 = r.1 → r.2.operation = c.2.operation) ∧
      Faithful h

instance decidableFaithful : ∀ h : History, Decidable h.Faithful
  | [] => isTrue trivial
  | _ :: h => @instDecidableAnd _ _ inferInstance (decidableFaithful h)

end History

/-! ## Runs -/

/-- What a new panel may go through. Repaints happen between any two steps. -/
inductive Run (variant : Variant) : History → Panel → Prop where
  | new : Run variant [] (.new variant)
  | tell {h p} (m : Message) : Run variant h p →
      Run variant (⟨p, m, (p.step m).effects⟩ :: h) (p.step m).panel
  | repainted {h p} : Run variant h p → Run variant h p.consumeDirty.2

/-- What holds of a new panel and is kept by every rule and by repaints holds throughout a run. -/
theorem Run.invariant {variant : Variant} {motive : ∀ h p, Run variant h p → Prop}
    (new : motive [] (.new variant) .new)
    (rule : ∀ {h p} {m : Message} (r : Run variant h p), motive h p r →
      ∀ {q es} (r' : Run variant (⟨p, m, es⟩ :: h) q), Rule p m q es → motive _ q r')
    (repainted : ∀ {h p} (r : Run variant h p), motive h p r → motive h _ r.repainted)
    {h : History} {p : Panel} (r : Run variant h p) : motive h p r := by
  induction r with
  | new => exact new
  | tell m before ih => exact rule before ih _ (step_allowed _ m)
  | repainted before ih => exact repainted before ih

/-- A panel that is told messages one after the other, with its history. -/
def tellAll : History × Panel → List Message → History × Panel
  | told, [] => told
  | (h, p), m :: rest => tellAll (⟨p, m, (p.step m).effects⟩ :: h, (p.step m).panel) rest

theorem Run.tellAll {variant : Variant} {h : History} {p : Panel} (r : Run variant h p)
    (messages : List Message) :
    Run variant (Panel.tellAll (h, p) messages).1 (Panel.tellAll (h, p) messages).2 := by
  induction messages generalizing h p with
  | nil => exact r
  | cons m rest ih => exact ih (r.tell m)

end Panel

end AnalysisPanel
