import AnalysisPanel.Proofs.Panel.Causality

/-! Positions in the transcript. Entries are appended at the end, and a checklist, the only entry
that is ever taken out, stands at the end when it goes. So every other entry stays where it is until
the panel closes. -/

namespace AnalysisPanel

/-! ## Transcripts -/

namespace Transcript

/-- Every entry but a checklist stands where it stood. -/
def Keeps (t t' : Transcript) : Prop :=
  ∀ i e, e.isSelectionPrompt = false → t.get? i = some e → t'.get? i = some e

theorem Keeps.refl (t : Transcript) : t.Keeps t := fun _ _ _ h => h

theorem Keeps.trans {t t' t'' : Transcript} (first : t.Keeps t') (second : t'.Keeps t'') :
    t.Keeps t'' :=
  fun i e plain h => second i e plain (first i e plain h)

theorem keeps_append (t : Transcript) (e : Entry) : t.Keeps (t.append e) := by
  intro i e' _ h
  obtain ⟨inside, _⟩ := List.getElem?_eq_some_iff.mp h
  rw [get?, entries_append, List.getElem?_append_left inside]
  exact h

theorem Orderly.keeps_dropPending {t : Transcript} (o : t.Orderly) : t.Keeps t.dropPending := by
  cases pending : t.hasPending with
  | false =>
    rw [dropPending_of_not_hasPending pending]
    exact .refl t
  | true =>
    obtain x | ⟨es, text, x, hes⟩ := o
    · rw [hasPending_of_exchanges x] at pending
      cases pending
    · have split : t.entries = (es ++ [Entry.user text]) ++ [.selectionPrompt] := by simp [hes]
      have plain := (Exchanges.unanswered text x).not_isSelectionPrompt
      have kept : t.dropPending.entries = es ++ [Entry.user text] := by
        rw [entries_dropPending, split, List.filter_append, List.filter_eq_self.mpr]
        · exact List.append_nil _
        · intro e he
          simp [plain e he]
      intro i e other h
      rw [get?, split] at h
      rw [get?, kept]
      by_cases inside : i < (es ++ [Entry.user text]).length
      · rw [List.getElem?_append_left inside] at h
        exact h
      · -- behind the question there is only the checklist
        rw [List.getElem?_append_right (Nat.le_of_not_lt inside)] at h
        rw [List.mem_singleton.mp (List.mem_of_getElem? h)] at other
        cases other

end Transcript

/-! ## Steps -/

namespace Panel

variable {variant : Variant} {h : History} {p q r : Panel} {m : Message} {es : List Effect}

/-- What a panel may become: its generation grows when it closes, and until it does no entry but a
checklist leaves its place. -/
structure Later (p q : Panel) : Prop where
  generation : p.generation ≤ q.generation
  keeps : q.generation = p.generation → p.transcript.Keeps q.transcript

theorem Later.refl (p : Panel) : p.Later p := ⟨Nat.le_refl _, fun _ => .refl _⟩

theorem Later.trans (first : p.Later q) (second : q.Later r) : p.Later r where
  generation := Nat.le_trans first.generation second.generation
  keeps same := by
    have before := first.generation
    have after := second.generation
    have mid : q.generation = p.generation := by omega
    exact (first.keeps mid).trans (second.keeps (same.trans mid.symm))

theorem Causal.keeps_completing (c : Causal h p) {reply : Reply TransportFailure}
    (step : Completing p reply q es) : p.transcript.Keeps q.transcript := by
  cases step with
  | offered _ _ => exact Transcript.keeps_append _ _
  | answered text => exact Transcript.keeps_append _ _
  | deliveredSelection link _ =>
    exact c.orderly.keeps_dropPending.trans (Transcript.keeps_append _ _)
  | deliveredTable link _ => exact Transcript.keeps_append _ _
  | _ => exact .refl _

/-- A step that takes entries out, other than a checklist at the end, closes the panel. -/
theorem Causal.later (c : Causal h p) (step : Rule p m q es) : p.Later q := by
  have grown (next : q.generation = p.generation + 1) : p.Later q := by
    refine ⟨by omega, fun same => ?_⟩
    omega
  have held (same : q.generation = p.generation) (keeps : p.transcript.Keeps q.transcript) :
      p.Later q :=
    ⟨Nat.le_of_eq same.symm, fun _ => keeps⟩
  cases step with
  | opened _ _ o => cases o <;> exact held rfl (.refl _)
  | switched _ _ _ o => cases o <;> exact grown rfl
  | closed _ => exact grown rfl
  | drafted text _ =>
    obtain ⟨dirty, same⟩ := p.setDraft_eq text
    rw [same]
    exact ⟨Nat.le_refl _, fun _ => .refl _⟩
  | prompted _ _ _ _ => exact held rfl (Transcript.keeps_append _ _)
  | tabled _ _ => exact held rfl (Transcript.keeps_append _ _)
  | completed t _ step =>
    have keeps := c.keeps_completing step
    cases step <;> exact held rfl keeps
  | _ => exact held rfl (.refl _)

/-- A step that shows an entry shows no other, and leaves it as the last of the transcript. -/
theorem Grows.shows {ev : Event} {t : Transcript} (g : Grows h p ev t) {e : Entry}
    {before after : List Effect} (cut : ev.effects = before ++ .turnAppended e :: after) :
    before.filterMap Effect.entry? = [] ∧ after.filterMap Effect.entry? = [] ∧
      ∃ front, t.entries = front ++ [e] := by
  have entries : ev.entries =
      before.filterMap Effect.entry? ++ e :: after.filterMap Effect.entry? := by
    rw [Event.entries, cut, List.filterMap_append]
    rfl
  have one {entry : Entry} (shown : ev.entries = [entry])
      (ends : ∃ front, t.entries = front ++ [entry]) :
      before.filterMap Effect.entry? = [] ∧ after.filterMap Effect.entry? = [] ∧
        ∃ front, t.entries = front ++ [e] := by
    rw [entries] at shown
    obtain ⟨first, last⟩ | ⟨-, nothing⟩ := List.append_eq_singleton_iff.mp shown
    · obtain ⟨rfl, rest⟩ := List.cons.inj last
      exact ⟨first, rest, ends⟩
    · cases nothing
  cases g with
  | kept silent =>
    rw [entries] at silent
    simp at silent
  | emptied silent =>
    rw [entries] at silent
    simp at silent
  | asked text shown => exact one shown ⟨_, rfl⟩
  | replied pre question entry shown _ _ ends _ _ =>
    refine one shown ⟨pre ++ [.user question.text], ?_⟩
    rw [ends, List.append_assoc]
    rfl

end Panel

end AnalysisPanel
