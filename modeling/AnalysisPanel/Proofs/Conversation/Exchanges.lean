import AnalysisPanel.Conversation.Transcript

/-! The shape of a conversation: questions, each with at most one answer, and at most one checklist,
which waits at the end for the question before it. -/

namespace AnalysisPanel

/-! ## Questions and answers -/

/-- Questions, each followed by at most one answer. -/
inductive Exchanges : List Entry → Prop where
  | nil : Exchanges []
  | unanswered {es} (text : String) : Exchanges es → Exchanges (es ++ [.user text])
  | answered {es} (text : String) (answer link : Option String) : Exchanges es →
      Exchanges (es ++ [.user text, .assistant answer link])

theorem Exchanges.not_isSelectionPrompt {es : List Entry} (x : Exchanges es) :
    ∀ e ∈ es, e.isSelectionPrompt = false := by
  induction x with
  | nil => simp
  | unanswered text _ ih =>
    intro e he
    rcases List.mem_append.mp he with he | he
    · exact ih e he
    · rw [List.mem_singleton.mp he]
      rfl
  | answered text answer link _ ih =>
    intro e he
    rcases List.mem_append.mp he with he | he
    · exact ih e he
    · simp only [List.mem_cons, List.not_mem_nil, or_false] at he
      rcases he with rfl | rfl <;> rfl

/-- What stands before an open question is complete. -/
theorem Exchanges.of_unanswered {es : List Entry} {text : String}
    (x : Exchanges (es ++ [.user text])) : Exchanges es := by
  generalize hall : es ++ [.user text] = all at x
  cases x with
  | nil => simp at hall
  | unanswered text' x =>
    obtain ⟨same, -⟩ := List.append_inj' hall rfl
    rw [same]
    exact x
  | @answered front text' answer link x =>
    have last := congrArg List.getLast? hall
    simp at last

namespace Transcript

/-- Exchanges, and at the end perhaps a question whose checklist waits. -/
def Orderly (t : Transcript) : Prop :=
  Exchanges t.entries ∨
    ∃ es text, Exchanges es ∧ t.entries = es ++ [.user text, .selectionPrompt]

/-! ## Checklists in a transcript -/

@[simp] theorem hasPending_append (t : Transcript) (e : Entry) :
    (t.append e).hasPending = (t.hasPending || e.isSelectionPrompt) := by
  simp [hasPending]

@[simp] theorem hasPending_dropPending (t : Transcript) : t.dropPending.hasPending = false := by
  simp [hasPending]

theorem dropPending_of_not_hasPending {t : Transcript} (h : t.hasPending = false) :
    t.dropPending = t := by
  have plain : t.entries.filter (fun e => !e.isSelectionPrompt) = t.entries := by
    apply List.filter_eq_self.mpr
    intro e he
    have := List.any_eq_false.mp h e he
    simpa using this
  rw [dropPending, plain]

theorem dropPending_append_of_not {t : Transcript} {e : Entry} (h : e.isSelectionPrompt = false) :
    (t.append e).dropPending = t.dropPending.append e := by
  simp [dropPending, append, h]

@[simp] theorem dropPending_append_selectionPrompt (t : Transcript) :
    (t.append .selectionPrompt).dropPending = t.dropPending := by
  simp [dropPending, append, Entry.isSelectionPrompt]

theorem hasPending_of_exchanges {t : Transcript} (x : Exchanges t.entries) :
    t.hasPending = false := by
  apply List.any_eq_false.mpr
  intro e he
  simp [x.not_isSelectionPrompt e he]

/-- Without its checklist an orderly transcript is made of exchanges. -/
theorem Orderly.exchanges_dropPending {t : Transcript} (o : t.Orderly) :
    Exchanges t.dropPending.entries := by
  rcases o with x | ⟨es, text, x, hes⟩
  · rw [dropPending_of_not_hasPending (hasPending_of_exchanges x)]
    exact x
  · have plain : es.filter (fun e => !e.isSelectionPrompt) = es := by
      apply List.filter_eq_self.mpr
      intro e he
      simp [x.not_isSelectionPrompt e he]
    rw [entries_dropPending, hes, List.filter_append, plain]
    exact .unanswered text x

theorem Orderly.exchanges {t : Transcript} (o : t.Orderly) (h : t.hasPending = false) :
    Exchanges t.entries := by
  have x := o.exchanges_dropPending
  rw [dropPending_of_not_hasPending h] at x
  exact x

theorem orderly_append_user {t : Transcript} (o : t.Orderly) (h : t.hasPending = false)
    (text : String) : (t.append (.user text)).Orderly :=
  .inl (.unanswered text (o.exchanges h))

/-- The question that ends a transcript may be answered or given a checklist. -/
theorem Orderly.append_reply {t : Transcript} {es : List Entry} {text : String} {e : Entry}
    (o : t.Orderly) (h : t.hasPending = false) (open' : t.entries = es ++ [.user text])
    (reply : e.question? = none) : (t.append e).Orderly := by
  have x : Exchanges es := by
    have x := o.exchanges h
    rw [open'] at x
    exact x.of_unanswered
  cases e with
  | user text' => cases reply
  | assistant answer link =>
    refine .inl ?_
    rw [entries_append, open', List.append_assoc]
    exact .answered text answer link x
  | selectionPrompt =>
    refine .inr ⟨es, text, x, ?_⟩
    rw [entries_append, open', List.append_assoc]
    rfl

theorem Orderly.dropPending {t : Transcript} (o : t.Orderly) : t.dropPending.Orderly :=
  .inl o.exchanges_dropPending

end Transcript

end AnalysisPanel
