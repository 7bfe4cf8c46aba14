import AnalysisPanel.Proofs.Panel.Semantics

/-! Every rule is carried out by a step, so the guards of the rules say exactly when a message is
passed over, turned down or acted upon. -/

namespace AnalysisPanel.Panel

/-! ## Steps that change nothing -/

theorem step_of_ignores {p : Panel} {m : Message} (h : p.Ignores m) :
    (p.step m).panel = p ∧ (p.step m).effects = [] := by
  cases m with
  | opened session =>
    obtain ⟨isOpen, same⟩ := h
    simp only [step, openFor, isOpen, same, if_true]
    exact ⟨rfl, rfl⟩
  | closed =>
    have isClosed : p.isOpen = false := h
    simp only [step, close, isClosed, Bool.false_eq_true, if_false]
    exact ⟨rfl, rfl⟩
  | draftChanged text =>
    have isClosed : p.isOpen = false := h
    simp only [step, isClosed, Bool.false_eq_true, if_false]
    exact ⟨rfl, rfl⟩
  | promptSubmitted =>
    rcases h with ignored | busy
    · simp only [step, submitPrompt, submit, ignored]
      exact ⟨rfl, rfl⟩
    · simp only [step, submitPrompt, submit, busy]
      exact ⟨rfl, rfl⟩
  | tableSubmitted =>
    rcases h with ignored | busy
    · simp only [step, submitTable, submit, ignored]
      exact ⟨rfl, rfl⟩
    · simp only [step, submitTable, submit, busy]
      exact ⟨rfl, rfl⟩
  | candidateToggled index approved =>
    rw [step, toggle, if_neg h]
    exact ⟨rfl, rfl⟩
  | allToggled approved =>
    rw [step, toggleAll, if_neg h]
    exact ⟨rfl, rfl⟩
  | selectionConfirmed =>
    rw [step, confirm]
    by_cases waiting : p.stage = .awaitingSelection
    · obtain ⟨some, busy⟩ := h.resolve_left (fun other => other waiting)
      have some : p.candidates.approvedLabels.isEmpty = false := by simpa using some
      simp only [if_pos waiting, some, Bool.false_eq_true, if_false, call_of_busy busy]
      exact ⟨rfl, rfl⟩
    · rw [if_neg waiting]
      exact ⟨rfl, rfl⟩
  | chartSelected id =>
    rw [step, selectChart]
    rcases h with isClosed | unknown
    · simp only [isClosed, Bool.false_eq_true, if_false]
      exact ⟨rfl, rfl⟩
    · split
      · rw [unknown]
        exact ⟨rfl, rfl⟩
      · exact ⟨rfl, rfl⟩
  | reportRequested =>
    rw [step, requestReport]
    rcases h with isClosed | ⟨known, rest⟩
    · simp only [isClosed, Bool.false_eq_true, if_false]
      exact ⟨rfl, rfl⟩
    · split
      · obtain ⟨chart, hchart⟩ := Option.ne_none_iff_exists'.mp known
        rw [hchart]
        rcases rest with none | busy
        · rw [none]
          exact ⟨rfl, rfl⟩
        · cases p.session with
          | none => exact ⟨rfl, rfl⟩
          | some session =>
            dsimp only
            rw [call_of_busy busy]
            exact ⟨rfl, rfl⟩
      · exact ⟨rfl, rfl⟩
  | linkActivated index =>
    have none : (p.transcript.get? index).bind Entry.link? = none := h
    simp only [step, activateLink, none]
    exact ⟨rfl, rfl⟩
  | completed t reply =>
    cases reply with
    | session result =>
      have stale : p.acceptsBootstrap t = false := h
      simp only [step, complete, stale, Bool.false_eq_true, if_false]
      exact ⟨rfl, rfl⟩
    | _ =>
      have stale : p.accepts t = false := h
      simp only [step, complete, receive, stale, Bool.false_eq_true, if_false]
      exact ⟨rfl, rfl⟩
  | tick => exact ⟨rfl, rfl⟩
  | noOp => exact ⟨rfl, rfl⟩

theorem step_of_refuses {p : Panel} {m : Message} {failure : ValidationFailure}
    (h : p.Refuses failure m) :
    (p.step m).panel = p ∧ (p.step m).effects = [.showValidation failure] := by
  cases m with
  | promptSubmitted =>
    rcases h with refused | ⟨rfl, prompt, accepted, none⟩
    · simp only [step, submitPrompt, submit, refused]
      exact ⟨rfl, rfl⟩
    · simp only [step, submitPrompt, submit, accepted, none]
      exact ⟨rfl, rfl⟩
  | tableSubmitted =>
    have refused : p.submission = .refused failure := h
    simp only [step, submitTable, submit, refused]
    exact ⟨rfl, rfl⟩
  | selectionConfirmed =>
    obtain ⟨rfl, waiting, none⟩ := h
    simp only [step, confirm, if_pos waiting, none, List.isEmpty_nil, if_true]
    exact ⟨rfl, rfl⟩
  | reportRequested =>
    obtain ⟨rfl, isOpen, none⟩ := h
    simp only [step, requestReport, isOpen, none, if_true]
    exact ⟨rfl, rfl⟩
  | _ => exact h.elim

/-! ## Steps that change the panel -/

theorem start_of_opening {c q : Panel} {session : SessionId} {es : List Effect}
    (o : Opening c session q es) : (c.start session).panel = q ∧ (c.start session).effects = es := by
  cases o with
  | held same =>
    rw [start, if_pos same]
    exact ⟨rfl, rfl⟩
  | loading other =>
    rw [start, if_neg other]
    exact ⟨rfl, rfl⟩

theorem complete_of_completing {p q : Panel} {t : Ticket} {reply : Reply TransportFailure}
    {es : List Effect} (accepted : p.accepts t = true) (c : Completing p reply q es) :
    (p.complete t reply).panel = q ∧ (p.complete t reply).effects = es := by
  cases c with
  | failed operation failure kind =>
    cases operation with
    | loadSession => exact absurd rfl kind
    | _ =>
      simp only [Reply.failed, complete, receive, if_pos accepted]
      exact ⟨rfl, rfl⟩
  | offered labels some =>
    simp only [complete, receive, if_pos accepted]
    cases labels with
    | nil => exact absurd rfl some
    | cons label rest => exact ⟨rfl, rfl⟩
  | deliveredSelection link pending =>
    simp only [complete, receive, if_pos accepted, completeDelivery, if_pos pending]
    exact ⟨rfl, rfl⟩
  | deliveredTable link free =>
    simp only [complete, receive, if_pos accepted, completeDelivery, free, Bool.false_eq_true,
      if_false]
    exact ⟨rfl, rfl⟩
  | _ =>
    simp only [complete, receive, if_pos accepted]
    exact ⟨rfl, rfl⟩

/-- A step does what a rule says. -/
theorem Rule.step {p q : Panel} {m : Message} {es : List Effect} (r : Rule p m q es) :
    (p.step m).panel = q ∧ (p.step m).effects = es := by
  cases r with
  | ignored _ ignored => exact step_of_ignores ignored
  | refused _ _ refused => exact step_of_refuses refused
  | linkOpened index url link =>
    rw [Panel.step, activateLink, link]
    exact ⟨rfl, rfl⟩
  | opened session isClosed o =>
    simp only [Panel.step, openFor, isClosed, Bool.false_eq_true, if_false]
    exact start_of_opening o
  | switched session isOpen other o =>
    simp only [Panel.step, openFor, if_pos isOpen, if_neg other, close]
    obtain ⟨panel, effects⟩ := start_of_opening o
    exact ⟨panel, congrArg (p.closing ++ ·) effects⟩
  | closed isOpen =>
    rw [Panel.step, close, if_pos isOpen]
    exact ⟨rfl, rfl⟩
  | drafted text isOpen =>
    simp only [Panel.step, if_pos isOpen]
    exact ⟨rfl, rfl⟩
  | toggled index approved waiting held =>
    rw [Panel.step, toggle, if_pos waiting]
    dsimp only
    rw [if_pos held]
    exact ⟨rfl, rfl⟩
  | missed index approved waiting missing =>
    simp only [Panel.step, toggle, if_pos waiting, missing, Bool.false_eq_true, if_false]
    exact ⟨rfl, rfl⟩
  | toggledAll approved waiting =>
    rw [Panel.step, toggleAll, if_pos waiting]
    exact ⟨rfl, rfl⟩
  | selected id chart isOpen known =>
    simp only [Panel.step, selectChart, if_pos isOpen, known]
    exact ⟨rfl, rfl⟩
  | prompted prompt request accepted put =>
    simp only [Panel.step, submitPrompt, submit, accepted, put]
    exact ask_of_accepted accepted _ _ _
  | tabled prompt accepted =>
    simp only [Panel.step, submitTable, submit, accepted]
    exact ask_of_accepted accepted _ _ _
  | confirmed waiting some free =>
    have some : p.candidates.approvedLabels.isEmpty = false := by simpa using some
    simp only [Panel.step, confirm, if_pos waiting, some, Bool.false_eq_true, if_false,
      call_of_free free]
    exact ⟨rfl, rfl⟩
  | reportBegun session chart isOpen hchart hsession free =>
    simp only [Panel.step, requestReport, if_pos isOpen, hchart, hsession, call_of_free free]
    exact ⟨rfl, rfl⟩
  | contextLoaded t ctx accepted =>
    simp only [Panel.step, complete, if_pos accepted]
    exact ⟨rfl, rfl⟩
  | contextLost t failure accepted =>
    simp only [Panel.step, complete, if_pos accepted]
    exact ⟨rfl, rfl⟩
  | completed t accepted c => exact complete_of_completing accepted c

/-- The rules describe exactly the steps. -/
theorem rule_iff {p q : Panel} {m : Message} {es : List Effect} :
    Rule p m q es ↔ (p.step m).panel = q ∧ (p.step m).effects = es := by
  refine ⟨Rule.step, ?_⟩
  rintro ⟨rfl, rfl⟩
  exact step_allowed p m

end AnalysisPanel.Panel
