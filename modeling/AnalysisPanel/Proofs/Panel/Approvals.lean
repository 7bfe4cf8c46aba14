import AnalysisPanel.Proofs.Panel.Causality
import AnalysisPanel.Proofs.Panel.Execution

/-! Approvals. The last word of the user on a metric counts, whatever calls were made in between,
and a selection that is confirmed asks for the approved metrics of the batch in its order. -/

namespace AnalysisPanel

/-! ## Marked batches -/

namespace CandidateSet

/-- A batch of labels with an approval for every index. -/
def marked (labels : List String) (approval : Nat → Bool) : CandidateSet :=
  ⟨labels.mapIdx fun i label => ⟨label, approval i⟩⟩

theorem ofLabels_eq_marked (labels : List String) :
    ofLabels labels = marked labels fun _ => false := by
  simp only [ofLabels, marked, mk.injEq]
  apply List.ext_getElem?
  intro i
  simp

theorem setAt_marked (labels : List String) (approval : Nat → Bool) (index : Nat)
    (approved : Bool) :
    (marked labels approval).setAt index approved =
      marked labels fun i => if index = i then approved else approval i := by
  simp only [setAt, marked, mk.injEq]
  apply List.ext_getElem?
  intro i
  rw [List.getElem?_modify]
  by_cases same : index = i
  · simp [same, Function.comp_def]
  · simp [same]

theorem setAll_marked (labels : List String) (approval : Nat → Bool) (approved : Bool) :
    (marked labels approval).setAll approved = marked labels fun _ => approved := by
  simp only [setAll, marked, mk.injEq]
  apply List.ext_getElem?
  intro i
  simp [Function.comp_def]

/-- Labels are told apart by where they stand, so a label that comes twice may be approved twice. -/
theorem approvedLabels_marked (labels : List String) (approval : Nat → Bool) :
    (marked labels approval).approvedLabels =
      (labels.zipIdx.filter fun l => approval l.2).map (·.1) := by
  simp [approvedLabels, marked, List.mapIdx_eq_zipIdx_map, List.filter_map, Function.comp_def]

theorem approvedLabels_marked_eq_nil_iff (labels : List String) (approval : Nat → Bool) :
    (marked labels approval).approvedLabels = [] ↔ ∀ i < labels.length, approval i = false := by
  simp only [approvedLabels, marked, List.map_eq_nil_iff, List.filter_eq_nil_iff,
    List.mem_mapIdx, Bool.not_eq_true]
  constructor
  · intro none i hi
    exact none _ ⟨i, hi, rfl⟩
  · rintro unapproved _ ⟨i, hi, rfl⟩
    exact unapproved i hi

end CandidateSet

/-! ## What the user says of a batch -/

/-- What a message says of the approval of an index. -/
def Message.approval? (index : Nat) : Message → Option Bool
  | .candidateToggled i approved => if i = index then some approved else none
  | .allToggled approved => some approved
  | _ => none

/-- Messages that go on with a selection without settling it, or that make a report. -/
def Message.leavesChecklist : Message → Bool
  | .selectionConfirmed | .reportRequested => true
  | .completed _ (.synthesis _) | .completed _ (.delivery (.error _)) => true
  | .completed _ (.report _) => true
  | _ => false

namespace Panel

/-- The labels of the batch that a step puts up. -/
def Event.batch? (e : Event) : Option (List String) :=
  match e.message with
  | .completed t (.discovery (.ok (.candidates labels))) =>
    if e.before.accepts t = true ∧ labels ≠ [] then some labels else none
  | _ => none

/-- What a step says of the approval of an index. Nothing counts unless a selection is awaited. -/
def Event.approval? (e : Event) (index : Nat) : Option Bool :=
  if e.before.stage = .awaitingSelection then e.message.approval? index else none

namespace History

/-- The labels of the batch put up last. -/
def batch (h : History) : Option (List String) := h.findSome? Event.batch?

/-- The steps taken since the last batch was put up, newest first. -/
def sinceBatch (h : History) : History := h.takeWhile fun e => e.batch?.isNone

/-- Whether an index is approved: the last step of the batch that says anything of it says so. -/
def approved (h : History) (index : Nat) : Bool :=
  (h.sinceBatch.findSome? fun e => e.approval? index).getD false

theorem batch_offered {e : Event} {h : History} {labels : List String}
    (offers : e.batch? = some labels) :
    batch (e :: h) = some labels ∧ approved (e :: h) = fun _ => false := by
  constructor
  · simp [batch, offers]
  · funext i
    simp [approved, sinceBatch, offers]

theorem batch_cons {e : Event} (quiet : e.batch? = none) (h : History) :
    batch (e :: h) = h.batch ∧
      approved (e :: h) = fun i => (e.approval? i).getD (h.approved i) := by
  constructor
  · simp [batch, quiet]
  · funext i
    cases said : e.approval? i with
    | none => simp [approved, sinceBatch, quiet, said]
    | some b => simp [approved, sinceBatch, quiet, said]

end History

variable {variant : Variant} {h : History} {p q : Panel} {m : Message} {es : List Effect}

theorem approval?_of_mute {e : Event} (mute : ∀ i, e.message.approval? i = none) (i : Nat) :
    e.approval? i = none := by
  simp [Event.approval?, mute]

theorem approval?_of_awaiting {e : Event} (waiting : e.before.stage = .awaitingSelection)
    (i : Nat) : e.approval? i = e.message.approval? i := by
  simp [Event.approval?, waiting]

/-- A message that is passed over neither puts up a batch nor counts as approval. -/
theorem mute_of_ignores (ignored : p.Ignores m) :
    (⟨p, m, es⟩ : Event).batch? = none ∧ ∀ i, (⟨p, m, es⟩ : Event).approval? i = none := by
  have elsewhere (away : p.stage ≠ .awaitingSelection) (i : Nat) :
      (⟨p, m, es⟩ : Event).approval? i = none := by
    simp [Event.approval?, away]
  cases m with
  | candidateToggled index approved => exact ⟨rfl, elsewhere ignored⟩
  | allToggled approved => exact ⟨rfl, elsewhere ignored⟩
  | completed t reply =>
    refine ⟨?_, approval?_of_mute fun _ => rfl⟩
    cases reply with
    | discovery result =>
      have stale : p.accepts t = false := ignored
      cases result with
      | error failure => rfl
      | ok found =>
        cases found with
        | analysis text => rfl
        | candidates labels => simp [Event.batch?, stale]
    | _ => rfl
  | _ => exact ⟨rfl, approval?_of_mute fun _ => rfl⟩

theorem mute_of_refuses {failure : ValidationFailure} (refused : p.Refuses failure m) :
    (⟨p, m, es⟩ : Event).batch? = none ∧ ∀ i, (⟨p, m, es⟩ : Event).approval? i = none := by
  cases m with
  | candidateToggled index approved => exact refused.elim
  | allToggled approved => exact refused.elim
  | completed t reply => exact refused.elim
  | _ => exact ⟨rfl, approval?_of_mute fun _ => rfl⟩

/-! ## What a step does to the checklist -/

/-- What a step makes of the checklist, if one is up afterwards. -/
inductive Marks (p : Panel) (e : Event) : CandidateSet → Prop where
  | offered (labels : List String) : e.batch? = some labels → Marks p e (.ofLabels labels)
  | kept : p.transcript.hasPending = true → e.batch? = none → (∀ i, e.approval? i = none) →
      Marks p e p.candidates
  | toggled (index : Nat) (approved : Bool) : p.transcript.hasPending = true → e.batch? = none →
      (∀ i, e.approval? i = if index = i then some approved else none) →
      Marks p e (p.candidates.setAt index approved)
  | toggledAll (approved : Bool) : p.transcript.hasPending = true → e.batch? = none →
      (∀ i, e.approval? i = some approved) → Marks p e (p.candidates.setAll approved)

theorem Causal.marks_of_completing (c : Causal h p) {t : Ticket}
    {reply : Reply TransportFailure} (accepted : p.accepts t = true)
    (stage : p.stage.operation? = some reply.operation) (step : Completing p reply q es)
    (pending : q.transcript.hasPending = true) :
    Marks p ⟨p, .completed t reply, es⟩ q.candidates := by
  cases step with
  | failed operation failure kind =>
    refine .kept pending ?_ (approval?_of_mute fun _ => rfl)
    cases operation <;> rfl
  | offered labels some => exact .offered labels (by simp [Event.batch?, accepted, some])
  | nothingFound =>
    -- a discovery is under way, so no checklist is up that could lose its candidates
    have free := c.unoffered (stage_eq_discovering stage)
    exact absurd (free.symm.trans pending) (by simp)
  | answered text =>
    refine .kept ?_ rfl (approval?_of_mute fun _ => rfl)
    simpa [finishCall, append, Entry.isSelectionPrompt, Entry.answer] using pending
  | synthesized payload => exact .kept pending rfl (approval?_of_mute fun _ => rfl)
  | deliveredSelection link _ =>
    simp [finishCall, append, settled, dropPending, setCandidates, Entry.result,
      Entry.isSelectionPrompt] at pending
  | deliveredTable link free =>
    simp [finishCall, append, free, Entry.result, Entry.isSelectionPrompt] at pending
  | reported content => exact .kept pending rfl (approval?_of_mute fun _ => rfl)

theorem Causal.marks (c : Causal h p) (faithful : History.Faithful (⟨p, m, es⟩ :: h))
    (step : Rule p m q es) (pending : q.transcript.hasPending = true) :
    Marks p ⟨p, m, es⟩ q.candidates := by
  have asked (prompt : String) : (p.transcript.append (.user prompt)).hasPending = true →
      p.transcript.hasPending = true := by simp [Entry.isSelectionPrompt]
  cases step with
  | ignored _ ignored =>
    obtain ⟨quiet, mute⟩ := mute_of_ignores ignored
    exact .kept pending quiet mute
  | refused _ _ refused =>
    obtain ⟨quiet, mute⟩ := mute_of_refuses refused
    exact .kept pending quiet mute
  | opened _ _ o => cases o <;> exact .kept pending rfl (approval?_of_mute fun _ => rfl)
  | switched _ _ _ o => cases o <;> cases pending
  | closed _ => cases pending
  | drafted text _ =>
    obtain ⟨dirty, same⟩ := p.setDraft_eq text
    rw [same] at pending ⊢
    exact .kept pending rfl (approval?_of_mute fun _ => rfl)
  | toggled index approved waiting _ =>
    exact .toggled index approved pending rfl (approval?_of_awaiting waiting)
  | missed index approved waiting _ =>
    exact .toggled index approved pending rfl (approval?_of_awaiting waiting)
  | toggledAll approved waiting =>
    exact .toggledAll approved pending rfl (approval?_of_awaiting waiting)
  | prompted prompt _ _ _ => exact .kept (asked prompt pending) rfl (approval?_of_mute fun _ => rfl)
  | tabled prompt _ => exact .kept (asked prompt pending) rfl (approval?_of_mute fun _ => rfl)
  | completed t accepted step =>
    exact c.marks_of_completing accepted (c.stage_of_reply faithful accepted) step pending
  | _ => exact .kept pending rfl (approval?_of_mute fun _ => rfl)

/-- A checklist that is the last batch with the approvals of the user is so after a step. -/
theorem Marks.marked {e : Event} {cs : CandidateSet} (step : Marks p e cs)
    (before : p.transcript.hasPending = true →
      ∃ labels, h.batch = some labels ∧ p.candidates = .marked labels h.approved) :
    ∃ labels, History.batch (e :: h) = some labels ∧
      cs = .marked labels (History.approved (e :: h)) := by
  cases step with
  | offered labels offers =>
    obtain ⟨batch, approved⟩ := History.batch_offered (h := h) offers
    refine ⟨labels, batch, ?_⟩
    rw [approved, CandidateSet.ofLabels_eq_marked]
  | kept pending quiet mute =>
    obtain ⟨labels, batch, same⟩ := before pending
    obtain ⟨batch', approved⟩ := History.batch_cons quiet h
    refine ⟨labels, batch'.trans batch, ?_⟩
    rw [approved, same]
    simp [mute]
  | toggled index value pending quiet said =>
    obtain ⟨labels, batch, same⟩ := before pending
    obtain ⟨batch', approved⟩ := History.batch_cons quiet h
    refine ⟨labels, batch'.trans batch, ?_⟩
    rw [approved, same, CandidateSet.setAt_marked]
    congr 1
    funext i
    rw [said]
    split <;> rfl
  | toggledAll value pending quiet said =>
    obtain ⟨labels, batch, same⟩ := before pending
    obtain ⟨batch', approved⟩ := History.batch_cons quiet h
    refine ⟨labels, batch'.trans batch, ?_⟩
    rw [approved, same, CandidateSet.setAll_marked]
    simp [said]

theorem Run.marked (r : Run variant h p) (faithful : h.Faithful)
    (pending : p.transcript.hasPending = true) :
    ∃ labels, h.batch = some labels ∧ p.candidates = .marked labels h.approved := by
  induction r using Run.invariant with
  | new => cases pending
  | rule r ih _ step =>
    exact ((r.causal faithful.2).marks faithful step pending).marked (ih faithful.2)
  | repainted _ ih => exact ih faithful pending

/-! ## Confirming -/

/-- What becomes of a selection that is confirmed. -/
theorem step_confirm (free : p.isBusy = false) (waiting : p.stage = .awaitingSelection) :
    (p.candidates.approvedLabels ≠ [] → (p.step .selectionConfirmed).effects =
      [.busyChanged true,
        .issue p.nextTicket (.synthesize (.selection p.candidates.approvedLabels))]) ∧
    (p.candidates.approvedLabels = [] → (p.step .selectionConfirmed).panel = p ∧
      (p.step .selectionConfirmed).effects = [.showValidation .noCandidateApproved]) := by
  constructor
  · intro some
    exact (Rule.confirmed waiting some free).step.2
  · intro none
    have refused : p.Refuses .noCandidateApproved .selectionConfirmed := ⟨rfl, waiting, none⟩
    exact (Rule.refused _ _ refused).step

theorem Rule.candidates_of_leaves (step : Rule p m q es) (leaves : m.leavesChecklist = true) :
    q.candidates = p.candidates := by
  cases step with
  | ignored _ _ => rfl
  | refused _ _ _ => rfl
  | confirmed _ _ _ => rfl
  | reportBegun _ _ _ _ _ _ => rfl
  | completed _ _ c =>
    cases c with
    | failed _ _ _ => rfl
    | synthesized _ => rfl
    | reported _ => rfl
    | _ => cases leaves
  | _ => cases leaves

/-- A message that would approve something is passed over while a call is in flight. -/
theorem Gated.ignores_approval (g : Gated p) (busy : p.isBusy = true) {i : Nat}
    (said : m.approval? i ≠ none) : p.Ignores m := by
  have away : p.stage ≠ .awaitingSelection := by
    intro waiting
    rw [g.free_of_awaiting waiting] at busy
    cases busy
  cases m with
  | candidateToggled index approved => exact away
  | allToggled approved => exact away
  | _ => exact absurd rfl said

/-- Throughout a run with faithful replies, whenever a selection is awaited, the checklist is the
batch that a discovery put up last, and an index of it is approved exactly if the last message of
the user about it said so while a selection was awaited. A selection that is confirmed asks for the
approved labels in the order of the batch, each as often as it stands there approved; if there are
none the user is told so and nothing changes. What the user says of approval while a call is in
flight changes nothing, and neither the calls for a selection that fail nor reports touch the
checklist. -/
theorem confirmed_labels_last_approved (r : Run variant h p) (faithful : h.Faithful) :
    (p.stage = .awaitingSelection →
      ∃ labels, h.batch = some labels ∧ labels ≠ [] ∧
        p.candidates.items = labels.mapIdx (fun i label => ⟨label, h.approved i⟩) ∧
        ((∃ i < labels.length, h.approved i = true) →
          (p.step .selectionConfirmed).effects =
            [.busyChanged true, .issue p.nextTicket (.synthesize (.selection
              ((labels.zipIdx.filter fun l => h.approved l.2).map (·.1))))]) ∧
        ((∀ i < labels.length, h.approved i = false) →
          (p.step .selectionConfirmed).panel = p ∧
            (p.step .selectionConfirmed).effects = [.showValidation .noCandidateApproved])) ∧
    (p.isBusy = true → ∀ m i, m.approval? i ≠ none →
      (p.step m).panel = p ∧ (p.step m).effects = []) ∧
    ∀ m, m.leavesChecklist = true → (p.step m).panel.candidates = p.candidates := by
  refine ⟨?_, ?_, ?_⟩
  · intro waiting
    have g := r.gated
    have pending := g.hasPending_of_awaiting waiting
    obtain ⟨labels, batch, same⟩ := r.marked faithful pending
    have items : p.candidates.items = labels.mapIdx fun i label => ⟨label, h.approved i⟩ :=
      congrArg CandidateSet.items same
    have offered := (r.causal faithful).offered
    obtain ⟨asks, refuses⟩ := step_confirm (g.free_of_awaiting waiting) waiting
    have none := CandidateSet.approvedLabels_marked_eq_nil_iff labels h.approved
    rw [← same] at none
    refine ⟨labels, batch, ?_, items, ?_, ?_⟩
    · rintro rfl
      simp [pending, CandidateSet.isEmpty, items] at offered
    · rintro ⟨i, hi, approved⟩
      rw [← CandidateSet.approvedLabels_marked, ← same]
      apply asks
      intro nothing
      have unapproved := none.mp nothing i hi
      rw [approved] at unapproved
      cases unapproved
    · intro unapproved
      exact refuses (none.mpr unapproved)
  · intro busy m i said
    exact step_of_ignores (r.gated.ignores_approval busy said)
  · intro m leaves
    exact (step_allowed p m).candidates_of_leaves leaves

/-- A batch in which a label comes twice. All of it is approved, then one label is not; a report is
made, during which an approval does not count, and a confirmation fails. -/
def retrying : List Message :=
  [.opened "a", .completed ⟨0, 0⟩ (.session (.ok ⟨"sales", [⟨1, "by month", .null⟩]⟩)),
    .chartSelected 1, .draftChanged "why", .promptSubmitted,
    .completed ⟨0, 1⟩ (.discovery (.ok (.candidates ["x", "y", "x"]))), .allToggled true,
    .candidateToggled 1 false, .candidateToggled 7 true, .reportRequested,
    .candidateToggled 1 true, .completed ⟨0, 2⟩ (.report (.ok [])), .selectionConfirmed,
    .completed ⟨0, 3⟩ (.synthesis (.error ⟨"gone"⟩))]

theorem confirmed_labels_last_approved_retrying :
    let told := tellAll ([], .new .metricDiscovery) retrying
    told.1.Faithful ∧ told.2.stage = .awaitingSelection ∧
      told.1.batch = some ["x", "y", "x"] ∧
      (told.2.step .selectionConfirmed).effects =
        [.busyChanged true, .issue ⟨0, 4⟩ (.synthesize (.selection ["x", "x"]))] := by
  intro told
  have faithful : told.1.Faithful := by decide
  have waiting : told.2.stage = .awaitingSelection := by decide
  have batch : told.1.batch = some ["x", "y", "x"] := by decide
  obtain ⟨marks, -, -⟩ :=
    confirmed_labels_last_approved (Run.new.tellAll retrying : Run .metricDiscovery told.1 told.2)
      faithful
  obtain ⟨labels, put, -, -, asks, -⟩ := marks waiting
  obtain rfl : labels = ["x", "y", "x"] := Option.some.inj (put.symm.trans batch)
  exact ⟨faithful, waiting, batch, asks ⟨0, by decide, by decide⟩⟩

end Panel

end AnalysisPanel
