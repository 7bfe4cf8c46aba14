import AnalysisPanel.Proofs.Panel.Causality

/-! A panel seen from outside. Whoever follows the effects of a panel, and sees nothing else of it,
knows at every step which entries the conversation has, which candidates are up and whether a call
is outstanding. -/

namespace AnalysisPanel

/-- What an effect says of the gate. -/
def Effect.busy? : Effect → Option Bool
  | .busyChanged busy => some busy
  | _ => none

/-- Effects in which every entry that is shown is scrolled to at once. -/
inductive Scrolls : List Effect → Prop where
  | nil : Scrolls []
  | shown {es} (e : Entry) : Scrolls es → Scrolls (.turnAppended e :: .scrollToBottom :: es)
  | other {es} (e : Effect) : e.entry? = none → Scrolls es → Scrolls (e :: es)

theorem Scrolls.append {es fs : List Effect} (s : Scrolls es) (s' : Scrolls fs) :
    Scrolls (es ++ fs) := by
  induction s with
  | nil => exact s'
  | shown e _ ih => exact .shown e ih
  | other e silent _ ih => exact .other e silent ih

theorem Scrolls.at {es pre post : List Effect} {e : Entry} (s : Scrolls es)
    (cut : es = pre ++ .turnAppended e :: post) : ∃ rest, post = .scrollToBottom :: rest := by
  induction s generalizing pre with
  | nil => simp at cut
  | @shown es e' _ ih =>
    rcases pre with _ | ⟨first, _ | ⟨second, pre⟩⟩
    · cases cut
      exact ⟨es, rfl⟩
    · cases cut
    · cases cut
      exact ih rfl
  | other e' silent _ ih =>
    cases pre with
    | nil =>
      cases cut
      cases silent
    | cons first pre =>
      cases cut
      exact ih rfl

/-! ## The mirror -/

/-- What an observer of effects knows of a panel. -/
structure Mirror where
  entries : List Entry := []
  candidates : List Candidate := []
  busy : Bool := false

namespace Mirror

/-- What the observer makes of one effect. An empty checklist takes the selection prompts away. -/
def follow (m : Mirror) : Effect → Mirror
  | .turnAppended e => { m with entries := m.entries ++ [e] }
  | .candidatesChanged [] =>
    { m with candidates := [], entries := m.entries.filter fun e => !e.isSelectionPrompt }
  | .candidatesChanged items => { m with candidates := items }
  | .busyChanged busy => { m with busy }
  | .closeSession _ => { m with entries := [], candidates := [] }
  | _ => m

/-- The mirror of an observer who saw effects from the first on. -/
def after (es : List Effect) : Mirror := es.foldl follow {}

theorem after_append (es fs : List Effect) : after (es ++ fs) = fs.foldl follow (after es) :=
  List.foldl_append ..

theorem follow_candidatesChanged {items : List Candidate} (some : items ≠ []) (m : Mirror) :
    m.follow (.candidatesChanged items) = { m with candidates := items } := by
  cases items with
  | nil => exact absurd rfl some
  | cons c rest => rfl

end Mirror

namespace Panel

/-- A panel as its mirror should show it. -/
def mirror (p : Panel) : Mirror where
  entries := p.transcript.entries
  candidates := p.candidates.items
  busy := p.isBusy

variable {variant : Variant} {h : History} {p q : Panel} {m : Message} {es : List Effect}

/-! ## The mirror follows every step -/

theorem follow_closing (p : Panel) : p.closing.foldl Mirror.follow p.mirror = p.closed.mirror := by
  unfold closing
  cases busy : p.isBusy with
  | true => rfl
  | false =>
    simp only [Bool.false_eq_true, if_false, List.foldl_cons, List.foldl_nil, Mirror.follow, mirror]
    rw [busy]
    rfl

theorem Opening.follow {session : SessionId} (o : Opening p session q es) :
    es.foldl Mirror.follow p.mirror = q.mirror := by
  cases o <;> rfl

theorem setAt_of_not_holds {cs : CandidateSet} {index : Nat} (missing : cs.holds index = false)
    (approved : Bool) : cs.setAt index approved = cs := by
  have past : cs.items.length ≤ index := by simpa [CandidateSet.holds] using missing
  rw [CandidateSet.setAt, List.modify_eq_self past]

theorem Causal.items_ne_nil (c : Causal h p) (pending : p.transcript.hasPending = true) :
    p.candidates.items ≠ [] := by
  have some := c.offered
  rw [pending] at some
  simpa [CandidateSet.isEmpty] using some.symm

theorem items_ne_nil_of_isEmpty_eq {cs cs' : CandidateSet} (same : cs'.isEmpty = cs.isEmpty)
    (some : cs.items ≠ []) : cs'.items ≠ [] := by
  intro none
  apply some
  simpa [CandidateSet.isEmpty, none] using same.symm

theorem Causal.follow_completing (c : Causal h p) {reply : Reply TransportFailure}
    (stage : p.stage.operation? = some reply.operation) (step : Completing p reply q es) :
    es.foldl Mirror.follow p.mirror = q.mirror := by
  cases step with
  | offered labels some =>
    have items : (CandidateSet.ofLabels labels).items ≠ [] := by
      simpa [CandidateSet.ofLabels] using some
    rw [List.cons_append, List.foldl_cons, Mirror.follow_candidatesChanged items]
    rfl
  | nothingFound =>
    -- an empty checklist takes prompts away, and none is up while a discovery is under way
    have free := Transcript.dropPending_of_not_hasPending
      (c.unoffered (stage_eq_discovering stage))
    have plain := congrArg Transcript.entries free
    simp only [List.foldl_cons, List.foldl_nil, Mirror.follow, mirror]
    rw [← Transcript.entries_dropPending, plain]
    rfl
  | _ => rfl

/-- Following the effects of a step from the mirror of the panel before it leads to the mirror of
the panel after it. -/
theorem Causal.follow (c : Causal h p) (g : Gated p)
    (faithful : History.Faithful (⟨p, m, es⟩ :: h)) (step : Rule p m q es) :
    es.foldl Mirror.follow p.mirror = q.mirror := by
  cases step with
  | opened _ _ o => exact o.follow
  | switched _ _ _ o =>
    rw [List.foldl_append, follow_closing]
    exact o.follow
  | closed _ => exact follow_closing p
  | drafted text _ =>
    obtain ⟨dirty, same⟩ := p.setDraft_eq text
    rw [same]
    rfl
  | toggled index approved waiting _ =>
    -- a checklist that is up has candidates, so nothing is taken away when they change
    have items := items_ne_nil_of_isEmpty_eq (isEmpty_setAt p.candidates index approved)
      (c.items_ne_nil (g.hasPending_of_awaiting waiting))
    rw [List.foldl_cons, Mirror.follow_candidatesChanged items]
    rfl
  | missed index approved _ missing =>
    rw [setAt_of_not_holds missing]
    rfl
  | toggledAll approved waiting =>
    have items := items_ne_nil_of_isEmpty_eq (isEmpty_setAll p.candidates approved)
      (c.items_ne_nil (g.hasPending_of_awaiting waiting))
    rw [List.foldl_cons, Mirror.follow_candidatesChanged items]
    rfl
  | completed t accepted step =>
    exact c.follow_completing (c.stage_of_reply faithful accepted) step
  | _ => rfl

theorem Run.mirror (r : Run variant h p) (faithful : h.Faithful) :
    Mirror.after h.effects = p.mirror := by
  induction r using Run.invariant with
  | new => rfl
  | rule r ih _ step =>
    rw [History.effects, Mirror.after_append, ih faithful.2]
    exact (r.causal faithful.2).follow r.gated faithful step
  | repainted _ ih => exact ih faithful

/-! ## The gate is announced when it changes -/

theorem busy_closing (p : Panel) :
    p.closing.filterMap Effect.busy? = if p.isBusy then [false] else [] := by
  unfold closing
  cases p.isBusy <;> rfl

/-- A step says once what the gate has become if it changes the gate, and nothing otherwise. -/
theorem Gated.announces (g : Gated p) (step : Rule p m q es) :
    es.filterMap Effect.busy? = if q.isBusy = p.isBusy then [] else [q.isBusy] := by
  have closing {c : Panel} {fs : List Effect} (free : c.isBusy = false)
      (silent : fs.filterMap Effect.busy? = []) :
      (p.closing ++ fs).filterMap Effect.busy? =
        if c.isBusy = p.isBusy then [] else [c.isBusy] := by
    rw [List.filterMap_append, busy_closing, silent, free]
    cases p.isBusy <;> rfl
  cases step with
  | opened _ _ o => cases o <;> exact (if_pos rfl).symm
  | switched _ _ _ o => cases o <;> exact closing rfl rfl
  | closed _ =>
    have closed := @closing p.closed [] rfl rfl
    rw [List.append_nil] at closed
    exact closed
  | drafted text _ =>
    obtain ⟨dirty, same⟩ := p.setDraft_eq text
    rw [same]
    exact (if_pos rfl).symm
  | prompted _ _ accepted _ =>
    rw [(submission_eq_accepted accepted).2.2.1]
    rfl
  | tabled _ accepted =>
    rw [(submission_eq_accepted accepted).2.2.1]
    rfl
  | confirmed _ _ free =>
    rw [free]
    rfl
  | reportBegun _ _ _ _ _ free =>
    rw [free]
    rfl
  | completed _ accepted step =>
    have busy := g.busy_of_accepts accepted
    cases step with
    | synthesized _ => exact (if_pos rfl).symm
    | _ =>
      rw [busy]
      rfl
  | _ => exact (if_pos rfl).symm

/-- Where a step announces the gate, it had said nothing of it before and announces a change. -/
theorem Gated.flips (g : Gated p) (step : Rule p m q es) {pre post : List Effect} {busy : Bool}
    (cut : es = pre ++ .busyChanged busy :: post) :
    pre.filterMap Effect.busy? = [] ∧ busy = !p.isBusy := by
  have said : (Effect.busyChanged busy).busy? = some busy := rfl
  have announced := g.announces step
  rw [cut, List.filterMap_append, List.filterMap_cons_some said] at announced
  split at announced
  · simp at announced
  · next changed =>
    have one := congrArg List.length announced
    have none : pre.filterMap Effect.busy? = [] := by
      apply List.eq_nil_of_length_eq_zero
      simp only [List.length_append, List.length_cons, List.length_nil] at one
      omega
    rw [none] at announced
    refine ⟨none, ?_⟩
    rw [(List.cons.inj announced).1]
    revert changed
    cases q.isBusy <;> cases p.isBusy <;> simp

theorem follow_busy {es : List Effect} (silent : es.filterMap Effect.busy? = []) (m : Mirror) :
    (es.foldl Mirror.follow m).busy = m.busy := by
  induction es generalizing m with
  | nil => rfl
  | cons e es ih =>
    cases e with
    | busyChanged busy => cases silent
    | candidatesChanged items => cases items <;> exact ih silent _
    | _ => exact ih silent _

/-- A gate that is announced was shown the other way before. -/
def Flips (earlier : List Effect) (e : Effect) : Prop :=
  ∀ busy, e = .busyChanged busy → busy = !(Mirror.after earlier).busy

theorem Run.flips (r : Run variant h p) (faithful : h.Faithful) : Along Flips [] h.effects := by
  induction r using Run.invariant with
  | new => trivial
  | rule r ih _ step =>
    refine along_append.mpr ⟨ih faithful.2, along_of_cuts ?_⟩
    rintro pre _ post cut busy rfl
    obtain ⟨silent, changed⟩ := r.gated.flips step cut
    rw [List.nil_append, Mirror.after_append, follow_busy silent, r.mirror faithful.2]
    exact changed
  | repainted _ ih => exact ih faithful

/-! ## Entries are scrolled to -/

theorem scrolls_closing (p : Panel) : Scrolls p.closing := by
  unfold closing
  split
  · exact .other _ rfl (.other _ rfl .nil)
  · exact .other _ rfl .nil

theorem Rule.scrolls (step : Rule p m q es) : Scrolls es := by
  have opening {c : Panel} {session : SessionId} {es : List Effect}
      (o : Opening c session q es) : Scrolls es := by
    cases o with
    | held _ => exact .nil
    | loading _ => exact .other _ rfl .nil
  cases step with
  | opened _ _ o => exact opening o
  | switched _ _ _ o => exact (scrolls_closing p).append (opening o)
  | closed _ => exact scrolls_closing p
  | prompted _ _ _ _ => exact .other _ rfl (.shown _ (.other _ rfl .nil))
  | tabled _ _ => exact .other _ rfl (.shown _ (.other _ rfl .nil))
  | confirmed _ _ _ => exact .other _ rfl (.other _ rfl .nil)
  | reportBegun _ _ _ _ _ _ => exact .other _ rfl (.other _ rfl .nil)
  | completed _ _ c =>
    cases c with
    | offered _ _ => exact .other _ rfl (.shown _ (.other _ rfl .nil))
    | answered _ => exact .shown _ (.other _ rfl .nil)
    | deliveredSelection _ _ => exact .other _ rfl (.shown _ (.other _ rfl .nil))
    | deliveredTable _ _ => exact .shown _ (.other _ rfl .nil)
    | nothingFound => exact .other _ rfl (.other _ rfl .nil)
    | reported _ => exact .other _ rfl (.other _ rfl .nil)
    | _ => exact .other _ rfl .nil
  | ignored _ _ => exact .nil
  | drafted _ _ => exact .nil
  | missed _ _ _ _ => exact .nil
  | selected _ _ _ _ => exact .nil
  | contextLoaded _ _ _ => exact .nil
  | contextLost _ _ _ => exact .nil
  | _ => exact .other _ rfl .nil

theorem Run.scrolls (r : Run variant h p) : Scrolls h.effects := by
  induction r using Run.invariant with
  | new => exact .nil
  | rule _ ih _ step => exact ih.append step.scrolls
  | repainted _ ih => exact ih

/-- Throughout a run with faithful replies, whoever follows the effects of the panel from the first
on knows its entries, its candidates and whether it is busy; the gate is announced only when it
changes; and every entry that is shown is scrolled to at once. -/
theorem effects_tell_all (r : Run variant h p) (faithful : h.Faithful) :
    Mirror.after h.effects = ⟨p.transcript.entries, p.candidates.items, p.isBusy⟩ ∧
      (∀ pre busy post, h.effects = pre ++ .busyChanged busy :: post →
        busy = !(Mirror.after pre).busy) ∧
      ∀ pre e post, h.effects = pre ++ .turnAppended e :: post →
        ∃ rest, post = .scrollToBottom :: rest := by
  refine ⟨r.mirror faithful, ?_, ?_⟩
  · intro pre busy post cut
    exact (r.flips faithful).at cut busy rfl
  · intro pre e post cut
    exact r.scrolls.at cut

/-- A checklist is put up and one of its metrics approved. -/
def approving : List Message :=
  [.opened "a", .draftChanged "why", .promptSubmitted,
    .completed ⟨0, 1⟩ (.discovery (.ok (.candidates ["x", "y"]))), .candidateToggled 1 true]

theorem effects_tell_all_approving :
    let told := tellAll ([], .new .metricDiscovery) approving
    let announced := told.1.effects.take 1 ++ .busyChanged true :: told.1.effects.drop 2
    told.1.Faithful ∧ told.1.effects = announced ∧
      Mirror.after told.1.effects =
        ⟨[.user "why", .selectionPrompt], [⟨"x", false⟩, ⟨"y", true⟩], false⟩ ∧
      (Mirror.after (told.1.effects.take 1)).busy = false ∧
      ∃ rest, told.1.effects.drop 3 = .scrollToBottom :: rest := by
  intro told announced
  have faithful : told.1.Faithful := by decide
  obtain ⟨shown, flips, scrolls⟩ :=
    effects_tell_all (Run.new.tellAll approving : Run .metricDiscovery told.1 told.2) faithful
  have busy := flips (told.1.effects.take 1) true (told.1.effects.drop 2) rfl
  refine ⟨faithful, rfl, shown.trans rfl, ?_, scrolls (told.1.effects.take 2) (.user "why") _ rfl⟩
  simpa using busy.symm

end Panel

end AnalysisPanel
