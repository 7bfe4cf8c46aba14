import AnalysisPanel.Proofs.Panel.Causality
import AnalysisPanel.Proofs.Panel.Echoes
import AnalysisPanel.Proofs.Panel.Execution

/-! The checklist under replies of any kind. A reply is taken by its ticket alone, so a list of
metrics may come under the ticket of another call. As long as none is taken while a checklist is
up, there is at most one checklist, and whoever waits for a selection can settle it. -/

namespace AnalysisPanel

/-- How many checklists are up. -/
def Transcript.prompts (t : Transcript) : Nat := t.entries.countP Entry.isSelectionPrompt

namespace Transcript

@[simp] theorem prompts_append (t : Transcript) (e : Entry) :
    (t.append e).prompts = t.prompts + if e.isSelectionPrompt then 1 else 0 := by
  simp [prompts, List.countP_singleton]

@[simp] theorem prompts_dropPending (t : Transcript) : t.dropPending.prompts = 0 := by
  simp [prompts, List.countP_eq_zero]

theorem hasPending_eq_false_iff {t : Transcript} : t.hasPending = false ↔ t.prompts = 0 := by
  simp [prompts, hasPending, List.countP_eq_zero]

theorem hasPending_iff {t : Transcript} : t.hasPending = true ↔ 0 < t.prompts := by
  simp [prompts, hasPending, List.countP_pos_iff]

end Transcript

namespace Panel

variable {variant : Variant} {h : History} {p q : Panel} {m : Message} {es : List Effect}

/-! ## Metrics that are taken -/

/-- The metrics that a step takes from a reply, whatever the call was for. -/
def Event.metrics? (e : Event) : Option (List String) :=
  match e.message with
  | .completed t (.discovery (.ok (.candidates labels))) =>
    if e.before.accepts t then some labels else none
  | _ => none

/-- Whether a step takes metrics while a checklist is up. -/
def Event.overrides (e : Event) : Bool := e.metrics?.isSome && e.before.transcript.hasPending

/-- Every list of metrics that is taken comes under the ticket of a discovery. Any other reply may
come under any ticket. -/
def History.Discerning : History → Prop
  | [] => True
  | e :: h =>
    (e.metrics?.isSome = true → ∀ r ∈ e.message.reply?, ∀ c ∈ issued h, c.1 = r.1 →
      c.2.operation = .discover) ∧ Discerning h

/-- At most one checklist is up, and whoever waits for a selection has something to select. -/
structure Sound (p : Panel) : Prop where
  single : p.transcript.prompts ≤ 1
  selectable : p.stage = .awaitingSelection → p.candidates.items ≠ []

theorem metrics?_eq_some {e : Event} {labels : List String} (taken : e.metrics? = some labels) :
    ∃ t, e.message = .completed t (.discovery (.ok (.candidates labels))) ∧
      e.before.accepts t = true := by
  obtain ⟨before, m, es⟩ := e
  cases m with
  | completed t reply =>
    cases reply with
    | discovery result =>
      cases result with
      | error failure => cases taken
      | ok found =>
        cases found with
        | analysis text => cases taken
        | candidates other =>
          obtain ⟨accepted, same⟩ := Option.ite_none_right_eq_some.mp taken
          cases same
          exact ⟨t, rfl, accepted⟩
    | _ => cases taken
  | _ => cases taken

theorem metrics?_of_ignores (ignored : p.Ignores m) :
    (⟨p, m, es⟩ : Event).metrics? = none := by
  cases taken : (⟨p, m, es⟩ : Event).metrics? with
  | none => rfl
  | some labels =>
    obtain ⟨t, rfl, accepted⟩ := metrics?_eq_some taken
    have stale : p.accepts t = false := ignored
    exact absurd (accepted.symm.trans stale) (by simp)

theorem metrics?_of_refuses {failure : ValidationFailure} (refused : p.Refuses failure m) :
    (⟨p, m, es⟩ : Event).metrics? = none := by
  cases m with
  | completed t reply => exact refused.elim
  | _ => rfl

/-! ## What a step does to checklists -/

/-- What a step makes of the checklists in the transcript and of the metrics held. -/
inductive Lists (e : Event) (q : Panel) : Prop where
  | kept : e.metrics? = none → q.transcript.prompts = e.before.transcript.prompts →
      q.candidates.items.length = e.before.candidates.items.length → Lists e q
  | cleared : e.metrics? = none → q.transcript.prompts = 0 → Lists e q
  | offered (labels : List String) : e.metrics? = some labels → labels ≠ [] →
      q.transcript.prompts = e.before.transcript.prompts + 1 → q.candidates = .ofLabels labels →
      Lists e q
  | emptied : e.metrics? = some [] → q.transcript.prompts = e.before.transcript.prompts →
      q.candidates = {} → q.stage = q.stageAtRest → Lists e q

theorem Completing.lists {t : Ticket} {reply : Reply TransportFailure} (accepted : p.accepts t = true)
    (c : Completing p reply q es) : Lists ⟨p, .completed t reply, es⟩ q := by
  cases c with
  | failed operation failure _ => exact .kept (by cases operation <;> rfl) rfl rfl
  | offered labels some =>
    refine .offered labels (if_pos accepted) some ?_ rfl
    simp [offering, finishCall, append, setCandidates, Entry.isSelectionPrompt]
  | nothingFound => exact .emptied (if_pos accepted) rfl rfl rfl
  | answered text =>
    refine .kept rfl ?_ rfl
    simp [finishCall, append, Entry.isSelectionPrompt, Entry.answer]
  | synthesized payload => exact .kept rfl rfl rfl
  | deliveredSelection link _ =>
    refine .cleared rfl ?_
    simp [finishCall, append, settled, dropPending, setCandidates, Entry.isSelectionPrompt,
      Entry.result]
  | deliveredTable link _ =>
    refine .kept rfl ?_ rfl
    simp [finishCall, append, Entry.isSelectionPrompt, Entry.result]
  | reported content => exact .kept rfl rfl rfl

/-- Only a list of metrics that is taken puts up a checklist or takes its metrics away. -/
theorem Rule.lists (step : Rule p m q es) : Lists ⟨p, m, es⟩ q := by
  have asked (prompt : String) :
      (p.transcript.append (.user prompt)).prompts = p.transcript.prompts := by
    simp [Entry.isSelectionPrompt]
  cases step with
  | ignored _ ignored => exact .kept (metrics?_of_ignores ignored) rfl rfl
  | refused _ _ refused => exact .kept (metrics?_of_refuses refused) rfl rfl
  | opened _ _ o => cases o <;> exact .kept rfl rfl rfl
  | switched _ _ _ o => cases o <;> exact .cleared rfl rfl
  | closed _ => exact .cleared rfl rfl
  | drafted text _ =>
    obtain ⟨dirty, same⟩ := p.setDraft_eq text
    rw [same]
    exact .kept rfl rfl rfl
  | toggled index approved _ _ => exact .kept rfl rfl (List.length_modify ..)
  | missed index approved _ _ => exact .kept rfl rfl (List.length_modify ..)
  | toggledAll approved _ => exact .kept rfl rfl (List.length_map ..)
  | prompted prompt _ _ _ => exact .kept rfl (asked prompt) rfl
  | tabled prompt _ => exact .kept rfl (asked prompt) rfl
  | completed t accepted c => exact c.lists accepted
  | _ => exact .kept rfl rfl rfl

/-! ## Runs that override no checklist -/

/-- There is at most one checklist, and it has metrics. -/
structure Listed (p : Panel) : Prop where
  single : p.transcript.prompts ≤ 1
  filled : p.transcript.hasPending = true → p.candidates.items ≠ []

theorem Listed.sound (l : Listed p) (g : Gated p) : p.Sound :=
  ⟨l.single, fun waiting => l.filled (g.hasPending_of_awaiting waiting)⟩

/-- A step that overrides no checklist leaves one checklist at most, with metrics. -/
theorem Lists.listed {e : Event} (step : Lists e q) (l : Listed e.before)
    (gentle : e.overrides = false) : Listed q := by
  have free {labels : List String} (taken : e.metrics? = some labels) :
      e.before.transcript.prompts = 0 := by
    rw [Event.overrides, taken] at gentle
    exact Transcript.hasPending_eq_false_iff.mp (by simpa using gentle)
  cases step with
  | kept _ prompts items =>
    refine ⟨prompts ▸ l.single, fun pending none => ?_⟩
    rw [Transcript.hasPending_iff, prompts, ← Transcript.hasPending_iff] at pending
    exact l.filled pending (List.eq_nil_of_length_eq_zero (by rw [← items, none]; rfl))
  | cleared _ prompts =>
    refine ⟨by omega, fun pending => ?_⟩
    rw [Transcript.hasPending_iff, prompts] at pending
    exact absurd pending (Nat.lt_irrefl 0)
  | offered labels taken some prompts candidates =>
    have := free taken
    exact ⟨by omega, fun _ => by rw [candidates]; simpa [CandidateSet.ofLabels] using some⟩
  | emptied taken prompts _ _ =>
    have none := free taken
    refine ⟨by omega, fun pending => ?_⟩
    rw [Transcript.hasPending_iff, prompts, none] at pending
    exact absurd pending (Nat.lt_irrefl 0)

theorem Run.listed (r : Run variant h p) (gentle : ∀ e ∈ h, e.overrides = false) : Listed p := by
  induction r using Run.invariant with
  | new => exact ⟨Nat.zero_le 1, fun pending => nomatch pending⟩
  | rule _ ih _ step =>
    have before := ih fun e he => gentle e (List.mem_cons_of_mem _ he)
    exact step.lists.listed before (gentle _ List.mem_cons_self)
  | repainted _ ih => exact ⟨(ih gentle).single, (ih gentle).filled⟩

/-- Throughout a run that overrides no checklist every panel is sound. -/
theorem Run.sound_before (r : Run variant h p) (gentle : ∀ e ∈ h, e.overrides = false) :
    ∀ e ∈ h, e.before.Sound := by
  induction r using Run.invariant with
  | new =>
    intro e he
    cases he
  | rule before ih _ _ =>
    have gentle' := fun e he => gentle e (List.mem_cons_of_mem _ he)
    intro e he
    rcases List.mem_cons.mp he with rfl | he
    · exact (before.listed gentle').sound before.gated
    · exact ih gentle' e he
  | repainted _ ih => exact ih gentle

/-! ## Runs that override a checklist -/

/-- Metrics that are taken while a checklist is up put up a second one, or leave the one that is up
with nothing to select. -/
theorem Rule.not_sound_of_overrides (step : Rule p m q es)
    (overrides : (⟨p, m, es⟩ : Event).overrides = true) : ¬ q.Sound := by
  obtain ⟨taken, pending⟩ := Bool.and_eq_true_iff.mp overrides
  have up := Transcript.hasPending_iff.mp pending
  intro sound
  cases step.lists with
  | kept none _ _ => rw [none] at taken; cases taken
  | cleared none _ => rw [none] at taken; cases taken
  | offered labels _ _ prompts _ =>
    have single := sound.single
    have more : 0 < p.transcript.prompts := up
    have prompts : q.transcript.prompts = p.transcript.prompts + 1 := prompts
    omega
  | emptied _ prompts none stage =>
    have still : q.transcript.hasPending = true := Transcript.hasPending_iff.mpr (prompts ▸ up)
    have waiting : q.stage = .awaitingSelection := by rw [stage, stageAtRest, if_pos still]
    exact sound.selectable waiting (by rw [none])

/-- A step that overrides a checklist leaves a panel that is not sound, and the panel is still so
when the next step begins. -/
theorem Run.gentle_of_sound (r : Run variant h p) (sound : p.Sound)
    (before : ∀ e ∈ h, e.before.Sound) : ∀ e ∈ h, e.overrides = false := by
  induction r using Run.invariant with
  | new =>
    intro e he
    cases he
  | rule _ ih _ step =>
    intro e he
    rcases List.mem_cons.mp he with rfl | he
    · cases overrides : Event.overrides _ with
      | false => rfl
      | true => exact absurd sound (step.not_sound_of_overrides overrides)
    · exact ih (before _ List.mem_cons_self) (fun e he => before e (List.mem_cons_of_mem _ he)) e he
  | repainted _ ih => exact ih ⟨sound.single, sound.selectable⟩ before

/-! ## Metrics under the ticket of a discovery -/

/-- No checklist is up while a discovery is under way, whatever replies came before. -/
theorem Run.unoffered (r : Run variant h p) (discovering : p.stage = .discovering) :
    p.transcript.hasPending = false := by
  induction r using Run.invariant with
  | new => cases discovering
  | rule _ ih _ step =>
    cases step with
    | opened _ _ o => cases o <;> exact ih discovering
    | switched _ _ _ o => cases o <;> cases discovering
    | drafted text _ =>
      obtain ⟨dirty, same⟩ := setDraft_eq _ text
      rw [same] at discovering ⊢
      exact ih discovering
    | prompted prompt _ accepted _ =>
      have free := (submission_eq_accepted accepted).2.1
      exact (Transcript.hasPending_append ..).trans (Bool.or_eq_false_iff.mpr ⟨free, rfl⟩)
    | completed _ _ c =>
      cases c with
      | synthesized _ => cases discovering
      | _ => exact absurd discovering (finishCall_stage_ne_discovering _)
    | closed _ | tabled _ _ | confirmed _ _ _ | reportBegun _ _ _ _ _ _ => cases discovering
    | _ => exact ih discovering
  | repainted _ ih => exact ih discovering

/-- Metrics that come under the ticket of a discovery override no checklist. -/
theorem Run.gentle_of_discerning (r : Run variant h p) (discerning : h.Discerning) :
    ∀ e ∈ h, e.overrides = false := by
  induction r using Run.invariant with
  | new =>
    intro e he
    cases he
  | @rule h p m before ih q es _ step =>
    intro e he
    rcases List.mem_cons.mp he with rfl | he
    · cases taken : (⟨p, m, es⟩ : Event).metrics? with
      | none => rw [Event.overrides, taken]; rfl
      | some labels =>
        obtain ⟨t, brings, accepted⟩ := metrics?_eq_some taken
        obtain rfl : m = .completed t (.discovery (.ok (.candidates labels))) := brings
        obtain ⟨op, gated, awaits⟩ := before.gated.awaits_of_accepts accepted
        obtain ⟨call, issued, rfl⟩ := before.awaited_call awaits
        have discovers := discerning.1 (by rw [taken]; rfl) _ rfl _ issued rfl
        have discovering : p.stage = .discovering := by
          rcases awaits with ⟨-, stage⟩ | ⟨-, load⟩
          · exact stage_eq_discovering (stage.trans (congrArg some discovers))
          · exact absurd load gated
        rw [Event.overrides, show Panel.transcript _ = p.transcript from rfl,
          before.unoffered discovering, Bool.and_false]
    · exact ih discerning.2 e he
  | repainted _ ih => exact ih discerning

/-! ## Settling a checklist -/

/-- A metric is approved, the selection is confirmed, and the calls it leads to are answered. -/
def settling (p : Panel) (index : Nat) (payload : Json.Value) (link : String) : List Message :=
  [.candidateToggled index true, .selectionConfirmed,
    .completed p.nextTicket (.synthesis (.ok payload)),
    .completed ⟨p.generation, p.nextSeq + 1⟩ (.delivery (.ok link))]

theorem mem_approvedLabels_setAt {cs : CandidateSet} {index : Nat} {c : Candidate}
    (held : cs.items[index]? = some c) : c.label ∈ (cs.setAt index true).approvedLabels := by
  have approved : (⟨c.label, true⟩ : Candidate) ∈ (cs.setAt index true).items := by
    apply List.mem_of_getElem? (i := index)
    rw [CandidateSet.setAt, List.getElem?_modify_eq, held]
    rfl
  exact List.mem_map.mpr ⟨_, List.mem_filter.mpr ⟨approved, rfl⟩, rfl⟩

/-- Whoever waits for a selection may approve any metric of the checklist and confirm. The call for
the selection names the metric, and once the replies have come the checklist is gone and the result
stands behind the conversation. -/
theorem Gated.settles (g : Gated p) (waiting : p.stage = .awaitingSelection) {index : Nat}
    {c : Candidate} (held : p.candidates.items[index]? = some c) (payload : Json.Value)
    (link : String) :
    let approved := p.candidates.setAt index true
    ((p.step (.candidateToggled index true)).panel.step .selectionConfirmed).effects =
        [.busyChanged true, .issue p.nextTicket (.synthesize (.selection approved.approvedLabels))] ∧
      c.label ∈ approved.approvedLabels ∧
      let settled := (tellAll (h, p) (p.settling index payload link)).2
      settled.stage = .idle ∧ settled.isBusy = false ∧ settled.candidates = {} ∧
        settled.transcript = p.transcript.dropPending.append (.result link) := by
  intro approved
  have named : c.label ∈ approved.approvedLabels := mem_approvedLabels_setAt held
  have some : approved.approvedLabels ≠ [] := List.ne_nil_of_mem named
  have free := g.free_of_awaiting waiting
  have isOpen := g.isOpen_of_awaiting waiting
  have holds : p.candidates.holds index = true := by
    obtain ⟨inside, -⟩ := List.getElem?_eq_some_iff.mp held
    exact decide_eq_true inside
  obtain ⟨toggled, -⟩ := (Rule.toggled index true waiting holds).step
  let chosen := p.setCandidates approved
  obtain ⟨confirmed, asks⟩ :=
    (Rule.confirmed (p := chosen) waiting some free).step
  let building := chosen.started .synthesizing
  have first : building.accepts p.nextTicket = true := accepts_iff.mpr ⟨isOpen, rfl⟩
  obtain ⟨synthesized, -⟩ := (Rule.completed _ first (.synthesized payload)).step
  let delivering := building.continueCall .delivering
  have second : delivering.accepts ⟨p.generation, p.nextSeq + 1⟩ = true :=
    accepts_iff.mpr ⟨isOpen, rfl⟩
  have pending : delivering.transcript.hasPending = true := g.hasPending_of_awaiting waiting
  obtain ⟨delivered, -⟩ := (Rule.completed _ second (.deliveredSelection link pending)).step
  refine ⟨by rw [toggled]; exact asks, named, ?_⟩
  have ends : (tellAll (h, p) (p.settling index payload link)).2 =
      (delivering.settled.append (.result link)).finishCall := by
    rw [settling, tellAll, toggled]
    change (((chosen.step _).panel.step (.completed p.nextTicket _)).panel.step _).panel = _
    rw [confirmed, synthesized, delivered]
  have gone : (delivering.settled.append (.result link)).transcript.hasPending = false := by
    simp [append, Panel.settled, dropPending, setCandidates, Entry.isSelectionPrompt, Entry.result]
  intro settled
  rw [show settled = _ from ends]
  refine ⟨?_, rfl, rfl, rfl⟩
  simp only [finishCall, gone, Bool.false_eq_true, if_false]

/-! ## Runs under any replies -/

/-- Whatever replies come under whatever tickets: all panels of a run have at most one checklist,
and metrics whenever a selection is awaited, exactly if no list of metrics is taken while a
checklist is up. That never happens as long as such lists come only under the tickets of
discoveries. In a run like this a panel that waits for a selection holds metrics, and approving any
one of them and confirming settles the checklist. -/
theorem sound_iff_not_overridden (r : Run variant h p) :
    ((∀ q ∈ p :: h.map Event.before, q.Sound) ↔ ∀ e ∈ h, e.overrides = false) ∧
    (h.Discerning → ∀ e ∈ h, e.overrides = false) ∧
    ((∀ e ∈ h, e.overrides = false) → p.stage = .awaitingSelection →
      p.candidates.items ≠ [] ∧
      ∀ index c, p.candidates.items[index]? = some c → ∀ payload link,
        let approved := p.candidates.setAt index true
        ((p.step (.candidateToggled index true)).panel.step .selectionConfirmed).effects =
            [.busyChanged true,
              .issue p.nextTicket (.synthesize (.selection approved.approvedLabels))] ∧
          c.label ∈ approved.approvedLabels ∧
          let settled := (tellAll (h, p) (p.settling index payload link)).2
          settled.stage = .idle ∧ settled.isBusy = false ∧ settled.candidates = {} ∧
            settled.transcript = p.transcript.dropPending.append (.result link)) := by
  refine ⟨⟨?_, ?_⟩, r.gentle_of_discerning, ?_⟩
  · intro sound
    have before : ∀ e ∈ h, e.before.Sound := fun e he =>
      sound _ (List.mem_cons_of_mem _ (List.mem_map_of_mem he))
    exact r.gentle_of_sound (sound p List.mem_cons_self) before
  · intro gentle q hq
    rcases List.mem_cons.mp hq with rfl | hq
    · exact (r.listed gentle).sound r.gated
    · obtain ⟨e, he, rfl⟩ := List.mem_map.mp hq
      exact r.sound_before gentle e he
  · intro gentle waiting
    refine ⟨(r.listed gentle).filled (r.gated.hasPending_of_awaiting waiting), ?_⟩
    intro index c held payload link
    exact r.gated.settles waiting held payload link

/-- A checklist is up and a report is made, to which an answer, a link and a table come in reply. -/
def confused : List Message :=
  [.opened "a", .completed ⟨0, 0⟩ (.session (.ok ⟨"sales", [⟨1, "by month", .null⟩]⟩)),
    .chartSelected 1, .draftChanged "why", .promptSubmitted,
    .completed ⟨0, 1⟩ (.discovery (.ok (.candidates ["x", "y"]))), .reportRequested,
    .completed ⟨0, 2⟩ (.synthesis (.ok .null)), .completed ⟨0, 3⟩ (.discovery (.ok (.analysis "so"))),
    .selectionConfirmed, .completed ⟨0, 4⟩ (.report (.ok []))]

theorem sound_iff_not_overridden_confused :
    let told := tellAll ([], .new .metricDiscovery) confused
    told.2.stage = .awaitingSelection ∧ (∀ q ∈ told.2 :: told.1.map Event.before, q.Sound) ∧
      (tellAll told (told.2.settling 1 .null "link")).2.stage = .idle := by
  intro told
  have waiting : told.2.stage = .awaitingSelection := by decide
  have gentle : ∀ e ∈ told.1, e.overrides = false := by decide
  obtain ⟨sound, -, settles⟩ :=
    sound_iff_not_overridden (Run.new.tellAll confused : Run .metricDiscovery told.1 told.2)
  have held : told.2.candidates.items[1]? = some ⟨"y", false⟩ := by decide
  obtain ⟨-, -, idle, -⟩ := (settles gentle waiting).2 1 _ held .null "link"
  exact ⟨waiting, sound.mpr gentle, idle⟩

/-- A checklist is up and a table is built for it, to which metrics come in reply. -/
def misled (labels : List String) : List Message :=
  [.opened "a", .draftChanged "why", .promptSubmitted,
    .completed ⟨0, 1⟩ (.discovery (.ok (.candidates ["x"]))), .allToggled true,
    .selectionConfirmed, .completed ⟨0, 2⟩ (.discovery (.ok (.candidates labels)))]

/-- Metrics under the ticket of another call put up a second checklist; if there are none of them,
a selection is awaited with nothing to select. -/
theorem checklist_overridden :
    let told labels := tellAll ([], .new .metricDiscovery) (misled labels)
    (∀ labels, Run .metricDiscovery (told labels).1 (told labels).2) ∧
      (told ["y"]).2.transcript.prompts = 2 ∧
      (told []).2.stage = .awaitingSelection ∧ (told []).2.candidates.items = [] :=
  ⟨fun labels => Run.new.tellAll (misled labels), by decide, by decide, by decide⟩

end Panel

end AnalysisPanel
