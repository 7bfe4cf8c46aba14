import AnalysisPanel.Proofs.Panel.Gate
import AnalysisPanel.Proofs.Program.Repaints
import AnalysisPanel.Proofs.Program.Session

/-! Repaints of the whole panel. The host prints the panel anew when it is loading no longer: its
context has come or failed to come, or the panel was closed while the load was under way. -/

namespace AnalysisPanel

open Service

/-! ## The load under way -/

namespace Panel

variable {p q : Panel} {m : Message} {es : List Effect}

/-- Only an opening, a closing, or the reply to the load changes what load is under way. -/
theorem Rule.bootstrap_eq (step : Rule p m q es) (opening : ∀ session, m ≠ .opened session)
    (closing : m ≠ .closed) (untaken : p.takesContext m = false) : q.bootstrap = p.bootstrap := by
  cases step with
  | opened session _ _ => exact absurd rfl (opening session)
  | switched session _ _ _ => exact absurd rfl (opening session)
  | closed _ => exact absurd rfl closing
  | drafted text _ =>
    obtain ⟨dirty, same⟩ := p.setDraft_eq text
    rw [same]
  | contextLoaded t ctx accepted => exact absurd (accepted.symm.trans untaken) nofun
  | contextLost t failure accepted => exact absurd (accepted.symm.trans untaken) nofun
  | completed t _ c => cases c <;> rfl
  | _ => rfl

theorem Rule.bootstrap_of_takesContext (step : Rule p m q es) (taken : p.takesContext m = true) :
    p.bootstrap.isSome = true ∧ q.bootstrap = none := by
  obtain ⟨t, result, rfl, accepted⟩ := takesContext_eq_true taken
  refine ⟨Option.isSome_iff_exists.mpr ⟨t, (acceptsBootstrap_iff.mp accepted).2⟩, ?_⟩
  cases step with
  | ignored _ ignored => exact absurd (accepted.symm.trans ignored) nofun
  | refused _ _ refused => exact refused.elim
  | contextLoaded _ _ _ => rfl
  | contextLost _ _ _ => rfl
  | completed _ _ c => exact absurd rfl c.operation_ne

/-- A panel that is told anything but to open is loading no longer if its load comes back, or if it
is closed meanwhile. -/
theorem Rule.settles_iff (step : Rule p m q es) (g : p.Gated)
    (opening : ∀ session, m ≠ .opened session) :
    p.bootstrap.isSome = true ∧ q.bootstrap = none ↔
      p.takesContext m = true ∨ m = .closed ∧ p.bootstrap.isSome = true := by
  constructor
  · rintro ⟨loading, settled⟩
    cases taken : p.takesContext m with
    | true => exact .inl rfl
    | false =>
      refine .inr ⟨Classical.byContradiction fun closing => ?_, loading⟩
      rw [← step.bootstrap_eq opening closing taken, settled] at loading
      cases loading
  · rintro (taken | ⟨rfl, loading⟩)
    · exact step.bootstrap_of_takesContext taken
    · refine ⟨loading, ?_⟩
      obtain ⟨t, bootstrap⟩ := Option.isSome_iff_exists.mp loading
      have isOpen := g.isOpen_of_awaits (.inr ⟨bootstrap, rfl⟩)
      cases step with
      | ignored _ shut => exact absurd (isOpen.symm.trans shut) nofun
      | refused _ _ refused => exact refused.elim
      | closed _ => rfl

end Panel

/-! ## What a host does with a message -/

namespace Host

open Log

variable {variant : Variant} {h : Host}

theorem Told.gated (t : Told variant h) : h.panel.Gated := by
  induction t with
  | new => exact Panel.gated_new variant
  | @dispatch h m _ ih =>
    have told : (h.dispatch m).1.panel = (h.panel.step m).panel.consumeDirty.2 := panel_repaint _
    rw [told]
    exact (ih.rule (h.panel.step_allowed m)).repainted

/-- What is logged and done when a panel is told something, before it may be printed anew. -/
def responses (h : Host) (m : Message) : List Act :=
  (h.panel.step m).notes.map (fun note => .log note.level note.message) ++
    batch (h.panel.step m).panel (h.panel.step m).effects

/-- The line of the log that comes with a repaint of the whole panel. -/
def settledLog : Act := .log .debug "session context settled"

/-- The panel is printed anew once it was told something. -/
def Reprints (h : Host) (m : Message) : Prop :=
  (h.dispatch m).2 = h.responses m ++ settledLog :: presentActs (h.dispatch m).1.panel

theorem append_ne {front rest text : String} (differs : ¬ front.toList <+: text.toList) :
    front ++ rest ≠ text := by
  rintro rfl
  rw [String.toList_append] at differs
  exact differs (List.prefix_append ..)

/-- No note of a panel reads as if its context had settled. -/
theorem note_ne_settledLog (note : Note) : Act.log note.level note.message ≠ settledLog := by
  intro same
  obtain ⟨level, message⟩ := Act.log.inj same
  cases note with
  | noCandidateAt _ | unknownChart _ | staleContext _ | staleReply _ _ =>
    delta Note.message at message
    simp only [String.append_assoc] at message
    exact append_ne (by decide) message
  | submissionIgnored | callRefused => exact absurd message (by decide)
  | _ => cases level

theorem settledLog_notMem_map_print (lines : List String) : settledLog ∉ lines.map Act.print := by
  rw [List.mem_map]
  rintro ⟨line, -, same⟩
  cases same

theorem settledLog_notMem_effectActs (position : Nat) (effect : Effect) :
    settledLog ∉ effectActs position effect := by
  cases effect with
  | issue t call => cases call <;> simp [effectActs, issueLog, settledLog]
  | candidatesChanged items =>
    simp only [effectActs]
    split
    · exact List.not_mem_nil
    · exact settledLog_notMem_map_print _
  | _ => simp [effectActs, settledLog]

theorem settledLog_notMem_actsFrom (shown : Nat) (es : List Effect) :
    settledLog ∉ actsFrom shown es := by
  induction es generalizing shown with
  | nil => exact List.not_mem_nil
  | cons effect rest ih =>
    rw [actsFrom, List.mem_append, not_or]
    exact ⟨settledLog_notMem_effectActs _ effect, ih _⟩

theorem settledLog_notMem_responses (h : Host) (m : Message) : settledLog ∉ h.responses m := by
  rw [responses, batch, List.mem_append, List.mem_append, not_or, not_or]
  refine ⟨?_, settledLog_notMem_actsFrom _ _, ?_⟩
  · rw [List.mem_map]
    rintro ⟨note, -, same⟩
    exact note_ne_settledLog note same
  · split
    · cases Rendering.statusLine (h.panel.step m).panel.stage with
      | none => exact List.not_mem_nil
      | some line => exact settledLog_notMem_map_print [line]
    · exact List.not_mem_nil

theorem acts_repaint (p : Panel) (wasLoading : Bool) :
    (repaint ⟨p, wasLoading⟩).2 =
      if p.dirty && wasLoading && p.bootstrap.isNone then
        settledLog :: presentActs p.consumeDirty.2
      else [] := by
  unfold repaint
  dsimp only [Panel.consumeDirty, Panel.view]
  rw [Option.not_isSome]
  cases p.dirty <;> cases wasLoading <;> rfl

/-- What a host does with a message. Where no repaint is asked for nothing has changed, so the load
is under way as it was before. -/
theorem Told.acts_dispatch (t : Told variant h) (m : Message) :
    (h.dispatch m).2 = h.responses m ++
      if h.panel.bootstrap.isSome && (h.panel.step m).panel.bootstrap.isNone then
        settledLog :: presentActs (h.dispatch m).1.panel
      else [] := by
  have told : (h.dispatch m).1.panel = (h.panel.step m).panel.consumeDirty.2 := panel_repaint _
  have acts : (h.dispatch m).2 =
      h.responses m ++ (repaint ⟨(h.panel.step m).panel, h.wasLoading⟩).2 := rfl
  have due : ((h.panel.step m).panel.dirty && h.wasLoading &&
      (h.panel.step m).panel.bootstrap.isNone) =
        (h.panel.bootstrap.isSome && (h.panel.step m).panel.bootstrap.isNone) := by
    have loading : h.wasLoading = h.panel.bootstrap.isSome := t.painted.loading
    rw [loading]
    rcases (h.panel.step_allowed m).flagged with same | dirty
    · rw [same]
      cases h.panel.bootstrap <;> simp
    · rw [dirty, Bool.true_and]
  rw [acts, acts_repaint, due, told]

/-- A host prints its panel anew exactly when the panel was loading and is loading no longer. -/
theorem Told.reprints_iff (t : Told variant h) (m : Message) :
    h.Reprints m ↔ h.panel.bootstrap.isSome = true ∧ (h.panel.step m).panel.bootstrap = none := by
  rw [Reprints, t.acts_dispatch m, List.append_cancel_left_eq, ← Option.isNone_iff_eq_none,
    ← Bool.and_eq_true]
  split
  · rename_i settled
    exact iff_of_true rfl settled
  · rename_i other
    exact iff_of_false (List.cons_ne_nil _ _).symm other

/-- What a host does besides is what comes of the message, whatever load is under way. -/
theorem Told.acts_of_not_reprints (t : Told variant h) {m : Message} (other : ¬ h.Reprints m) :
    (h.dispatch m).2 = h.responses m := by
  rw [t.reprints_iff, ← Option.isNone_iff_eq_none, ← Bool.and_eq_true] at other
  rw [t.acts_dispatch m, if_neg other, List.append_nil]

theorem Told.settledLog_mem_iff (t : Told variant h) (m : Message) :
    settledLog ∈ (h.dispatch m).2 ↔ h.Reprints m := by
  constructor
  · intro logged
    refine Classical.byContradiction fun other => ?_
    rw [t.acts_of_not_reprints other] at logged
    exact h.settledLog_notMem_responses m logged
  · intro reprints
    rw [reprints]
    exact List.mem_append_right _ List.mem_cons_self

/-! ## What a host is told in a session -/

theorem dispatchAll_append (h : Host) (ms ms' : List Message) :
    (h.dispatchAll (ms ++ ms')).1 = ((h.dispatchAll ms).1.dispatchAll ms').1 := by
  induction ms generalizing h with
  | nil => rfl
  | cons m rest ih => exact ih _

/-- No line that is typed opens the panel. -/
theorem ne_opened_of_input (h : Host) (input : Terminal.Input) :
    ∀ m ∈ h.inputMessages input, ∀ session, m ≠ .opened session := by
  have of_command (latest : Option Nat) (command : Command) :
      ∀ m ∈ command.messages latest, ∀ session, m ≠ .opened session := by
    rintro m hm session rfl
    cases command <;> simp only [Command.messages] at hm <;> (try split at hm) <;> simp at hm
  have of_closing (goesOn : Bool) :
      ∀ m ∈ (if goesOn then [] else [Message.closed]), ∀ session, m ≠ .opened session := by
    cases goesOn <;> simp
  cases input with
  | line text =>
    refine List.forall_mem_append.mpr ⟨?_, of_closing _⟩
    unfold lineMessages
    split
    · exact of_command _ _
    · exact List.forall_mem_nil _
  | ended => exact of_closing false

end Host

namespace World

theorem host_read (w : World) (input : Terminal.Input) :
    (w.read input).host = (w.host.dispatchAll (w.heard (.read input))).1 := by
  have host_stop (w : World) : w.stop.host = (w.host.dispatchAll [.closed]).1 :=
    host_follow w w.host.stop
  unfold read heard
  split
  · rfl
  · cases input with
    | ended => exact host_stop w
    | line text =>
      have host : (w.follow (w.host.readLine text).2).host =
          (w.host.dispatchAll (w.host.lineMessages text)).1 :=
        (host_follow _ _).trans (w.host.host_readLine text)
      change (w.readLine text).host = (w.host.dispatchAll (w.host.inputMessages (.line text))).1
      rw [readLine_eq, Host.inputMessages, Host.dispatchAll_append, ← host]
      split
      · rfl
      · exact host_stop _

/-- Whatever happens in a session, its host is told what the panel hears of it, and nothing else. -/
theorem host_after (settings : Settings) (w : World) (x : Happening) :
    (w.after settings x).host = (w.host.dispatchAll (w.heard x)).1 := by
  cases x with
  | read input => exact w.host_read input
  | ticked =>
    unfold after heard
    dsimp only
    split
    · rfl
    · exact host_follow _ _
  | ordered =>
    unfold after takeOrder
    dsimp only
    split <;> rfl
  | answered number answer =>
    unfold after
    dsimp only
    split <;> rfl
  | received =>
    unfold after heard
    dsimp only
    split
    · rfl
    · unfold receive
      cases w.engine.take? with
      | none => rfl
      | some taken => exact host_follow _ _

theorem ne_opened_of_heard (w : World) (x : Happening) :
    ∀ m ∈ w.heard x, ∀ session, m ≠ .opened session := by
  unfold heard
  cases x with
  | read input =>
    dsimp only
    split
    · exact List.forall_mem_nil _
    · exact w.host.ne_opened_of_input input
  | ticked =>
    dsimp only
    split <;> simp
  | ordered => exact List.forall_mem_nil _
  | answered number answer => exact List.forall_mem_nil _
  | received =>
    dsimp only
    split
    · exact List.forall_mem_nil _
    · cases w.engine.take? <;> simp [Completion.message]

end World

/-- What is printed anew shows on the terminal of any world that follows the host, below what else
comes of the message, and its line stands last in the log. -/
theorem World.follow_of_reprints (w : World) {h : Host} {m : Message} (reprints : h.Reprints m) :
    let plain := w.follow ((h.dispatch m).1, h.responses m)
    (w.follow (h.dispatch m)).printed =
        plain.printed ++ Rendering.panelLines (h.dispatch m).1.panel.view ∧
      (w.follow (h.dispatch m)).logs =
        plain.logs ++ [.of w.label .debug "session context settled"] := by
  intro plain
  have idle (lines : List String) :
      ∀ a ∈ Host.settledLog :: lines.map Act.print, a.isSave = false := by
    simp [Host.settledLog, Act.isSave]
  have texts (lines : List String) : (lines.map Act.print).filterMap Act.text? = lines := by
    rw [List.filterMap_map]
    exact List.filterMap_some
  have unlogged (lines : List String) :
      (lines.map Act.print).filterMap (Act.line? w.label) = [] := by
    rw [List.filterMap_map]
    exact List.filterMap_eq_nil_iff.mpr fun _ _ => rfl
  have acts : w.performed (h.dispatch m).2 = w.performed (h.responses m) ++
      Host.settledLog :: Host.presentActs (h.dispatch m).1.panel := by
    rw [reprints]
    exact Act.performed_append (idle _) _
  constructor
  · rw [printed_follow, printed_follow, acts, List.filterMap_append, ← List.append_assoc]
    exact congrArg (_ ++ ·) (texts _)
  · rw [logs_follow, logs_follow, acts, List.filterMap_append, ← List.append_assoc]
    exact congrArg (_ ++ Log.Line.of _ _ _ :: ·) (unlogged _)

/-- The host of a session has been told to open its panel first, and never again. -/
theorem Session.exists_told (settings : Settings) (l : Program.Launch) (disk : Storage.Disk)
    (draws : Nat → Storage.Draws) (happenings : List Happening) :
    ∃ ms : List Message, (∀ m ∈ ms, ∀ session, m ≠ .opened session) ∧
      ((Session.start l disk draws).run settings happenings).world.host =
        ((Host.new l.variant).dispatchAll (.opened l.session :: ms)).1 := by
  refine Session.run_invariant (motive := fun s =>
    ∃ ms : List Message, (∀ m ∈ ms, ∀ session, m ≠ .opened session) ∧
      s.world.host = ((Host.new l.variant).dispatchAll (.opened l.session :: ms)).1)
    ?_ ?_ happenings
  · exact ⟨[], List.forall_mem_nil _, World.host_follow _ _⟩
  · rintro s x ⟨ms, told, host⟩
    refine ⟨ms ++ s.world.heard x,
      List.forall_mem_append.mpr ⟨told, s.world.ne_opened_of_heard x⟩, ?_⟩
    rw [← List.cons_append, Host.dispatchAll_append, ← host]
    exact s.world.host_after settings x

namespace Host

/-- Whatever happens in a session, its host was told to open its panel first and never again. The
opening does not print the panel anew, and whatever the host was told since then, the next message
does if and only if it is a context that the panel takes, loaded or not, or it closes the panel
while the load is still under way. With that goes the line of the log that says that the context has
settled, and there is no such line otherwise: then all that is done is what comes of the message.
Whatever world follows the host, its terminal shows the panel and its log the line. -/
theorem reprints_when_settled (variant : Variant) (session : SessionId) :
    (∀ settings (l : Program.Launch) disk draws happenings,
      l.variant = variant → l.session = session →
      ∃ ms : List Message, (∀ m ∈ ms, ∀ session, m ≠ .opened session) ∧
        ((Session.start l disk draws).run settings happenings).world.host =
          ((Host.new variant).dispatchAll (.opened session :: ms)).1) ∧
    ¬ (Host.new variant).Reprints (.opened session) ∧
    ∀ ms m, (∀ session, m ≠ .opened session) →
      let h := ((Host.new variant).dispatchAll (.opened session :: ms)).1
      (h.Reprints m ↔
        h.panel.takesContext m = true ∨ m = .closed ∧ h.panel.bootstrap.isSome = true) ∧
      (settledLog ∈ (h.dispatch m).2 ↔ h.Reprints m) ∧
      (¬ h.Reprints m → (h.dispatch m).2 = h.responses m) ∧
      ∀ w : World,
        let plain := w.follow ((h.dispatch m).1, h.responses m)
        h.Reprints m →
          (w.follow (h.dispatch m)).printed =
              plain.printed ++ Rendering.panelLines (h.dispatch m).1.panel.view ∧
            (w.follow (h.dispatch m)).logs =
              plain.logs ++ [.of w.label .debug "session context settled"] := by
  refine ⟨?_, ?_, fun ms m opening => ?_⟩
  · rintro settings l disk draws happenings rfl rfl
    exact Session.exists_told settings l disk draws happenings
  · rw [Told.new.reprints_iff]
    rintro ⟨loading, -⟩
    cases loading
  · have t : Told variant ((Host.new variant).dispatchAll (.opened session :: ms)).1 :=
      Told.new.dispatchAll _
    refine ⟨?_, t.settledLog_mem_iff m, t.acts_of_not_reprints, fun w => w.follow_of_reprints⟩
    rw [t.reprints_iff]
    exact (Panel.step_allowed _ m).settles_iff t.gated opening

/-- The context arrives while the user types, and the panel is printed anew; closing it does not
print it again. -/
theorem reprints_when_settled_typing :
    let h := ((Host.new .metricDiscovery).dispatchAll [.opened "a", .draftChanged "why"]).1
    let load := Message.completed ⟨0, 0⟩ (.session (.ok ⟨"sales", []⟩))
    h.panel.takesContext load = true ∧ h.Reprints load ∧
      ¬ (h.dispatch load).1.Reprints .closed := by
  intro h load
  have taken : h.panel.takesContext load = true := by decide
  obtain ⟨-, -, next⟩ := reprints_when_settled .metricDiscovery "a"
  refine ⟨taken, (next [.draftChanged "why"] load nofun).1.mpr (.inl taken), fun reprints => ?_⟩
  rcases (next [.draftChanged "why", load] .closed nofun).1.mp reprints with taken | ⟨-, loading⟩
  · cases taken
  · revert loading
    decide

/-- A panel that is closed while its context is loading is printed anew as if the context had
settled, although none has come. -/
theorem closed_while_loading_reprints :
    let h := ((Host.new .metricDiscovery).dispatchAll [.opened "a"]).1
    h.panel.takesContext .closed = false ∧ h.Reprints .closed ∧
      settledLog ∈ (h.dispatch .closed).2 := by
  intro h
  have t : Told .metricDiscovery h := Told.new.dispatchAll [.opened "a"]
  have reprints : h.Reprints .closed := (t.reprints_iff .closed).mpr ⟨by decide, by decide⟩
  exact ⟨rfl, reprints, (t.settledLog_mem_iff .closed).mpr reprints⟩

end Host

end AnalysisPanel
