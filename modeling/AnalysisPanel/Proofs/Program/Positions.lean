import AnalysisPanel.Proofs.Panel.Positions
import AnalysisPanel.Proofs.Program.Delivery
import AnalysisPanel.Proofs.Terminal.Positions

/-! Positions over the course of a program. The engine brings each call a reply of its kind, so the
panel of a program goes through a run with faithful replies; what is printed of an entry therefore
names it for as long as the panel stays open. -/

namespace AnalysisPanel

open Relation Service

variable {variant : Variant} {h : Panel.History}

/-! ## Runs of the panel of a program -/

namespace System

variable {s s' : System} {p : Panel} {e e' : Engine} {m : Message}

/-- The panel has gone through a run with faithful replies, and each reply that is still to come is
of the kind of a call of that run. -/
structure Traced (variant : Variant) (h : Panel.History) (s : System) : Prop where
  run : Panel.Run variant h s.panel
  faithful : h.Faithful
  numbered : s.engine.Numbered
  known : ∀ i ∈ s.engine.pending, ∃ call, (i.1, call) ∈ h.issued ∧ call.operation = i.2

theorem traced_new (variant : Variant) : Traced variant [] ⟨.new variant, {}⟩ where
  run := .new
  faithful := trivial
  numbered := Engine.numbered_new
  known i hi := by cases hi

theorem Traced.advance (i : Traced variant h ⟨p, e⟩) (a : Engine.Advances e e') :
    Traced variant h ⟨p, e'⟩ := by
  obtain ⟨lost, split, -⟩ := a.pending
  refine ⟨i.run, i.faithful, a.numbered, ?_⟩
  intro item hitem
  exact i.known item (split.mem_iff.mpr (List.mem_append_right _ hitem))

/-- A reply that was on its way is of the kind of the call under its ticket. -/
theorem Traced.faithful_cons (i : Traced variant h ⟨p, e⟩) (es : List Effect)
    (brings : ∀ r ∈ m.reply?, (r.1, r.2.operation) ∈ e.pending) :
    Panel.History.Faithful (⟨p, m, es⟩ :: h) := by
  refine ⟨?_, i.faithful⟩
  rintro r hr ⟨t, call⟩ issued rfl
  obtain ⟨call', issued', kind⟩ := i.known _ (brings r hr)
  rw [i.run.issued_unique issued issued', kind]

theorem Traced.tell (i : Traced variant h ⟨p, e⟩) (numbered : e'.Numbered)
    (left : ∀ item ∈ e'.pending, item ∈ e.pending)
    (brings : ∀ r ∈ m.reply?, (r.1, r.2.operation) ∈ e.pending) :
    Traced variant (⟨p, m, (p.step m).effects⟩ :: h) (tell ⟨p, e'⟩ m) := by
  refine ⟨(i.run.tell m).repainted, i.faithful_cons _ brings,
    ⟨numbered.distinct, numbered.older⟩, ?_⟩
  intro item hitem
  have onTheWay := e'.pending_submitAll (ordersOf (p.step m).effects)
  rw [items_ordersOf] at onTheWay
  rcases List.mem_append.mp (onTheWay.mem_iff.mp hitem) with issued | kept
  · obtain ⟨c, hc, rfl⟩ := List.mem_map.mp issued
    exact ⟨c.2, List.mem_append_left _ hc, rfl⟩
  · obtain ⟨call, old, kind⟩ := i.known item (left item kept)
    exact ⟨call, List.mem_append_right _ old, kind⟩

theorem Traced.later (i : Traced variant h ⟨p, e⟩) (e' : Engine) (m : Message) :
    p.Later (System.tell ⟨p, e'⟩ m).panel := by
  have later := (i.run.causal i.faithful).later (Panel.step_allowed p m)
  exact ⟨later.generation, later.keeps⟩

theorem Traced.step (i : Traced variant h s) (step : Step s s') :
    s.panel.Later s'.panel ∧ ∃ h', Traced variant h' s' := by
  cases step with
  | told m silent =>
    refine ⟨i.later _ m, _, i.tell i.numbered (fun _ hitem => hitem) ?_⟩
    rw [silent]
    intro r hr
    cases hr
  | ordered next => exact ⟨.refl _, _, i.advance (Engine.advances_next? i.numbered next)⟩
  | finished running kind =>
    exact ⟨.refl _, _, i.advance (Engine.advances_finish i.numbered running kind)⟩
  | received taken =>
    have split := Engine.pending_take? taken
    obtain ⟨rest, completions, rfl⟩ := Engine.take?_eq_some taken
    refine ⟨i.later _ _, _, i.tell ⟨i.numbered.distinct, i.numbered.older⟩ ?_ ?_⟩
    · intro item hitem
      exact split.mem_iff.mpr (List.mem_cons_of_mem _ hitem)
    · rintro r ⟨⟩
      rw [Reply.operation_mapError]
      exact split.mem_iff.mpr List.mem_cons_self

theorem Traced.steps (i : Traced variant h s) (steps : ReflTransGen Step s s') :
    s.panel.Later s'.panel ∧ ∃ h', Traced variant h' s' := by
  induction steps with
  | refl => exact ⟨.refl _, h, i⟩
  | tail _ step ih =>
    obtain ⟨later, h', i'⟩ := ih
    obtain ⟨later', traced⟩ := i'.step step
    exact ⟨later.trans later', traced⟩

end System

namespace World

variable {w w₁ : World} {m : Message}

theorem Reachable.traced (r : Reachable variant w) : ∃ h, System.Traced variant h w.system := by
  obtain ⟨w₀, host, engine, steps⟩ := r
  have start : w₀.system = ⟨.new variant, {}⟩ := by
    rw [system, host, engine]
    rfl
  have course : ReflTransGen System.Step w₀.system w.system :=
    steps.lift' system fun _ _ => Step.system
  rw [start] at course
  exact ((System.traced_new variant).steps course).2

theorem Reachable.later (r : Reachable variant w) {w' : World} (steps : ReflTransGen Step w w') :
    w.host.panel.Later w'.host.panel := by
  obtain ⟨h, i⟩ := r.traced
  exact (i.steps (steps.lift' system fun _ _ => Step.system)).1

/-! ## What a host prints -/

/-- The host tells its panel something: what the user does, or the next completion. -/
inductive Tells (w : World) : Message → World → Prop where
  | user (m : Message) : m.reply? = none → Tells w m (w.follow (w.host.dispatch m))
  | completion {c : Completion} {engine : Engine} : w.engine.take? = some (c, engine) →
      Tells w c.message ({ w with engine }.follow (w.host.receive c))

theorem Tells.step (told : w.Tells m w₁) : Step w w₁ := by
  cases told with
  | user m silent => exact .told m silent
  | @completion c engine taken =>
    have received : w.receive = { w with engine }.follow (w.host.receive c) := by
      rw [receive, taken]
    exact received ▸ .received

theorem Tells.transcript (told : w.Tells m w₁) :
    w₁.host.panel.transcript = (w.host.panel.step m).panel.transcript := by
  cases told with
  | user m _ =>
    have heard := w.system_follow (w.host.hears_dispatch m)
    exact congrArg (·.panel.transcript) heard
  | @completion c engine _ =>
    have heard := system_follow { w with engine } (w.host.hears_receive c)
    exact congrArg (·.panel.transcript) heard

/-- What the host prints of what it was told shows on the terminal. -/
theorem Tells.shows (told : w.Tells m w₁) {text : String} {before after : List Act}
    (printed : Host.batch (w.host.panel.step m).panel (w.host.panel.step m).effects =
      before ++ .print text :: after) :
    ∃ earlier later, w₁.printed = w.printed ++ earlier ++ text :: later := by
  -- the notes of the step come before its effects, and a repaint after them
  have shown (w' : World) (host : w'.host = w.host) :
      ∃ earlier later,
        (w'.follow (w'.host.dispatch m)).printed = w'.printed ++ earlier ++ text :: later := by
    have acts : ∃ front back, (w'.host.dispatch m).2 = front ++ .print text :: back := by
      refine ⟨(w.host.panel.step m).notes.map (fun note => .log note.level note.message) ++ before,
        after ++ ({ w.host with panel := (w.host.panel.step m).panel } : Host).repaint.2, ?_⟩
      rw [host, Host.dispatch]
      simp only [printed, List.append_assoc, List.cons_append]
    obtain ⟨front, back, acts⟩ := acts
    obtain ⟨earlier, later, texts⟩ :=
      Act.texts_of_print w'.downloads w'.draws w'.disk text front back
    refine ⟨earlier, later, ?_⟩
    rw [printed_follow, performed, acts, texts, List.append_assoc]
  cases told with
  | user m _ => exact shown w rfl
  | @completion c engine _ => exact shown { w with engine } rfl

theorem Tells.brings (told : w.Tells m w₁) :
    ∀ r ∈ m.reply?, (r.1, r.2.operation) ∈ w.engine.pending := by
  cases told with
  | user m silent =>
    rw [silent]
    intro r hr
    cases hr
  | completion taken =>
    rintro r ⟨⟩
    rw [Reply.operation_mapError]
    exact (Engine.pending_take? taken).mem_iff.mpr List.mem_cons_self

theorem Reachable.tells (r : Reachable variant w) (told : w.Tells m w₁) :
    Reachable variant w₁ := by
  obtain ⟨w₀, host, engine, steps⟩ := r
  exact ⟨w₀, host, engine, steps.tail told.step⟩

theorem countP_appends (es : List Effect) :
    es.countP Host.appends = (es.filterMap Effect.entry?).length := by
  induction es with
  | nil => rfl
  | cons effect es ih =>
    rw [List.countP_cons, ih]
    cases effect <;> rfl

/-- The entry that a step shows is the last of the transcript, and is printed with its position. -/
theorem Reachable.prints (r : Reachable variant w) (told : w.Tells m w₁) {e : Entry}
    {before after : List Effect}
    (shows : (w.host.panel.step m).effects = before ++ .turnAppended e :: after) :
    ∃ n, w₁.host.panel.transcript.size = n + 1 ∧ w₁.host.panel.transcript.get? n = some e ∧
      (∃ rest, Host.batch (w.host.panel.step m).panel (w.host.panel.step m).effects =
        Host.actsFrom n before ++ .print (Rendering.entryLine (n + 1) e) :: rest) ∧
      ∃ earlier later,
        w₁.printed = w.printed ++ earlier ++ Rendering.entryLine (n + 1) e :: later := by
  obtain ⟨h, i⟩ := r.traced
  have faithful := i.faithful_cons (w.host.panel.step m).effects told.brings
  have grows := (i.run.causal i.faithful).grows faithful (Panel.step_allowed w.host.panel m)
  obtain ⟨none, none', front, ends⟩ := grows.shows shows
  have first : before.countP Host.appends = 0 := by rw [countP_appends, none, List.length_nil]
  have rest : after.countP Host.appends = 0 := by rw [countP_appends, none', List.length_nil]
  have one : (w.host.panel.step m).effects.countP Host.appends = 1 := by
    rw [shows, List.countP_append, List.countP_cons, first, rest]
    rfl
  have size : (w.host.panel.step m).panel.transcript.size = front.length + 1 := by
    rw [Transcript.size, ends, List.length_append]
    rfl
  obtain ⟨rest, printed⟩ := Host.batch_of_cut (w.host.panel.step m).panel shows
  rw [one, first, size] at printed
  rw [told.transcript]
  refine ⟨front.length, size, ?_, ⟨rest, printed⟩, told.shows printed⟩
  rw [Transcript.get?, ends, List.getElem?_concat_length]

/-- What is printed of an entry holds until the panel closes, that is, while its generation is the
same: no entry but a checklist leaves its place; and whatever the host tells its panel, an entry
that is appended is printed with the position where it then stands, as the last of all, so that its
line shows on the terminal, and goes by that position ever after. Lines of input tell the panel
their messages one after the other, so each of them is told in such a world. -/
theorem printed_position_lasts (r : Reachable variant w) :
    (∀ w', ReflTransGen Step w w' → w'.host.panel.generation = w.host.panel.generation →
      w.host.panel.transcript.Keeps w'.host.panel.transcript) ∧
    ∀ m w₁, w.Tells m w₁ → ∀ before e after,
      (w.host.panel.step m).effects = before ++ .turnAppended e :: after →
      ∃ n, w₁.host.panel.transcript.size = n + 1 ∧ w₁.host.panel.transcript.get? n = some e ∧
        (∃ rest, Host.batch (w.host.panel.step m).panel (w.host.panel.step m).effects =
          Host.actsFrom n before ++ .print (Rendering.entryLine (n + 1) e) :: rest) ∧
        (∃ earlier later,
          w₁.printed = w.printed ++ earlier ++ Rendering.entryLine (n + 1) e :: later) ∧
        ∀ w', ReflTransGen Step w₁ w' → w'.host.panel.generation = w₁.host.panel.generation →
          e.isSelectionPrompt = false → w'.host.Names n e := by
  refine ⟨fun w' steps => (r.later steps).keeps, ?_⟩
  intro m w₁ told before e after shows
  obtain ⟨n, last, stands, printed, shown⟩ := r.prints told shows
  refine ⟨n, last, stands, printed, shown, ?_⟩
  intro w' steps same plain
  have later := (r.tells told).later steps
  exact Host.names_of_stands (later.keeps same n e plain stands)

/-- A table is asked for. -/
def asked : World :=
  ((World.start { host := .new .metricDiscovery } "a").read (.line "/table t")).settle

def building : Running := ⟨1, ⟨0, 1⟩, .synthesize (.prompt "t"), false⟩

def built : World := ((asked.finish building (.synthesis (.ok .null))).receive).settle

def charting : Running := ⟨2, ⟨0, 2⟩, .deliver .null, false⟩

/-- Its chart has come back, but the host has not taken it. -/
def charted : World := built.finish charting (.delivery (.ok "link"))

/-- A question is typed once the host has shown the chart. -/
theorem printed_position_lasts_asking :
    let told := charted.receive
    let later := told.read (.line "u")
    told.host.panel.transcript.entries = [.user "t", .result "link"] ∧
      later.host.panel.transcript.size = 3 ∧
      later.host.readLine "/open 2" = (true, later.host.dispatch (.linkActivated 1)) ∧
      (later.host.panel.step (.linkActivated 1)).effects = [.openLink "link"] := by
  intro told later
  have asking : ReflTransGen Step { host := .new .metricDiscovery } asked :=
    ((ReflTransGen.single (.started "a")).tail (.read _)).tail .settled
  have building : ReflTransGen Step asked built :=
    ((ReflTransGen.single (.finished (.tail _ (.head _)) rfl)).tail .received).tail .settled
  have charting : Step built charted := .finished (.tail _ (.head _)) rfl
  have reachable : Reachable .metricDiscovery charted :=
    ⟨_, rfl, rfl, (asking.trans building).tail charting⟩
  have tells : charted.Tells (.completed ⟨0, 2⟩ (.delivery (.ok "link"))) told :=
    .completion (c := ⟨2, ⟨0, 2⟩, .delivery (.ok "link")⟩) rfl
  have shows : (charted.host.panel.step (.completed ⟨0, 2⟩ (.delivery (.ok "link")))).effects =
      [] ++ .turnAppended (.result "link") :: [.scrollToBottom, .busyChanged false] := rfl
  have size : told.host.panel.transcript.size = 2 := by decide
  have same : later.host.panel.generation = told.host.panel.generation := by decide
  obtain ⟨n, last, -, -, -, names⟩ := (printed_position_lasts reachable).2 _ _ tells _ _ _ shows
  obtain rfl : n = 1 := by omega
  have opens := (names later (.single (.read _)) same rfl).opens "link" rfl (by decide)
  exact ⟨by decide, by decide, opens⟩

end World

end AnalysisPanel
