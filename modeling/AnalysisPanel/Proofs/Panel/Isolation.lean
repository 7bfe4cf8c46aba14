import AnalysisPanel.Panel.View
import AnalysisPanel.Proofs.Panel.Execution
import AnalysisPanel.Proofs.Panel.Gate

/-! Conversations apart. A panel that opens on a session it has to load shows and asks for the same
as a panel that was never open before; only the tickets are counted on from another origin. -/

namespace AnalysisPanel

/-! ## Counting from another origin -/

/-- A ticket counted from an origin. -/
def Ticket.shift (origin t : Ticket) : Ticket :=
  ⟨origin.generation + t.generation, origin.seq + t.seq⟩

/-- A message whose reply comes under a ticket counted from an origin. -/
def Message.shift (origin : Ticket) : Message → Message
  | .completed t reply => .completed (origin.shift t) reply
  | m => m

/-- An effect with its tickets and generations counted from an origin. -/
def Effect.shift (origin : Ticket) : Effect → Effect
  | .issue t call => .issue (origin.shift t) call
  | .closeSession generation => .closeSession (origin.generation + generation)
  | e => e

theorem Ticket.shift_inj {origin t t' : Ticket} : origin.shift t = origin.shift t' ↔ t = t' := by
  cases t
  cases t'
  simp [shift]

namespace Panel

/-- A panel with its tickets counted from an origin, whatever session its context is held for. -/
def shift (origin : Ticket) (contextFor : Option SessionId) (p : Panel) : Panel :=
  { p with
    contextFor, generation := origin.generation + p.generation, nextSeq := origin.seq + p.nextSeq,
    inFlight := p.inFlight.map origin.shift, bootstrap := p.bootstrap.map origin.shift }

/-- A message that leaves the panel open on its session. -/
def StaysOn (session : SessionId) : Message → Prop
  | .closed => False
  | .opened other => other = session
  | _ => True

variable {variant : Variant} {h : History} {p q : Panel} {m : Message} {es : List Effect}
  {origin : Ticket} {contextFor : Option SessionId} {session : SessionId}

theorem map_shift_beq (waiting : Option Ticket) (t : Ticket) :
    (waiting.map origin.shift == some (origin.shift t)) = (waiting == some t) := by
  cases waiting with
  | none => rfl
  | some t' =>
    rw [Bool.eq_iff_iff]
    simp [Ticket.shift_inj]

@[simp] theorem accepts_shift (p : Panel) (t : Ticket) :
    (p.shift origin contextFor).accepts (origin.shift t) = p.accepts t :=
  congrArg (p.isOpen && ·) (map_shift_beq p.inFlight t)

@[simp] theorem acceptsBootstrap_shift (p : Panel) (t : Ticket) :
    (p.shift origin contextFor).acceptsBootstrap (origin.shift t) = p.acceptsBootstrap t :=
  congrArg (p.isOpen && ·) (map_shift_beq p.bootstrap t)

theorem setDraft_shift (p : Panel) (text : String) :
    (p.shift origin contextFor).setDraft text = (p.setDraft text).shift origin contextFor := by
  unfold setDraft
  rw [apply_ite (shift origin contextFor)]
  rfl

@[simp] theorem view_shift (p : Panel) : (p.shift origin contextFor).view = p.view := by
  simp [view, shift, isBusy, selectedChart?]

/-! ## Steps are the same from every origin -/

theorem Ignores.shift (ignored : p.Ignores m) :
    (p.shift origin contextFor).Ignores (m.shift origin) := by
  cases m with
  | completed t reply =>
    cases reply with
    | session result => exact (acceptsBootstrap_shift p t).trans ignored
    | _ => exact (accepts_shift p t).trans ignored
  | _ => exact ignored

theorem Refuses.shift {failure : ValidationFailure} (refused : p.Refuses failure m) :
    (p.shift origin contextFor).Refuses failure (m.shift origin) := by
  cases m with
  | completed t reply => exact refused.elim
  | _ => exact refused

theorem Completing.shift {reply : Reply TransportFailure} (c : Completing p reply q es) :
    Completing (p.shift origin contextFor) reply (q.shift origin contextFor)
      (es.map (Effect.shift origin)) := by
  cases c with
  | failed operation failure kind => exact .failed operation failure kind
  | offered labels some => exact .offered labels some
  | nothingFound => exact .nothingFound
  | answered text => exact .answered text
  | synthesized payload => exact .synthesized payload
  | deliveredSelection link pending => exact .deliveredSelection link pending
  | deliveredTable link free => exact .deliveredTable link free
  | reported content => exact .reported content

/-- A step of a panel that stays open on its session is a step from every origin. Only which session
the context is held for may change in another way. -/
theorem Rule.shift (r : Rule p m q es) (isOpen : p.isOpen = true) (on : p.session = some session)
    (stays : StaysOn session m) (contextFor : Option SessionId) :
    ∃ contextFor', Rule (p.shift origin contextFor) (m.shift origin)
      (q.shift origin contextFor') (es.map (Effect.shift origin)) := by
  cases r with
  | ignored _ ignored => exact ⟨contextFor, .ignored _ ignored.shift⟩
  | refused _ failure refused => exact ⟨contextFor, .refused _ failure refused.shift⟩
  | linkOpened index url link => exact ⟨contextFor, .linkOpened index url link⟩
  | opened _ isClosed _ => exact absurd (isOpen.symm.trans isClosed) (by simp)
  | switched other _ elsewhere _ => exact absurd (stays ▸ on) elsewhere
  | closed _ => exact stays.elim
  | drafted text _ =>
    refine ⟨contextFor, ?_⟩
    rw [← setDraft_shift]
    exact .drafted text isOpen
  | toggled index approved waiting held =>
    exact ⟨contextFor, .toggled index approved waiting held⟩
  | missed index approved waiting missing =>
    exact ⟨contextFor, .missed index approved waiting missing⟩
  | toggledAll approved waiting => exact ⟨contextFor, .toggledAll approved waiting⟩
  | selected id chart _ known => exact ⟨contextFor, .selected id chart isOpen known⟩
  | prompted prompt request accepted put =>
    exact ⟨contextFor, .prompted prompt request accepted put⟩
  | tabled prompt accepted => exact ⟨contextFor, .tabled prompt accepted⟩
  | confirmed waiting some free => exact ⟨contextFor, .confirmed waiting some free⟩
  | reportBegun session chart _ hchart hsession free =>
    exact ⟨contextFor, .reportBegun session chart isOpen hchart hsession free⟩
  | contextLoaded t ctx accepted =>
    -- from here on the context is held for the same session, whatever it was held for before
    exact ⟨p.session, .contextLoaded _ ctx ((acceptsBootstrap_shift p t).trans accepted)⟩
  | contextLost t failure accepted =>
    exact ⟨none, .contextLost _ failure ((acceptsBootstrap_shift p t).trans accepted)⟩
  | completed t accepted c =>
    exact ⟨contextFor, .completed _ ((accepts_shift p t).trans accepted) c.shift⟩

theorem Rule.stays (r : Rule p m q es) (isOpen : p.isOpen = true) (on : p.session = some session)
    (stays : StaysOn session m) : q.isOpen = true ∧ q.session = some session := by
  cases r with
  | opened _ isClosed _ => exact absurd (isOpen.symm.trans isClosed) (by simp)
  | switched other _ elsewhere _ => exact absurd (stays ▸ on) elsewhere
  | closed _ => exact stays.elim
  | drafted text _ =>
    obtain ⟨dirty, same⟩ := p.setDraft_eq text
    rw [same]
    exact ⟨isOpen, on⟩
  | completed _ _ c => cases c <;> exact ⟨isOpen, on⟩
  | _ => exact ⟨isOpen, on⟩

/-! ## What is seen of a panel -/

/-- What is seen of a panel that is told messages: after each of them what it shows, and what it
asks for. -/
def observed (p : Panel) : List Message → List (View × List Effect)
  | [] => []
  | m :: messages =>
    ((p.step m).panel.view, (p.step m).effects) :: observed (p.step m).panel messages

/-- The same seen with tickets counted from an origin. -/
def seenFrom (origin : Ticket) (seen : View × List Effect) : View × List Effect :=
  (seen.1, seen.2.map (Effect.shift origin))

theorem observed_shift (isOpen : p.isOpen = true) (on : p.session = some session)
    {messages : List Message} (stay : ∀ m ∈ messages, StaysOn session m) (origin : Ticket)
    (contextFor : Option SessionId) :
    (p.shift origin contextFor).observed (messages.map (Message.shift origin)) =
      (p.observed messages).map (seenFrom origin) := by
  induction messages generalizing p contextFor with
  | nil => rfl
  | cons m messages ih =>
    have stays := stay m List.mem_cons_self
    have rule := step_allowed p m
    obtain ⟨contextFor', shifted⟩ := rule.shift isOpen on stays contextFor
    obtain ⟨panel, effects⟩ := shifted.step
    obtain ⟨isOpen', on'⟩ := rule.stays isOpen on stays
    have rest := ih isOpen' on' (fun m' hm => stay m' (List.mem_cons_of_mem m hm)) contextFor'
    rw [List.map_cons, observed, panel, effects, rest, view_shift]
    rfl

/-! ## Panels that are closed -/

/-- A panel that is closed holds nothing of a conversation. -/
structure Blank (p : Panel) : Prop where
  selected : p.selected = none
  draft : p.draft = ""
  transcript : p.transcript = {}
  candidates : p.candidates = {}
  gate : p.gate = {}
  stage : p.stage = .idle
  inFlight : p.inFlight = none
  bootstrap : p.bootstrap = none

theorem blank_closed (p : Panel) : Blank p.closed := ⟨rfl, rfl, rfl, rfl, rfl, rfl, rfl, rfl⟩

/-- A step leaves a panel closed by closing it, or by leaving it as it is. -/
theorem Rule.of_closed (r : Rule p m q es) (g : Gated p) (closed : q.isOpen = false) :
    q = p ∨ q = p.closed := by
  have opened (isOpen : q.isOpen = true) : q = p ∨ q = p.closed := by
    rw [closed] at isOpen
    cases isOpen
  cases r with
  | ignored _ _ => exact .inl rfl
  | refused _ _ _ => exact .inl rfl
  | linkOpened _ _ _ => exact .inl rfl
  | opened _ _ o => cases o <;> exact opened rfl
  | switched _ _ _ o => cases o <;> exact opened rfl
  | closed _ => exact .inr rfl
  | drafted text isOpen =>
    obtain ⟨dirty, same⟩ := p.setDraft_eq text
    rw [same] at closed
    exact absurd (isOpen.symm.trans closed) (by simp)
  | toggled _ _ waiting _ => exact opened (g.isOpen_of_awaiting waiting)
  | missed _ _ waiting _ => exact opened (g.isOpen_of_awaiting waiting)
  | toggledAll _ waiting => exact opened (g.isOpen_of_awaiting waiting)
  | selected _ _ isOpen _ => exact opened isOpen
  | prompted _ _ accepted _ => exact opened (submission_eq_accepted accepted).1
  | tabled _ accepted => exact opened (submission_eq_accepted accepted).1
  | confirmed waiting _ _ => exact opened (g.isOpen_of_awaiting waiting)
  | reportBegun _ _ isOpen _ _ _ => exact opened isOpen
  | contextLoaded _ _ accepted => exact opened (acceptsBootstrap_iff.mp accepted).1
  | contextLost _ _ accepted => exact opened (acceptsBootstrap_iff.mp accepted).1
  | completed _ accepted c =>
    have isOpen := (accepts_iff.mp accepted).1
    cases c <;> exact opened isOpen

theorem Rule.variant_eq (r : Rule p m q es) : q.variant = p.variant := by
  cases r with
  | opened _ _ o => cases o <;> rfl
  | switched _ _ _ o => cases o <;> rfl
  | drafted text _ =>
    obtain ⟨dirty, same⟩ := p.setDraft_eq text
    rw [same]
  | completed _ _ c => cases c <;> rfl
  | _ => rfl

theorem Run.variant_eq (r : Run variant h p) : p.variant = variant := by
  induction r using Run.invariant with
  | new => rfl
  | rule _ ih _ step => exact step.variant_eq.trans ih
  | repainted _ ih => exact ih

theorem Run.blank (r : Run variant h p) (closed : p.isOpen = false) : Blank p := by
  induction r using Run.invariant with
  | new => exact ⟨rfl, rfl, rfl, rfl, rfl, rfl, rfl, rfl⟩
  | rule before ih _ step =>
    rcases step.of_closed before.gated closed with same | same
    · subst same
      exact ih closed
    · rw [same]
      exact blank_closed _
  | repainted _ ih =>
    have b := ih closed
    exact ⟨b.selected, b.draft, b.transcript, b.candidates, b.gate, b.stage, b.inFlight,
      b.bootstrap⟩

/-- A panel that begins to load a session is, but for its origin, a new panel that does. -/
theorem Blank.beginBootstrap (b : Blank p) (session : SessionId) :
    (p.openOn session).beginBootstrap =
      ((Panel.new p.variant).openOn session).beginBootstrap.shift p.nextTicket p.contextFor := by
  obtain ⟨selected, draft, transcript, candidates, gate, stage, inFlight, -⟩ := b
  simp only [Panel.beginBootstrap, openOn, shift, new, nextTicket, selected, draft, transcript,
    candidates, gate, stage, inFlight]
  rfl

/-- A panel that was closed, after whatever run, opens on a session that it has to load. From then
on, told the same as a new panel of its variant that opens on the session, with replies under
tickets counted from its own next ticket, it shows the same after every message and asks for the
same, under tickets and generations counted from there. -/
theorem observed_of_reload (r : Run variant h p) (closed : p.isOpen = false)
    (session : SessionId)
    (loads : ∃ t, .issue t (.loadSession session) ∈ (p.step (.opened session)).effects)
    (messages : List Message) (stay : ∀ m ∈ messages, StaysOn session m) :
    p.observed (.opened session :: messages.map (Message.shift p.nextTicket)) =
      ((Panel.new variant).observed (.opened session :: messages)).map
        (seenFrom p.nextTicket) := by
  have other : p.contextFor ≠ some session := by
    intro held
    obtain ⟨t, issued⟩ := loads
    rw [(Rule.opened session closed (.held held)).step.2] at issued
    cases issued
  obtain ⟨panel, effects⟩ := (Rule.opened session closed (.loading other)).step
  have unheld : (Panel.new variant).contextFor ≠ some session := by simp [Panel.new]
  obtain ⟨panel', effects'⟩ := (Rule.opened session rfl (.loading unheld)).step
  have rest := observed_shift (p := ((Panel.new variant).openOn session).beginBootstrap) rfl rfl
    stay p.nextTicket p.contextFor
  rw [observed, observed, panel, effects, panel', effects', (r.blank closed).beginBootstrap session,
    r.variant_eq, rest, view_shift]
  rfl

/-- What a first conversation is told: a session with a chart is loaded, a question is put, and the
panel closes before it is answered. -/
def abandoned : List Message :=
  [.opened "a", .completed ⟨0, 0⟩ (.session (.ok ⟨"sales", [⟨1, "by month", .null⟩]⟩)),
    .chartSelected 1, .draftChanged "why", .promptSubmitted, .draftChanged "where", .closed]

/-- A second conversation, on another session, is as if the first had not been. -/
theorem observed_of_reload_abandoned :
    let told := tellAll ([], .new .metricDiscovery) abandoned
    let messages : List Message :=
      [.completed ⟨0, 0⟩ (.session (.ok ⟨"costs", []⟩)), .chartSelected 1, .draftChanged "when",
        .promptSubmitted, .completed ⟨0, 1⟩ (.discovery (.ok (.candidates ["x"])))]
    told.2.isOpen = false ∧ told.2.nextTicket = ⟨1, 2⟩ ∧
      (∃ t, .issue t (.loadSession "b") ∈ (told.2.step (.opened "b")).effects) ∧
      (∀ m ∈ messages, StaysOn "b" m) ∧
      told.2.observed (.opened "b" :: messages.map (Message.shift ⟨1, 2⟩)) =
        ((Panel.new .metricDiscovery).observed (.opened "b" :: messages)).map
          (seenFrom ⟨1, 2⟩) := by
  intro told messages
  have closed : told.2.isOpen = false := by decide
  have loads : ∃ t, .issue t (.loadSession "b") ∈ (told.2.step (.opened "b")).effects :=
    ⟨told.2.nextTicket, .head _⟩
  have stay : ∀ m ∈ messages, StaysOn "b" m := by simp [messages, StaysOn]
  exact ⟨closed, by decide, loads, stay,
    observed_of_reload (Run.new.tellAll abandoned) closed "b" loads messages stay⟩

/-! ## Until a panel is opened -/

/-- What asks for neither whether the panel is open finds nothing to act upon. -/
theorem Blank.ignores (b : Blank p) (closed : p.isOpen = false)
    (other : ∀ session, m ≠ .opened session) : p.Ignores m := by
  have idle : p.stage ≠ .awaitingSelection := by simp [b.stage]
  have mute : p.submission = .ignored := by simp [submission, closed]
  cases m with
  | opened session => exact absurd rfl (other session)
  | closed => exact closed
  | draftChanged text => exact closed
  | promptSubmitted => exact .inl mute
  | tableSubmitted => exact .inl mute
  | candidateToggled index approved => exact idle
  | allToggled approved => exact idle
  | selectionConfirmed => exact .inl idle
  | chartSelected id => exact .inl closed
  | reportRequested => exact .inl closed
  | linkActivated index =>
    rw [Ignores, b.transcript]
    rfl
  | completed t reply => cases reply <;> simp [Ignores, accepts, acceptsBootstrap, closed]
  | tick => trivial
  | noOp => trivial

/-- A panel that is closed, after whatever run, holds nothing of a conversation and waits for no
reply; and whatever it is told, short of being opened, leaves all of it as it was and asks for
nothing. -/
theorem closed_panel_inert (r : Run variant h p) (closed : p.isOpen = false) :
    (p.transcript.entries = [] ∧ p.candidates.items = [] ∧ p.draft = "" ∧ p.selected = none ∧
      p.inFlight = none ∧ p.bootstrap = none ∧ p.isBusy = false ∧ p.stage = .idle) ∧
    ∀ m, (∀ session, m ≠ .opened session) →
      (p.step m).panel = p ∧ (p.step m).effects = [] := by
  have b := r.blank closed
  refine ⟨⟨?_, ?_, b.draft, b.selected, b.inFlight, b.bootstrap, ?_, b.stage⟩, ?_⟩
  · rw [b.transcript]
  · rw [b.candidates]
  · rw [isBusy, b.gate]
  · intro m other
    exact step_of_ignores (b.ignores closed other)

/-- The answer to a question comes after the panel was closed, and metrics are approved that are no
longer there. -/
theorem closed_panel_inert_abandoned :
    let told := tellAll ([], .new .metricDiscovery) abandoned
    let answer := Message.completed ⟨0, 1⟩ (.discovery (.ok (.candidates ["x"])))
    told.2.isOpen = false ∧ told.2.transcript.entries = [] ∧
      (told.2.step answer).panel = told.2 ∧ (told.2.step answer).effects = [] ∧
      (told.2.step (.allToggled true)).panel = told.2 := by
  intro told answer
  have closed : told.2.isOpen = false := by decide
  obtain ⟨⟨entries, -⟩, still⟩ := closed_panel_inert (Run.new.tellAll abandoned) closed
  obtain ⟨panel, effects⟩ := still answer nofun
  exact ⟨closed, entries, panel, effects, (still (.allToggled true) nofun).1⟩

end Panel

end AnalysisPanel
