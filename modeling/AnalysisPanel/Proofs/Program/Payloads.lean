import AnalysisPanel.Proofs.Panel.Payloads
import AnalysisPanel.Proofs.Program.Session
import AnalysisPanel.Proofs.Service.Bodies
import AnalysisPanel.Proofs.Service.Completions

/-! Payloads on their way through the program. A payload comes with an answer, is kept by the panel,
and leaves with a request; on its way it is neither changed nor taken for another. -/

namespace AnalysisPanel

open Service

/-! ## Where replies come from -/

/-- A reply that the panel hears is what became of an answer. -/
def Reported (settings : Settings) (answers : List Answered) (r : Ticket × Reply TransportFailure) :
    Prop :=
  ∃ a ∈ answers, a.ticket = r.1 ∧
    r.2 = (perform settings (fun _ => a.answer) a.call).mapError fun failure => ⟨failure.text⟩

theorem Reported.mono {settings : Settings} {answers : List Answered}
    {r : Ticket × Reply TransportFailure} (reported : Reported settings answers r)
    (more : List Answered) : Reported settings (answers ++ more) r := by
  obtain ⟨a, ha, came⟩ := reported
  exact ⟨a, List.mem_append_left _ ha, came⟩

namespace System

variable {settings : Settings} {variant : Variant} {answers : List Answered} {h : Panel.History}
  {s : System} {p : Panel} {e e' : Engine}

/-- The panel has gone through a run; each call that is queued, runs or was answered was issued in
it; and each reply that the panel has heard or is still to hear comes from an answer. -/
structure Sourced (settings : Settings) (variant : Variant) (answers : List Answered)
    (h : Panel.History) (s : System) : Prop where
  run : Panel.Run variant h s.panel
  ordered : ∀ t call, .call t call ∈ s.engine.orders → (t, call) ∈ h.issued
  running : ∀ r ∈ s.engine.running, (r.ticket, r.call) ∈ h.issued
  answered : ∀ a ∈ answers, (a.ticket, a.call) ∈ h.issued
  returned : ∀ c ∈ s.engine.completions, ∀ r ∈ c.message.reply?, Reported settings answers r
  heard : ∀ event ∈ h, ∀ r ∈ event.message.reply?, Reported settings answers r

theorem sourced_new (settings : Settings) (variant : Variant) :
    Sourced settings variant [] [] ⟨.new variant, {}⟩ where
  run := .new
  ordered _ _ hcall := by cases hcall
  running _ hr := by cases hr
  answered _ ha := by cases ha
  returned _ hc := by cases hc
  heard _ he := by cases he

theorem call_mem_ordersOf {es : List Effect} {t : Ticket} {call : Call}
    (hcall : .call t call ∈ ordersOf es) : (t, call) ∈ callsOf es := by
  obtain ⟨effect, heffect, order⟩ := List.mem_filterMap.mp hcall
  refine List.mem_filterMap.mpr ⟨effect, heffect, ?_⟩
  cases effect <;> simp_all [Effect.order?, Effect.call?]

/-- The panel is told something; a reply comes from an answer. -/
theorem Sourced.tell (i : Sourced settings variant answers h s) {m : Message}
    (reported : ∀ r ∈ m.reply?, Reported settings answers r) :
    Sourced settings variant answers (⟨s.panel, m, (s.panel.step m).effects⟩ :: h) (s.tell m) where
  run := (i.run.tell m).repainted
  ordered t call hcall := by
    rcases List.mem_append.mp hcall with queued | new
    · exact List.mem_append_right _ (i.ordered t call queued)
    · exact List.mem_append_left _ (call_mem_ordersOf new)
  running r hr := List.mem_append_right _ (i.running r hr)
  answered a ha := List.mem_append_right _ (i.answered a ha)
  returned := i.returned
  heard := List.forall_mem_cons.mpr ⟨reported, i.heard⟩

theorem Sourced.hear (i : Sourced settings variant answers h s) {ms : List Message}
    (reported : ∀ m ∈ ms, ∀ r ∈ m.reply?, Reported settings answers r) :
    Sourced settings variant answers (Panel.hear (h, s.panel) ms).1 (ms.foldl System.tell s) := by
  induction ms generalizing h s with
  | nil => exact i
  | cons m rest ih =>
    obtain ⟨first, others⟩ := List.forall_mem_cons.mp reported
    exact ih (i.tell first) others

/-- The engine makes a move: what runs was running or queued before. -/
theorem Sourced.advance (i : Sourced settings variant answers h ⟨p, e⟩)
    (orders : ∀ o ∈ e'.orders, o ∈ e.orders)
    (running : ∀ r ∈ e'.running,
      (∃ r₀ ∈ e.running, (r₀.ticket, r₀.call) = (r.ticket, r.call)) ∨
        .call r.ticket r.call ∈ e.orders)
    (returned : ∀ c ∈ e'.completions, ∀ r ∈ c.message.reply?, Reported settings answers r) :
    Sourced settings variant answers h ⟨p, e'⟩ where
  run := i.run
  ordered t call hcall := i.ordered t call (orders _ hcall)
  running r hr := by
    rcases running r hr with ⟨r₀, hr₀, same⟩ | queued
    · exact same ▸ i.running r₀ hr₀
    · exact i.ordered _ _ queued
  answered := i.answered
  returned := returned
  heard := i.heard

theorem Sourced.next (i : Sourced settings variant answers h ⟨p, e⟩) :
    Sourced settings variant answers h ⟨p, (e.next?.map (·.1)).getD e⟩ := by
  unfold Engine.next?
  cases queue : e.orders with
  | nil => exact i
  | cons o rest =>
    have later : ∀ o' ∈ rest, o' ∈ e.orders := fun o' h => queue ▸ List.mem_cons_of_mem _ h
    cases o with
    | call t call =>
      refine i.advance later ?_ i.returned
      intro r hr
      rcases List.mem_append.mp hr with old | new
      · exact .inl ⟨r, old, rfl⟩
      · rw [List.mem_singleton.mp new]
        exact .inr (queue ▸ List.mem_cons_self)
    | close generation =>
      change Sourced settings variant answers h
        ⟨p, (Engine.close { e with orders := rest } generation).1⟩
      unfold Engine.close
      split
      · refine i.advance later ?_ i.returned
        intro r hr
        obtain ⟨r₀, hr₀, rfl⟩ := List.mem_map.mp hr
        refine .inl ⟨r₀, hr₀, ?_⟩
        split <;> rfl
      · exact i.advance later (fun r hr => .inl ⟨r, hr, rfl⟩) i.returned

/-- A call that runs is answered. -/
theorem Sourced.finish (i : Sourced settings variant answers h ⟨p, e⟩) {r : Running}
    (hr : r ∈ e.running) (answer : Answer) :
    Sourced settings variant (answers ++ [⟨r.ticket, r.call, answer⟩]) h
      ⟨p, (e.finish r (perform settings (fun _ => answer) r.call)).1⟩ := by
  have more : Sourced settings variant (answers ++ [⟨r.ticket, r.call, answer⟩]) h ⟨p, e⟩ := by
    refine ⟨i.run, i.ordered, i.running, ?_, ?_, ?_⟩
    · exact List.forall_mem_append.mpr ⟨i.answered, List.forall_mem_singleton.mpr (i.running r hr)⟩
    · exact fun c hc r' hr' => (i.returned c hc r' hr').mono _
    · exact fun event he r' hr' => (i.heard event he r' hr').mono _
  have others : ∀ r' ∈ e.running.filter fun other => other.number != r.number,
      (∃ r₀ ∈ e.running, (r₀.ticket, r₀.call) = (r'.ticket, r'.call)) ∨
        .call r'.ticket r'.call ∈ e.orders :=
    fun r' hr' => .inl ⟨r', (List.mem_filter.mp hr').1, rfl⟩
  unfold Engine.finish
  dsimp only
  split
  · exact more.advance (fun _ ho => ho) others more.returned
  · refine more.advance (fun _ ho => ho) others (List.forall_mem_append.mpr ⟨more.returned, ?_⟩)
    refine List.forall_mem_singleton.mpr ?_
    rintro _ ⟨⟩
    exact ⟨_, List.mem_append_right _ (List.mem_singleton_self _), rfl, rfl⟩

/-- The host takes the next completion. -/
theorem Sourced.take (i : Sourced settings variant answers h ⟨p, e⟩) {c : Completion}
    (taken : e.take? = some (c, e')) :
    Sourced settings variant answers h ⟨p, e'⟩ ∧
      ∀ r ∈ c.message.reply?, Reported settings answers r := by
  obtain ⟨rest, completions, rfl⟩ := Engine.take?_eq_some taken
  have returned := i.returned
  rw [show (System.mk p e).engine = e from rfl, completions] at returned
  obtain ⟨first, others⟩ := List.forall_mem_cons.mp returned
  exact ⟨i.advance (fun _ ho => ho) (fun r hr => .inl ⟨r, hr, rfl⟩) others, first⟩

end System

/-! ## Sessions -/

namespace World

/-- The engine when it has made its own part of what happens. -/
def moved (settings : Settings) (w : World) : Happening → Engine
  | .ordered => (w.engine.next?.map (·.1)).getD w.engine
  | .answered number answer =>
    match w.engine.find? number with
    | some r => (w.engine.finish r (perform settings (fun _ => answer) r.call)).1
    | none => w.engine
  | .received => if w.ended then w.engine else (w.engine.take?.map (·.2)).getD w.engine
  | _ => w.engine

/-- Whatever happens, the engine makes its move, and then the panel hears what it is told. -/
theorem system_after (settings : Settings) (w : World) (x : Happening) :
    (w.after settings x).system =
      (w.heard x).foldl System.tell ⟨w.host.panel, w.moved settings x⟩ := by
  cases x with
  | read input => exact w.system_read input
  | ticked =>
    unfold after heard
    dsimp only
    split
    · rfl
    · exact w.system_follow (w.host.hears_dispatch .tick)
  | ordered => exact w.system_takeOrder
  | answered number answer =>
    unfold after moved
    dsimp only
    cases w.engine.find? number <;> rfl
  | received =>
    unfold after heard moved
    dsimp only
    split
    · rfl
    · exact w.system_receive

end World

namespace Session

variable {settings : Settings} {variant : Variant} {s : Session}

/-- The panel and the engine of a session are sourced, and each request that left carries a call of
the panel. -/
structure Sourced (settings : Settings) (variant : Variant) (s : Session) : Prop where
  system : System.Sourced settings variant s.answered s.history s.world.system
  posted : ∀ x ∈ s.posted, (x.ticket, x.call) ∈ s.history.issued ∧
    sent settings x.call = some x.request

theorem sourced_start (settings : Settings) (l : Program.Launch) (disk : Storage.Disk)
    (draws : Nat → Storage.Draws) : (start l disk draws).Sourced settings l.variant where
  system := by
    have silent : ∀ m ∈ [Message.opened l.session], ∀ r ∈ m.reply?, Reported settings [] r :=
      List.forall_mem_singleton.mpr fun r hr => by cases hr
    have opened := (System.sourced_new settings l.variant).hear silent
    have system : (start l disk draws).world.system =
        [Message.opened l.session].foldl System.tell ⟨.new l.variant, {}⟩ :=
      World.system_follow _ (Host.hears_start _ _)
    rw [system]
    exact opened
  posted _ hx := by cases hx

/-- What was issued stays issued. -/
theorem issued_hear {h : Panel.History} {p : Panel} {c : Ticket × Call} (ms : List Message)
    (issued : c ∈ h.issued) : c ∈ (Panel.hear (h, p) ms).1.issued := by
  induction ms generalizing h p with
  | nil => exact issued
  | cons m rest ih => exact ih (List.mem_append_right _ issued)

/-- Input brings no reply. -/
theorem silent_of_input (h : Host) (input : Terminal.Input) :
    ∀ m ∈ h.inputMessages input, m.reply? = none := by
  cases input with
  | line text =>
    refine List.forall_mem_append.mpr ⟨h.silent_of_line text, ?_⟩
    split
    · exact List.forall_mem_nil _
    · exact List.forall_mem_singleton.mpr rfl
  | ended => exact List.forall_mem_singleton.mpr rfl

/-- After the move of the engine all is sourced, and so is what the panel is then told. -/
theorem Sourced.moved (i : s.Sourced settings variant) (x : Happening) :
    System.Sourced settings variant (s.answered ++ s.world.answered x) s.history
        ⟨s.world.host.panel, s.world.moved settings x⟩ ∧
      ∀ m ∈ s.world.heard x, ∀ r ∈ m.reply?,
        Reported settings (s.answered ++ s.world.answered x) r := by
  have system := i.system
  have nothing (r : Ticket × Reply TransportFailure) (none : r ∈ (none : Option _)) :
      Reported settings s.answered r := by cases none
  cases x with
  | read input =>
    rw [show s.world.answered (.read input) = [] from rfl, List.append_nil]
    refine ⟨system, ?_⟩
    unfold World.heard
    intro m hm
    dsimp only at hm
    split at hm
    · cases hm
    · rw [silent_of_input _ _ m hm]
      exact nothing
  | ticked =>
    rw [show s.world.answered .ticked = [] from rfl, List.append_nil]
    refine ⟨system, ?_⟩
    unfold World.heard
    intro m hm
    dsimp only at hm
    split at hm
    · cases hm
    · rw [List.mem_singleton.mp hm]
      exact nothing
  | ordered =>
    rw [show s.world.answered .ordered = [] from rfl, List.append_nil]
    exact ⟨system.next, List.forall_mem_nil _⟩
  | answered number answer =>
    refine ⟨?_, List.forall_mem_nil _⟩
    unfold World.moved World.answered
    dsimp only
    cases found : s.world.engine.find? number with
    | none =>
      rw [Option.map_none, Option.toList_none, List.append_nil]
      exact system
    | some r => exact system.finish (List.mem_of_find?_eq_some found) answer
  | received =>
    rw [show s.world.answered .received = [] from rfl, List.append_nil]
    unfold World.moved World.heard
    dsimp only
    split
    · exact ⟨system, List.forall_mem_nil _⟩
    · cases taken : s.world.engine.take? with
      | none => exact ⟨system, List.forall_mem_nil _⟩
      | some next =>
        obtain ⟨rest, reported⟩ := system.take taken
        exact ⟨rest, List.forall_mem_singleton.mpr reported⟩

theorem Sourced.of_posted (i : s.Sourced settings variant) {x : Happening} {y : Posted}
    (hy : y ∈ s.world.posted settings x) :
    (y.ticket, y.call) ∈ s.history.issued ∧ sent settings y.call = some y.request := by
  unfold World.posted at hy
  split at hy
  · split at hy
    · rename_i t call rest queue
      obtain ⟨request, sent, rfl⟩ := Option.map_eq_some_iff.mp (Option.mem_toList.mp hy)
      have queued : Order.call t call ∈ s.world.system.engine.orders := by
        rw [show s.world.system.engine.orders = _ from queue]
        exact List.mem_cons_self
      exact ⟨i.system.ordered t call queued, sent⟩
    · cases hy
  · cases hy

theorem Sourced.step (i : s.Sourced settings variant) (x : Happening) :
    (s.step settings x).Sourced settings variant := by
  obtain ⟨moved, reported⟩ := i.moved x
  have heard := moved.hear reported
  rw [← World.system_after] at heard
  refine ⟨heard, List.forall_mem_append.mpr ⟨?_, ?_⟩⟩
  · exact fun y hy => (i.posted y hy).imp_left (issued_hear _)
  · exact fun y hy => (i.of_posted hy).imp_left (issued_hear _)

theorem Sourced.run (i : s.Sourced settings variant) (happenings : List Happening) :
    (s.run settings happenings).Sourced settings variant :=
  run_invariant i (fun _ x i => i.step x) happenings

end Session

/-! ## Payloads -/

namespace Session

/-- The call of `x` was issued in the step `e` of a session, which came after the steps
`earlier`. -/
def IssuedIn (s : Session) (x : Posted) (e : Panel.Event) (earlier : Panel.History) : Prop :=
  (x.ticket, x.call) ∈ e.calls ∧ ∃ later, s.history = later ++ e :: earlier

/-- The question `x` was put by a panel that showed the chart `id` of a session, and `reply` is what
the last load of that session had brought by then. -/
def AskedOf (s : Session) (x : Posted) (id : ChartId) (reply : Json.Draft) : Prop :=
  ∃ (e : Panel.Event) (earlier : Panel.History) (session : SessionId) (ctx : SessionContext),
    s.IssuedIn x e earlier ∧ e.before.session = some session ∧ e.before.selected = some id ∧
    ∃ a ∈ s.answered, a.call = .loadSession session ∧
      earlier.lastLoad session = some (a.ticket, .ok ctx) ∧ a.answer.draft? = some reply ∧
      context? reply = some ctx

/-- The delivery `x` was issued in the step that accepted the answer to a synthesis, and `reply` is
what that answer brought. -/
def DeliveredOn (s : Session) (x : Posted) (reply : Json.Draft) : Prop :=
  ∃ e earlier result, s.IssuedIn x e earlier ∧
    ∃ a ∈ s.answered, a.call.operation = .synthesize ∧ e.before.accepts a.ticket = true ∧
      e.message = .completed a.ticket (.synthesis result) ∧ a.answer.draft? = some reply

variable {settings : Settings} {variant : Variant} {s : Session} {x : Posted}

/-- What was posted was issued in a step. -/
theorem Sourced.issuedIn_of_posted (i : s.Sourced settings variant) (hx : x ∈ s.posted) :
    ∃ e earlier, s.IssuedIn x e earlier := by
  obtain ⟨e, he, called⟩ := List.mem_flatMap.mp (i.posted x hx).1
  obtain ⟨later, earlier, cut⟩ := List.append_of_mem he
  exact ⟨e, earlier, called, later, cut⟩

/-- A reply that the panel heard comes from the answer to a call. -/
theorem Sourced.answer_of_heard (i : s.Sourced settings variant) {e : Panel.Event}
    (he : e ∈ s.history) {t : Ticket} {reply : Reply TransportFailure}
    (message : e.message = .completed t reply) :
    ∃ a ∈ s.answered, a.ticket = t ∧ (a.ticket, a.call) ∈ s.history.issued ∧
      (perform settings (fun _ => a.answer) a.call).mapError (fun failure => ⟨failure.text⟩) =
        reply := by
  obtain ⟨a, ha, ticket, brought⟩ := i.system.heard e he (t, reply) (message ▸ rfl)
  exact ⟨a, ha, ticket, i.system.answered a ha, brought.symm⟩

/-- A question about a chart carries what the last load of its session brought for the chart. -/
theorem Sourced.asked (i : s.Sourced settings variant) (hx : x ∈ s.posted) {scope : Json.Value}
    (carries : x.call.scope? = some scope) :
    ∃ id reply data, s.AskedOf x id reply ∧ chartData? id reply = some data ∧
      data.value? = some scope ∧ x.call.Fits := by
  obtain ⟨prompt, turns, question⟩ := Call.scope?_eq_some carries
  obtain ⟨e, earlier, called, later, cut⟩ := i.issuedIn_of_posted hx
  have run := cut ▸ i.system.run
  obtain ⟨session, id, load, ctx, chart, shown, selected, last, found, payload⟩ :=
    run.scope_of_lastLoad (question ▸ called)
  obtain ⟨issued, e', he', message⟩ := Panel.of_lastLoad last
  have inside : ∀ event ∈ earlier, event ∈ s.history := fun _ h =>
    cut ▸ List.mem_append_right _ (List.mem_cons_of_mem _ h)
  obtain ⟨a, ha, rfl, issued', brought⟩ := i.answer_of_heard (inside e' he') message
  have load : a.call = .loadSession session := by
    obtain ⟨event, hevent, called⟩ := List.mem_flatMap.mp issued
    exact i.system.run.issued_unique issued'
      (List.mem_flatMap.mpr ⟨event, inside event hevent, called⟩)
  obtain ⟨reply, draft, context⟩ := draft?_of_context brought
  obtain ⟨data, there, kept⟩ := chartData?_of_context context found
  rw [payload] at kept
  have shallow : dataDepth ≤ Json.Reader.maxDepth - 1 := by decide
  have within := (Json.within_of_valueWithin? kept).mono shallow
  have value := Json.value?_of_valueWithin? kept
  refine ⟨id, reply, data, ?_, there, value, .of_scope? carries within⟩
  exact ⟨e, earlier, session, ctx, ⟨called, later, cut⟩, shown, selected, a, ha, load, last,
    draft, context⟩

/-- A delivery carries what the answer to the synthesis before it brought. -/
theorem Sourced.delivered (i : s.Sourced settings variant) (hx : x ∈ s.posted)
    {payload : Json.Value} (carries : x.call.payload? = some payload) :
    ∃ reply, s.DeliveredOn x reply ∧ reply.value? = some payload ∧ x.call.Fits := by
  have delivery := Call.payload?_eq_some carries
  obtain ⟨e, earlier, called, later, cut⟩ := i.issuedIn_of_posted hx
  have run := cut ▸ i.system.run
  obtain ⟨t, message, accepted⟩ := run.delivery_of_synthesis (delivery ▸ called)
  have he : e ∈ s.history := cut ▸ List.mem_append_right _ List.mem_cons_self
  obtain ⟨a, ha, rfl, -, brought⟩ := i.answer_of_heard he message
  have kind : a.call.operation = .synthesize := by
    rw [← operation_perform settings (fun _ => a.answer) a.call,
      ← Reply.operation_mapError fun failure => (⟨failure.text⟩ : TransportFailure), brought]
    rfl
  obtain ⟨reply, draft, kept⟩ := draft?_of_payload brought
  have value := Json.value?_of_valueWithin? kept
  refine ⟨reply, ?_, value, .of_payload? carries (Json.within_of_valueWithin? kept)⟩
  exact ⟨e, earlier, _, ⟨called, later, cut⟩, a, ha, kind, accepted, message, draft⟩

end Session

/-! ## The program -/

namespace Program

/-- A session that began is sourced, whatever happened in it. -/
theorem sourced_of_began {argv : List String} {env : Configuration.Environment}
    {disk : Storage.Disk} {draws : Nat → Storage.Draws} {happenings : List Happening}
    {destination : Config.LogDestination} {least : Log.Level} {s : Session}
    (began : run argv env disk draws happenings = .began destination least s) :
    ∃ settings variant, s.Sourced settings variant := by
  unfold run at began
  split at began
  · cases began
  · rename_i l _
    split at began
    · cases began
    · cases began
      exact ⟨_, _, (Session.sourced_start l.settings l _ _).run happenings⟩

/-- Payloads travel through the program unchanged, whatever else happens in between. The body
that is posted with a question about a chart has one field `table`, which means the value that
the last load of the open session brought with the first chart of the number selected, and
`null` if that chart has no data; and the body of a delivery means the value of the answer that
was accepted in the step that issued it. Bodies are taken as their receivers read them in the
texts that were posted; where the receiver reads numbers as the program does, it has the value
exactly if each number in it is kept. -/
theorem run_carries_payloads {argv : List String} {env : Configuration.Environment}
    {disk : Storage.Disk} {draws : Nat → Storage.Draws} {happenings : List Happening}
    {destination : Config.LogDestination} {least : Log.Level} {s : Session}
    (began : run argv env disk draws happenings = .began destination least s) {x : Posted}
    (hx : x ∈ s.posted) :
    (∀ scope, x.call.scope? = some scope →
      ∃ id reply data fields, ∃ table : Json.Document, s.AskedOf x id reply ∧
        chartData? id reply = some data ∧
        data.value? = some scope ∧ x.request.content? = some (.object fields) ∧
        Holds fields "table" (some table) ∧ table.Means scope) ∧
    ∀ payload, x.call.payload? = some payload →
      ∃ reply body, s.DeliveredOn x reply ∧ reply.value? = some payload ∧
        x.request.content? = some body ∧ body.Means payload := by
  obtain ⟨settings, variant, i⟩ := sourced_of_began began
  have sent := (i.posted x hx).2
  constructor
  · intro scope carries
    obtain ⟨id, reply, data, asked, there, value, fits⟩ := i.asked hx carries
    obtain ⟨prompt, turns, question⟩ := Call.scope?_eq_some carries
    have content := content?_of_sent sent fits
    obtain ⟨fields, body, table⟩ := holds_table settings prompt turns scope
    rw [question, body] at content
    exact ⟨id, reply, data, fields, scope.document, asked, there, value, content, table,
      Json.means_document value⟩
  · intro payload carries
    obtain ⟨reply, delivered, value, fits⟩ := i.delivered hx carries
    have content := content?_of_sent sent fits
    rw [Call.payload?_eq_some carries] at content
    exact ⟨reply, payload.document, delivered, value, content, Json.means_document value⟩

/-- A question about a chart and a delivery are posted in one session. -/
theorem run_carries_payloads_session :
    let config := "(endpoints:(discover:\"x:\",analyse:\"http://[::1]\"," ++
      "synthesize_selection:\"x:\",synthesize_prompt:\"http://[::1]\"," ++
      "deliver:\"http://[::1]\",report:\"x:\",session_info:\"http://[::1]\"),data_source:())"
    let answer (number : ℕ) (text : String) : Happening :=
      .answered number (.responded ⟨200, none, [.bytes (Text.Utf8.ofString text)]⟩)
    let course := run ["--variant", "analysis", "a"] (fun _ => none)
      ⟨[(["analyst.ron"], .file (Text.Utf8.ofString config))]⟩ (fun _ => {})
      [.ordered, answer 0 "\x7b\"charts\":[\x7b\"chart_id\":7,\"chart_data\":[9,1.5]\x7d]\x7d",
        .received, .read (.line "/scope 7"), .read (.line "why"), .ordered, answer 1 "null",
        .received, .read (.line "/table all"), .ordered, answer 2 "[true,null]", .received,
        .ordered]
    ∃ destination least s, course = .began destination least s ∧
      (∃ x ∈ s.posted, ∃ scope, x.call.scope? = some scope ∧
        ∃ fields, ∃ table : Json.Document, x.request.content? = some (.object fields) ∧
          Holds fields "table" (some table) ∧ table.Means scope) ∧
      ∃ x ∈ s.posted, ∃ payload, x.call.payload? = some payload ∧
        ∃ body, x.request.content? = some body ∧ body.Means payload := by
  intro config answer course
  have calls : course.posted.any (fun x => x.call.scope?.isSome) ∧
      course.posted.any fun x => x.call.payload?.isSome := by
    decide +kernel
  obtain ⟨asks, delivers⟩ := calls
  generalize began : course = c at asks delivers
  cases c with
  | ended ending logs disk => cases asks
  | began destination least s =>
    refine ⟨destination, least, s, rfl, ?_, ?_⟩
    · obtain ⟨x, hx, asks⟩ := List.any_eq_true.mp asks
      obtain ⟨scope, carries⟩ := Option.isSome_iff_exists.mp asks
      obtain ⟨id, reply, data, fields, table, -, -, -, content, one, meant⟩ :=
        (run_carries_payloads began hx).1 scope carries
      exact ⟨x, hx, scope, carries, fields, table, content, one, meant⟩
    · obtain ⟨x, hx, delivers⟩ := List.any_eq_true.mp delivers
      obtain ⟨payload, carries⟩ := Option.isSome_iff_exists.mp delivers
      obtain ⟨reply, body, -, -, content, meant⟩ :=
        (run_carries_payloads began hx).2 payload carries
      exact ⟨x, hx, payload, carries, body, content, meant⟩

/-- A delivery whose number is not read anew as it was: the answer `2.5e28` is read one unit higher,
and the number that is posted for it is read as `2.5e28`. -/
theorem delivery_read_anew_differs :
    let config := "(endpoints:(discover:\"x:\",analyse:\"x:\",synthesize_selection:\"x:\"," ++
      "synthesize_prompt:\"http://[::1]\",deliver:\"http://[::1]\",report:\"x:\"," ++
      "session_info:\"x:\"),data_source:())"
    let course := run ["--variant", "analysis", "a"] (fun _ => none)
      ⟨[(["analyst.ron"], .file (Text.Utf8.ofString config))]⟩ (fun _ => {})
      [.read (.line "/table all"), .ordered, .ordered,
        .answered 1 (.responded ⟨200, none, [.bytes (Text.Utf8.ofString "2.5e28")]⟩), .received,
        .received, .ordered]
    ∃ destination least s, course = .began destination least s ∧ ∃ x ∈ s.posted,
      ∃ payload reply body, x.call.payload? = some payload ∧ s.DeliveredOn x reply ∧
        reply.value? = some payload ∧ x.request.content? = some body ∧
        body.value? ≠ some payload := by
  intro config course
  have differs : course.posted.any fun x => x.call.payload?.isSome ∧
      (x.request.content?.bind Json.Document.value?).map Json.Value.text ≠
        x.call.payload?.map Json.Value.text := by
    decide +kernel
  generalize began : course = c at differs
  cases c with
  | ended ending logs disk => cases differs
  | began destination least s =>
    obtain ⟨x, hx, differs⟩ := List.any_eq_true.mp differs
    obtain ⟨delivers, other⟩ := of_decide_eq_true differs
    obtain ⟨payload, carries⟩ := Option.isSome_iff_exists.mp delivers
    obtain ⟨settings, variant, i⟩ := sourced_of_began began
    obtain ⟨reply, delivered, value, fits⟩ := i.delivered hx carries
    have content : x.request.content? = some payload.document := by
      rw [content?_of_sent (i.posted x hx).2 fits, Call.payload?_eq_some carries]
      rfl
    refine ⟨destination, least, s, rfl, x, hx, payload, reply, _, carries, delivered, value,
      content, fun read => other ?_⟩
    rw [content, Option.bind_some, read, carries]

end Program

end AnalysisPanel
