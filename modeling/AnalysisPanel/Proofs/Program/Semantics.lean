import Mathlib.Logic.Relation
import AnalysisPanel.Proofs.Panel.Tickets
import AnalysisPanel.Proofs.Program.Acts

/-! The program as a panel beside its engine. What the host prints, logs and saves has no part in
what the panel is told; the panel is told what the user does and what the engine brings back. -/

namespace AnalysisPanel

open Relation Service

/-! ## Panel and engine -/

/-- The order that an effect puts in the queue of the engine. -/
def Effect.order? : Effect → Option Order
  | .issue t call => some (.call t call)
  | .closeSession generation => some (.close generation)
  | _ => none

/-- The orders that effects put in the queue, in turn. -/
def ordersOf (es : List Effect) : List Order := es.filterMap Effect.order?

/-- What the panel hears of a completion. -/
def Service.Completion.message (c : Completion) : Message :=
  .completed c.ticket (c.reply.mapError fun failure => ⟨failure.text⟩)

/-- A panel and its engine. -/
structure System where
  panel : Panel
  engine : Engine := {}

namespace System

/-- The panel is told something and painted, and its orders go to the engine. -/
def tell (s : System) (m : Message) : System where
  panel := (s.panel.step m).panel.consumeDirty.2
  engine := s.engine.submitAll (ordersOf (s.panel.step m).effects)

/-- The user acts at any time, the engine takes its orders in turn, calls finish in any order with
any reply of their kind, and completions are received in turn. -/
inductive Step : System → System → Prop where
  | told {s} (m : Message) : m.reply? = none → Step s (s.tell m)
  | ordered {s e notes} : s.engine.next? = some (e, notes) → Step s { s with engine := e }
  | finished {s r reply} : r ∈ s.engine.running → reply.operation = r.call.operation →
      Step s { s with engine := (s.engine.finish r reply).1 }
  | received {s c e} : s.engine.take? = some (c, e) →
      Step s (System.tell { s with engine := e } c.message)

/-- A user tells the panel one thing after the other. -/
theorem steps_tell (s : System) {ms : List Message} (silent : ∀ m ∈ ms, m.reply? = none) :
    ReflTransGen Step s (ms.foldl tell s) := by
  induction ms generalizing s with
  | nil => exact .refl
  | cons m rest ih =>
    have first : Step s (s.tell m) := .told m (silent m List.mem_cons_self)
    exact .head first (ih _ fun m hm => silent m (List.mem_cons_of_mem _ hm))

/-- Working off the queue is taking its orders in turn. -/
theorem steps_settle (s : System) : ReflTransGen Step s { s with engine := s.engine.settle.1 } := by
  have off (os : List Order) : ∀ e : Engine, e.orders = os →
      ReflTransGen Step ⟨s.panel, e⟩
        ⟨s.panel, (Engine.executeAll { e with orders := [] } os).1⟩ := by
    induction os with
    | nil =>
      intro e empty
      rw [Engine.executeAll, ← empty]
    | cons o rest ih =>
      intro e queue
      have next : e.next? = some (Engine.execute { e with orders := rest } o) := by
        rw [Engine.next?, queue]
      have first : Step ⟨s.panel, e⟩ ⟨s.panel, (Engine.execute { e with orders := rest } o).1⟩ :=
        .ordered next
      refine .head first ?_
      have later := ih _ (congrArg Engine.orders (e.execute_orders rest o))
      rw [e.execute_orders rest o] at later ⊢
      have both : (Engine.executeAll { e with orders := [] } (o :: rest)).1 =
          (Engine.executeAll (Engine.execute { e with orders := [] } o).1 rest).1 := rfl
      rw [both, e.execute_orders [] o]
      exact later
  exact off s.engine.orders s.engine rfl

end System

/-! ## Acts of the host -/

namespace Host

/-- The acts of an effect put its order in the queue and no other. -/
theorem orders_effectActs (position : Nat) (effect : Effect) :
    (effectActs position effect).filterMap Act.order? = effect.order?.toList := by
  cases effect with
  | issue t call => cases call <;> rfl
  | candidatesChanged items =>
    simp only [effectActs]
    split
    · rfl
    · rw [List.filterMap_map]
      exact List.filterMap_eq_nil_iff.mpr fun _ _ => rfl
  | _ => rfl

theorem orders_actsFrom (shown : Nat) (es : List Effect) :
    (actsFrom shown es).filterMap Act.order? = ordersOf es := by
  induction es generalizing shown with
  | nil => rfl
  | cons effect rest ih =>
    rw [actsFrom, List.filterMap_append, orders_effectActs, ih, ordersOf, ordersOf,
      List.filterMap_cons]
    cases effect.order? <;> rfl

theorem orders_map_print (lines : List String) :
    (lines.map Act.print).filterMap Act.order? = [] := by
  rw [List.filterMap_map]
  exact List.filterMap_eq_nil_iff.mpr fun _ _ => rfl

theorem orders_batch (p : Panel) (es : List Effect) :
    (batch p es).filterMap Act.order? = ordersOf es := by
  rw [batch, List.filterMap_append, orders_actsFrom]
  split
  · cases Rendering.statusLine p.stage <;> exact List.append_nil _
  · exact List.append_nil _

theorem panel_repaint (h : Host) : h.repaint.1.panel = h.panel.consumeDirty.2 := by
  unfold repaint
  dsimp only
  split <;> rfl

theorem orders_repaint (h : Host) : h.repaint.2.filterMap Act.order? = [] := by
  unfold repaint
  dsimp only
  split
  · split
    · exact orders_map_print _
    · rfl
  · rfl

/-! ## What a host tells its panel -/

/-- A host tells its panel messages in turn, and gives the engine the orders that come of them. -/
def Hears (h : Host) (ms : List Message) (step : Host × List Act) : Prop :=
  ∀ e : Engine,
    ms.foldl System.tell ⟨h.panel, e⟩ =
      ⟨step.1.panel, e.submitAll (step.2.filterMap Act.order?)⟩

theorem hears_nothing (h : Host) {acts : List Act} (idle : acts.filterMap Act.order? = []) :
    h.Hears [] (h, acts) := by
  intro e
  rw [idle]
  simp [Engine.submitAll]

theorem Hears.append {h h₁ h₂ : Host} {ms ms' : List Message} {acts acts' : List Act}
    (first : h.Hears ms (h₁, acts)) (second : h₁.Hears ms' (h₂, acts')) :
    h.Hears (ms ++ ms') (h₂, acts ++ acts') := by
  intro e
  rw [List.foldl_append, first, second]
  simp [Engine.submitAll]

/-- Acts that order nothing may stand before and after what a host does. -/
theorem Hears.around {h h₁ : Host} {ms : List Message} {acts : List Act}
    (told : h.Hears ms (h₁, acts)) (before after : List Act)
    (idle : before.filterMap Act.order? = []) (idle' : after.filterMap Act.order? = []) :
    h.Hears ms (h₁, before ++ acts ++ after) := by
  intro e
  rw [told]
  simp [idle, idle']

theorem hears_dispatch (h : Host) (m : Message) : h.Hears [m] (h.dispatch m) := by
  intro e
  have notes : ((h.panel.step m).notes.map fun note => Act.log note.level note.message).filterMap
      Act.order? = [] := by
    rw [List.filterMap_map]
    exact List.filterMap_eq_nil_iff.mpr fun _ _ => rfl
  simp only [dispatch, List.filterMap_append, notes, orders_batch, orders_repaint,
    panel_repaint, List.nil_append, List.append_nil]
  rfl

theorem hears_dispatchAll (h : Host) (ms : List Message) : h.Hears ms (h.dispatchAll ms) := by
  induction ms generalizing h with
  | nil => exact h.hears_nothing rfl
  | cons m rest ih => exact (h.hears_dispatch m).append (ih _)

/-- No command brings a reply. -/
theorem silent_of_command (latest : Option Nat) (command : Command) :
    ∀ m ∈ command.messages latest, m.reply? = none := by
  intro m hm
  cases m with
  | completed t reply =>
    cases command with
    | openLink position =>
      simp only [Command.messages] at hm
      split at hm <;> simp at hm
    | sample index =>
      simp only [Command.messages] at hm
      split at hm <;> simp at hm
    | _ => simp [Command.messages] at hm
  | _ => rfl

theorem hears_carryOut (h : Host) (command : Command) :
    h.Hears (command.messages (Rendering.latestLink h.panel.view)) (h.carryOut command) := by
  have told := h.hears_dispatchAll (command.messages (Rendering.latestLink h.panel.view))
  cases command with
  | quit => exact h.hears_nothing rfl
  | help => exact h.hears_nothing rfl
  | present => exact h.hears_nothing (orders_map_print _)
  | sample index =>
    exact (h.hears_dispatchAll ((Command.sample index).messages none)).around [] _ rfl rfl
  | _ => exact told

/-- What a line of input has the host tell its panel. -/
def lineMessages (h : Host) (line : String) : List Message :=
  match Command.parse line with
  | .ok (some command) => command.messages (Rendering.latestLink h.panel.view)
  | _ => []

/-- Whatever the user types, the panel is told only what a user may tell it. -/
theorem silent_of_line (h : Host) (line : String) :
    ∀ m ∈ h.lineMessages line, m.reply? = none := by
  unfold lineMessages
  split
  · exact silent_of_command _ _
  · simp

theorem hears_readLine (h : Host) (line : String) :
    h.Hears (h.lineMessages line) (h.readLine line).2 := by
  unfold readLine lineMessages
  cases Command.parse line with
  | error e => exact h.hears_nothing rfl
  | ok found =>
    cases found with
    | none => exact h.hears_nothing rfl
    | some command =>
      cases command with
      | quit => exact h.hears_nothing rfl
      | _ => exact h.hears_carryOut _

theorem host_carryOut (h : Host) (command : Command) :
    (h.carryOut command).1 =
      (h.dispatchAll (command.messages (Rendering.latestLink h.panel.view))).1 := by
  cases command <;> rfl

/-- A line does to a host what its messages do. -/
theorem host_readLine (h : Host) (line : String) :
    (h.readLine line).2.1 = (h.dispatchAll (h.lineMessages line)).1 := by
  unfold readLine lineMessages
  cases Command.parse line with
  | error e => rfl
  | ok found =>
    cases found with
    | none => rfl
    | some command =>
      cases command with
      | quit => rfl
      | _ => exact h.host_carryOut _

theorem hears_start (h : Host) (session : SessionId) :
    h.Hears [.opened session] (h.start session) :=
  (h.hears_dispatch (.opened session)).around [.log .info "panel opened"] _ rfl rfl

theorem hears_stop (h : Host) : h.Hears [.closed] h.stop :=
  (h.hears_dispatch .closed).around [] _ rfl rfl

theorem hears_receive (h : Host) (c : Completion) : h.Hears [c.message] (h.receive c) :=
  h.hears_dispatch c.message

end Host

/-! ## The world of a host -/

namespace World

/-- The panel and the engine in a world. -/
def system (w : World) : System := ⟨w.host.panel, w.engine⟩

/-- Of all acts only orders reach the engine, and none touches the host. -/
theorem system_follow_eq (w : World) (step : Host × List Act) :
    (w.follow step).system =
      ⟨step.1.panel, w.engine.submitAll (step.2.filterMap Act.order?)⟩ := by
  have adds := w.adds_follow step
  rw [system, adds.host, adds.engine, performed, Act.orders_performed]

/-- A world follows its host: the panel has heard what the host told it. -/
theorem system_follow (w : World) {ms : List Message} {step : Host × List Act}
    (told : w.host.Hears ms step) : (w.follow step).system = ms.foldl System.tell w.system := by
  rw [system_follow_eq, system, told]

/-- What may happen in a world. The user may tell the panel anything at any time, and type any
line; the engine takes its orders in turn, calls finish in any order with any reply of their kind,
and the host receives completions in turn. -/
inductive Step : World → World → Prop where
  | told {w} (m : Message) : m.reply? = none → Step w (w.follow (w.host.dispatch m))
  | started {w} (session : SessionId) : Step w (w.start session)
  | read {w} (input : Terminal.Input) : Step w (w.read input)
  | stopped {w} : Step w w.stop
  | ordered {w e notes} : w.engine.next? = some (e, notes) →
      Step w { w with engine := e, engineLogs := w.engineLogs ++ notes.map (·.line) }
  | settled {w} : Step w w.settle
  | finished {w r reply} : r ∈ w.engine.running → reply.operation = r.call.operation →
      Step w (w.finish r reply)
  | received {w} : Step w w.receive

/-- A host that tells its panel what a user may tell it takes steps of the user. -/
theorem steps_follow (w : World) {ms : List Message} {step : Host × List Act}
    (silent : ∀ m ∈ ms, m.reply? = none) (told : w.host.Hears ms step) :
    ReflTransGen System.Step w.system (w.follow step).system := by
  rw [w.system_follow told]
  exact w.system.steps_tell silent

theorem steps_start (w : World) (session : SessionId) :
    ReflTransGen System.Step w.system (w.start session).system :=
  steps_follow { w with label := session } (by simp [Message.reply?]) (w.host.hears_start session)

theorem steps_stop (w : World) : ReflTransGen System.Step w.system w.stop.system :=
  w.steps_follow (by simp [Message.reply?]) w.host.hears_stop

theorem steps_readLine (w : World) (line : String) :
    ReflTransGen System.Step w.system (w.readLine line).system := by
  have first := w.steps_follow (w.host.silent_of_line line) (w.host.hears_readLine line)
  unfold readLine
  dsimp only
  split
  · exact first
  · exact first.trans (steps_stop _)

theorem steps_read (w : World) (input : Terminal.Input) :
    ReflTransGen System.Step w.system (w.read input).system := by
  unfold read
  split
  · exact .refl
  · split
    · exact w.steps_readLine _
    · exact w.steps_stop

/-- Whatever happens in a world is a course of steps of its panel and engine. -/
theorem Step.system {w w' : World} (step : Step w w') :
    ReflTransGen System.Step w.system w'.system := by
  cases step with
  | told m silent =>
    rw [w.system_follow (w.host.hears_dispatch m)]
    exact .single (.told m silent)
  | started session => exact w.steps_start session
  | read input => exact w.steps_read input
  | stopped => exact w.steps_stop
  | ordered next => exact .single (.ordered next)
  | settled => exact w.system.steps_settle
  | finished running kind => exact .single (.finished running kind)
  | received =>
    unfold receive
    split
    · rename_i c engine taken
      rw [system_follow { w with engine } (w.host.hears_receive c)]
      exact .single (.received taken)
    · exact .refl

/-- The worlds that a new host may come to. -/
def Reachable (variant : Variant) (w : World) : Prop :=
  ∃ w₀ : World, w₀.host = .new variant ∧ w₀.engine = {} ∧ ReflTransGen Step w₀ w

end World

end AnalysisPanel
