import AnalysisPanel.Proofs.Program.Semantics

/-! Repaints. Whatever changes a panel asks for a repaint, and the host takes the request up after
every message; so between two messages nothing is due, and the host knows whether the context was
loading. -/

namespace AnalysisPanel

open Relation Rendering

/-! ## Panels that ask for a repaint -/

namespace Panel

variable {p q : Panel} {m : Message} {es : List Effect}

theorem setDraft_flagged (p : Panel) (text : String) :
    p.setDraft text = p ∨ (p.setDraft text).dirty = true := by
  unfold setDraft
  split
  · exact .inl rfl
  · exact .inr rfl

/-- A step leaves the panel as it was, or asks for a repaint. -/
theorem Rule.flagged (step : Rule p m q es) : q = p ∨ q.dirty = true := by
  cases step with
  | ignored _ _ => exact .inl rfl
  | refused _ _ _ => exact .inl rfl
  | linkOpened _ _ _ => exact .inl rfl
  | opened _ _ o => cases o <;> exact .inr rfl
  | switched _ _ _ o => cases o <;> exact .inr rfl
  | drafted text _ => exact p.setDraft_flagged text
  | completed _ _ c => cases c <;> exact .inr rfl
  | _ => exact .inr rfl

/-- No step takes a request for a repaint back. -/
theorem Rule.dirty_of_dirty (step : Rule p m q es) (dirty : p.dirty = true) : q.dirty = true := by
  rcases step.flagged with rfl | flagged
  · exact dirty
  · exact flagged

end Panel

/-! ## Hosts between two messages -/

namespace Host

variable {variant : Variant} {h : Host} {m : Message}

/-- The hosts that come of a new one by telling it one thing after the other. -/
inductive Told (variant : Variant) : Host → Prop where
  | new : Told variant (.new variant)
  | dispatch {h : Host} (m : Message) : Told variant h → Told variant (h.dispatch m).1

theorem Told.dispatchAll (t : Told variant h) (ms : List Message) :
    Told variant (h.dispatchAll ms).1 := by
  induction ms generalizing h with
  | nil => exact t
  | cons m rest ih => exact ih (t.dispatch m)

theorem Told.readLine (t : Told variant h) (line : String) :
    Told variant (h.readLine line).2.1 := by
  rw [host_readLine]
  exact t.dispatchAll _

/-- Nothing is due, and it is known whether the context was loading. -/
structure Painted (h : Host) : Prop where
  clean : h.panel.dirty = false
  loading : h.wasLoading = h.panel.view.loadingContext

/-- A host that was painted and whose panel asks for no repaint is painted still. -/
theorem painted_repaint (known : h.panel.dirty = false → h.Painted) : h.repaint.1.Painted := by
  unfold repaint
  dsimp only
  split
  · exact ⟨rfl, rfl⟩
  · rename_i clean
    have painted := known (Bool.eq_false_iff.mpr clean)
    exact ⟨rfl, painted.loading⟩

theorem Painted.dispatch (i : h.Painted) (m : Message) : (h.dispatch m).1.Painted := by
  refine painted_repaint fun clean => ?_
  have step := Panel.step_allowed h.panel m
  rcases step.flagged with same | flagged
  · rw [same]
    exact ⟨i.clean, i.loading⟩
  · exact absurd (flagged.symm.trans clean) nofun

theorem Told.painted (t : Told variant h) : h.Painted := by
  induction t with
  | new => exact ⟨rfl, rfl⟩
  | dispatch m _ ih => exact ih.dispatch m

/-- A view that has changed was asked to be painted anew. -/
theorem Painted.view_dispatch (i : h.Painted) (m : Message) :
    (h.dispatch m).1.panel.view = h.panel.view ∨
      (h.panel.step m).panel.consumeDirty.1 = true := by
  have step := Panel.step_allowed h.panel m
  rcases step.flagged with same | flagged
  · refine .inl ?_
    have told : (h.dispatch m).1.panel = (h.panel.step m).panel.consumeDirty.2 := panel_repaint _
    have clean : h.panel.consumeDirty.2 = h.panel := by rw [Panel.consumeDirty, ← i.clean]
    rw [told, same, clean]
  · exact .inr flagged

end Host

/-! ## The host of a program -/

namespace World

variable {variant : Variant} {w w' : World}

theorem host_follow (w : World) (step : Host × List Act) : (w.follow step).host = step.1 :=
  (w.adds_follow step).host

theorem told_stop (t : w.host.Told variant) : w.stop.host.Told variant := by
  rw [stop, host_follow]
  exact t.dispatch .closed

theorem told_read (t : w.host.Told variant) (input : Terminal.Input) :
    (w.read input).host.Told variant := by
  unfold read
  split
  · exact t
  · cases input with
    | ended => exact told_stop t
    | line text =>
      have read : (w.follow (w.host.readLine text).2).host.Told variant := by
        rw [host_follow]
        exact t.readLine text
      dsimp only [readLine]
      split
      · exact read
      · exact told_stop read

/-- Whatever happens in a world, its host is told something, or nothing at all. -/
theorem Step.told_host (step : Step w w') (t : w.host.Told variant) : w'.host.Told variant := by
  cases step with
  | told m _ =>
    rw [host_follow]
    exact t.dispatch m
  | started session =>
    rw [start, host_follow]
    exact t.dispatch (.opened session)
  | read input => exact told_read t input
  | stopped => exact told_stop t
  | received =>
    unfold receive
    split
    · rw [host_follow]
      exact t.dispatch _
    · exact t
  | _ => exact t

theorem Reachable.told_host (r : Reachable variant w) : w.host.Told variant := by
  obtain ⟨w₀, host, -, steps⟩ := r
  induction steps with
  | refl =>
    rw [host]
    exact .new
  | tail _ step ih => exact step.told_host ih

end World

namespace Host

/-- Whatever a panel is told, it stays as it was or asks for a repaint, and a repaint that was asked
for is due still. So after every message that a host tells its panel no repaint is due, the host
knows whether the context is loading, and if the view is not what it was a repaint was asked for.
All that happens in a world is that its host tells its panel one message after the other. -/
theorem no_repaint_lost :
    (∀ (p : Panel) (m : Message),
      ((p.step m).panel = p ∨ (p.step m).panel.dirty = true) ∧
        (p.dirty = true → (p.step m).panel.dirty = true)) ∧
    (∀ variant (h : Host), h.Told variant → ∀ m,
      (h.dispatch m).1.panel.dirty = false ∧
        (h.dispatch m).1.wasLoading = (h.dispatch m).1.panel.view.loadingContext ∧
        ((h.dispatch m).1.panel.view = h.panel.view ∨
          (h.panel.step m).panel.consumeDirty.1 = true)) ∧
    ∀ variant (w : World), w.Reachable variant → w.host.Told variant := by
  refine ⟨fun p m => ?_, fun variant h t m => ?_, fun variant w r => r.told_host⟩
  · have step := p.step_allowed m
    exact ⟨step.flagged, step.dirty_of_dirty⟩
  · have painted := t.painted.dispatch m
    exact ⟨painted.clean, painted.loading, t.painted.view_dispatch m⟩

/-- A context arrives while the user types: the summary shows only because a repaint is
asked for. -/
theorem no_repaint_lost_loading :
    let h := ((Host.new .metricDiscovery).dispatchAll [.opened "a", .draftChanged "why"]).1
    let load := Message.completed ⟨0, 0⟩ (.session (.ok ⟨"sales", []⟩))
    h.Told .metricDiscovery ∧ h.wasLoading = true ∧ (h.dispatch load).1.wasLoading = false ∧
      (h.dispatch load).1.panel.dirty = false ∧
      (h.panel.step load).panel.consumeDirty.1 = true := by
  intro h load
  have told : h.Told .metricDiscovery := Told.new.dispatchAll _
  obtain ⟨clean, loading, shown⟩ := no_repaint_lost.2.1 .metricDiscovery h told load
  have changed : (h.dispatch load).1.panel.view ≠ h.panel.view := by decide
  exact ⟨told, by decide, loading, clean, shown.resolve_left changed⟩

end Host

end AnalysisPanel
