import AnalysisPanel.Proofs.Panel.Mirror
import AnalysisPanel.Proofs.Program.Semantics
import AnalysisPanel.Proofs.Terminal.Positions

/-! What is printed can be typed. The number that a metric or a chart is printed with is the one by
which a line names it: what the printer writes, the reader of lines takes back, and the panel looks
up at the same place. -/

namespace AnalysisPanel

open Text Rendering

/-! ## Numbers that are printed -/

namespace Rendering

variable {i j : Nat} {c d : Candidate} {items : List Candidate} {v : View} {id : ChartId}

/-- A checklist is printed with a metric under a number. -/
def Lists (items : List Candidate) (number : Nat) (c : Candidate) : Prop :=
  ∃ index, number = index + 1 ∧ candidateLine index c ∈ candidateLines items

end Rendering

/-! ## Lines that are typed -/

namespace Command

/-- The line that approves the metric of a number, or takes the approval back. -/
def marking (approved : Bool) (number : Nat) : String :=
  (if approved then "/check " else "/uncheck ") ++ toString number

/-- The line that selects the chart of a number. -/
def scoping (id : ChartId) : String := "/scope " ++ toString id

theorem parse_marking (approved : Bool) (number : Nat) :
    parse (marking approved number) =
      ((position (Nat.toDigits 10 number)).map (check · approved)).map some := by
  cases approved with
  | true =>
    have typed : (marking true number).toList =
        '/' :: ("check".toList ++ ' ' :: Nat.toDigits 10 number) := by simp [marking]
    exact parse_word (by simp [isBlank]) (isWord_toDigits _) typed
  | false =>
    have typed : (marking false number).toList =
        '/' :: ("uncheck".toList ++ ' ' :: Nat.toDigits 10 number) := by simp [marking]
    exact parse_word (by simp [isBlank]) (isWord_toDigits _) typed

theorem parse_scoping (id : ChartId) : parse (scoping id) = .ok (some (.chart id)) := by
  have typed : (scoping id).toList = '/' :: ("scope".toList ++ ' ' :: (toString id).toList) := by
    simp [scoping]
  have read : named "scope" (toString id).toList = (chartId (toString id).toList).map chart := rfl
  rw [parse_word (by simp [isBlank]) (isWord_int64 id) typed, read, chartId, int64?_toString]
  rfl

end Command

/-! ## Metrics marked anew -/

namespace Panel

end Panel

namespace Host

variable {h : Host} {line : String} {m : Message}

/-- A panel with three charts, two of them of one number, the link of a table and a checklist. -/
def suggesting : Host :=
  ((Host.new .metricDiscovery).dispatchAll [.opened "a",
    .completed ⟨0, 0⟩ (.session (.ok
      ⟨"sales", [⟨1, "by month", .null⟩, ⟨-2, "by region", .null⟩, ⟨-2, "by store", .null⟩]⟩)),
    .draftChanged "t", .tableSubmitted, .completed ⟨0, 1⟩ (.synthesis (.ok .null)),
    .completed ⟨0, 2⟩ (.delivery (.ok "link")), .draftChanged "why", .promptSubmitted,
    .completed ⟨0, 3⟩ (.discovery (.ok (.candidates ["x", "y"])))]).1

end Host

end AnalysisPanel
