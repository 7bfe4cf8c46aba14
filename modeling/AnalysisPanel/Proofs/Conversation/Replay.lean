import Mathlib.Data.List.DropRight
import AnalysisPanel.Proofs.Conversation.Exchanges

/-! Transcripts and all that was ever appended to them. Whatever was done in between, only selection
prompts are missing, and only those that a later drop has taken away. -/

namespace AnalysisPanel.Transcript

/-! ## Edits -/

/-- What can be done to a transcript. -/
inductive Edit where
  | append (e : Entry)
  | dropPending
  deriving DecidableEq, Inhabited

/-- What an edit appends. -/
def Edit.entry? : Edit → Option Entry
  | .append e => some e
  | .dropPending => none

/-- A transcript after an edit. -/
def edit (t : Transcript) : Edit → Transcript
  | .append e => t.append e
  | .dropPending => t.dropPending

/-- A transcript after edits, one after the other. -/
def editAll (t : Transcript) (edits : List Edit) : Transcript := edits.foldl edit t

/-- Everything that edits append, in order. -/
def appended (edits : List Edit) : List Entry := edits.filterMap Edit.entry?

/-- The edits after the last drop. -/
def sinceDrop (edits : List Edit) : List Edit := edits.rtakeWhile (· != .dropPending)

/-- The edits up to the last drop, itself included. -/
def untilDrop (edits : List Edit) : List Edit := edits.rdropWhile (· != .dropPending)

variable (t : Transcript) (edits : List Edit) (e : Entry)

theorem editAll_concat (x : Edit) : t.editAll (edits ++ [x]) = (t.editAll edits).edit x :=
  List.foldl_concat ..

@[simp] theorem appended_append (edits' : List Edit) :
    appended (edits ++ edits') = appended edits ++ appended edits' :=
  List.filterMap_append ..

theorem untilDrop_append_sinceDrop : untilDrop edits ++ sinceDrop edits = edits :=
  List.rdropWhile_append_rtakeWhile ..

@[simp] theorem sinceDrop_append :
    sinceDrop (edits ++ [.append e]) = sinceDrop edits ++ [.append e] :=
  List.rtakeWhile_concat_pos _ _ _ rfl

@[simp] theorem untilDrop_append : untilDrop (edits ++ [.append e]) = untilDrop edits :=
  List.rdropWhile_concat_pos _ _ _ rfl

@[simp] theorem sinceDrop_dropPending : sinceDrop (edits ++ [.dropPending]) = [] :=
  List.rtakeWhile_concat_neg _ _ _ (by decide)

@[simp] theorem untilDrop_dropPending :
    untilDrop (edits ++ [.dropPending]) = edits ++ [.dropPending] :=
  List.rdropWhile_concat_neg _ _ _ (by decide)

/-! ## What is left of everything -/

theorem dropPending_idem : t.dropPending.dropPending = t.dropPending :=
  dropPending_of_not_hasPending t.hasPending_dropPending

/-- A drop takes away what the drops before it would have. -/
theorem entries_editAll :
    (editAll {} edits).entries =
      (appended (untilDrop edits)).filter (fun e => !e.isSelectionPrompt) ++
        appended (sinceDrop edits) := by
  induction edits using List.reverseRecOn with
  | nil => rfl
  | append_singleton edits x ih =>
    rw [editAll_concat]
    cases x with
    | append e =>
      rw [edit, entries_append, ih, untilDrop_append, sinceDrop_append, appended_append,
        List.append_assoc]
      rfl
    | dropPending =>
      have all : appended (untilDrop edits) ++ appended (sinceDrop edits) = appended edits := by
        rw [← appended_append, untilDrop_append_sinceDrop]
      have twice (es : List Entry) : (es.filter fun e => !e.isSelectionPrompt).filter
          (fun e => !e.isSelectionPrompt) = es.filter fun e => !e.isSelectionPrompt := by
        simp only [List.filter_filter, Bool.and_self]
      rw [edit, entries_dropPending, ih, untilDrop_dropPending, sinceDrop_dropPending,
        List.filter_append, twice, ← List.filter_append, all, appended_append]
      exact ((List.append_nil _).trans (congrArg _ (List.append_nil _))).symm

theorem mem_appended : e ∈ appended edits ↔ .append e ∈ edits := by
  rw [appended, List.mem_filterMap]
  constructor
  · rintro ⟨x, hx, entry⟩
    cases x with
    | append e' =>
      obtain rfl : e' = e := Option.some.inj entry
      exact hx
    | dropPending => cases entry
  · intro he
    exact ⟨_, he, rfl⟩

theorem hasPending_iff_mem : t.hasPending = true ↔ .selectionPrompt ∈ t.entries := by
  rw [hasPending, List.any_eq_true]
  constructor
  · rintro ⟨e, he, prompt⟩
    cases e with
    | selectionPrompt => exact he
    | _ => cases prompt
  · intro he
    exact ⟨_, he, rfl⟩

theorem questions_editAll :
    (editAll {} edits).questions = (appended edits).filterMap Entry.question? := by
  induction edits using List.reverseRecOn with
  | nil => rfl
  | append_singleton edits x ih =>
    rw [editAll_concat, appended_append, List.filterMap_append, ← ih]
    cases x with
    | append e =>
      rw [edit, questions_append]
      cases e <;> rfl
    | dropPending =>
      rw [edit, questions_dropPending]
      exact (List.append_nil _).symm

/-- Dropping makes no difference to an entry that comes after it, unless the entry is what would be
dropped. -/
theorem dropPending_append_iff :
    (t.append e).dropPending = t.dropPending.append e ↔ e.isSelectionPrompt = false := by
  constructor
  · intro same
    have kept : (t.append e).dropPending.hasPending = (t.dropPending.append e).hasPending :=
      congrArg hasPending same
    rw [hasPending_dropPending, hasPending_append, hasPending_dropPending, Bool.false_or] at kept
    exact kept.symm
  · intro other
    exact dropPending_append_of_not other

/-- Whatever is appended to a new transcript and however often the selection prompts are dropped in
between: the entries are all that was appended, in order, without the prompts from before the last
drop. So a checklist waits if and only if a prompt was appended since then, and the history holds
every question that was ever appended, in order, whenever prompts were dropped. A drop right after a
drop does nothing, and a drop may change places with anything appended but a prompt. -/
theorem edited_from_empty :
    (editAll {} edits).entries =
        (appended (untilDrop edits)).filter (fun e => !e.isSelectionPrompt) ++
          appended (sinceDrop edits) ∧
      ((editAll {} edits).hasPending = true ↔ .append .selectionPrompt ∈ sinceDrop edits) ∧
      (editAll {} edits).history = ((appended edits).filterMap Entry.question?).map .user ∧
      t.dropPending.dropPending = t.dropPending ∧
      ((t.append e).dropPending = t.dropPending.append e ↔ e.isSelectionPrompt = false) := by
  have entries := entries_editAll edits
  refine ⟨entries, ?_, congrArg (List.map HistoryTurn.user) (questions_editAll edits),
    t.dropPending_idem, t.dropPending_append_iff e⟩
  have earlier : Entry.selectionPrompt ∉
      (appended (untilDrop edits)).filter fun e => !e.isSelectionPrompt := by
    simp [Entry.isSelectionPrompt]
  rw [hasPending_iff_mem, entries, List.mem_append, or_iff_right earlier, mem_appended]

end AnalysisPanel.Transcript
