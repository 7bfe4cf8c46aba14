import AnalysisPanel.Conversation.Entry

/-! The transcript: the entries of a conversation in the order they were appended. Only selection
prompts ever leave it. -/

namespace AnalysisPanel

/-- A question asked earlier, as the services read it. -/
structure HistoryTurn where
  role : String
  content : String
  deriving DecidableEq, Inhabited

/-- A question of the user as a turn of history. -/
def HistoryTurn.user (content : String) : HistoryTurn := ⟨"user", content⟩

/-- The entries of a conversation, oldest first. -/
structure Transcript where
  entries : List Entry := []
  deriving DecidableEq, Inhabited

namespace Transcript

def empty : Transcript := {}

/-- Adds an entry at the end. -/
def append (t : Transcript) (e : Entry) : Transcript := ⟨t.entries ++ [e]⟩

/-- Removes every selection prompt and keeps the rest in order. -/
def dropPending (t : Transcript) : Transcript :=
  ⟨t.entries.filter fun e => !e.isSelectionPrompt⟩

/-- What the user asked, oldest first. -/
def questions (t : Transcript) : List String := t.entries.filterMap Entry.question?

/-- The questions as turns of history. -/
def history (t : Transcript) : List HistoryTurn := t.questions.map .user

/-- Whether a checklist waits for confirmation. -/
def hasPending (t : Transcript) : Bool := t.entries.any Entry.isSelectionPrompt

def get? (t : Transcript) (index : Nat) : Option Entry := t.entries[index]?

def last? (t : Transcript) : Option Entry := t.entries.getLast?

def size (t : Transcript) : Nat := t.entries.length

def isEmpty (t : Transcript) : Bool := t.entries.isEmpty

@[simp] theorem entries_append (t : Transcript) (e : Entry) :
    (t.append e).entries = t.entries ++ [e] := rfl

@[simp] theorem entries_dropPending (t : Transcript) :
    t.dropPending.entries = t.entries.filter fun e => !e.isSelectionPrompt := rfl

@[simp] theorem questions_append (t : Transcript) (e : Entry) :
    (t.append e).questions = t.questions ++ e.question?.toList := by
  cases e <;> simp [questions, Entry.question?]

@[simp] theorem questions_dropPending (t : Transcript) :
    t.dropPending.questions = t.questions := by
  rw [questions, entries_dropPending, List.filterMap_filter, questions]
  congr 1
  funext e
  cases e <;> rfl

end Transcript

end AnalysisPanel
