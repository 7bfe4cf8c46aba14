import AnalysisPanel.Conversation.Transcript
import AnalysisPanel.Conversation.Session
import AnalysisPanel.Text.Utf8

/-! Calls to the services and their replies. A call is numbered by a ticket, and its reply comes
back under the same ticket. -/

namespace AnalysisPanel

/-- Numbers a call: the generation of the panel that issued it, which grows whenever the panel
closes, and a number that no other call of the panel has. The program counts in 64 bits; a step
counts on by one at most, so no run is long enough to use them up, and the counters have no end
here. -/
structure Ticket where
  generation : Nat
  seq : Nat
  deriving DecidableEq, Inhabited

/-- A ticket as log lines show it. -/
def Ticket.text (t : Ticket) : String :=
  "Ticket \x7b generation: " ++ toString t.generation ++ ", seq: " ++ toString t.seq ++ " \x7d"

/-- What the services can be asked to do. -/
inductive Operation where
  | loadSession
  | discover
  | synthesize
  | deliver
  | generateReport
  deriving DecidableEq, Inhabited

/-- A question put to the discovery service: which metrics relate to it, or what a chart's data
say about it. -/
inductive DiscoverRequest where
  | candidates (prompt : String) (history : List HistoryTurn)
  | analysis (prompt : String) (history : List HistoryTurn) (scope : Json.Value)
  deriving Inhabited

/-- What a table is built from: approved metrics, or a question. -/
inductive SynthesisRequest where
  | selection (labels : List String)
  | prompt (prompt : String)
  deriving DecidableEq, Inhabited

/-- One call. -/
inductive Call where
  | loadSession (session : SessionId)
  | discover (request : DiscoverRequest)
  | synthesize (request : SynthesisRequest)
  | deliver (payload : Json.Value)
  | generateReport (session : SessionId) (extra : List HistoryTurn)
  deriving Inhabited

/-- What a call asks for. -/
def Call.operation : Call → Operation
  | .loadSession _ => .loadSession
  | .discover _ => .discover
  | .synthesize _ => .synthesize
  | .deliver _ => .deliver
  | .generateReport _ _ => .generateReport

/-- What a discovery finds: metrics to choose from, or an answer in words. -/
inductive Discovery where
  | candidates (labels : List String)
  | analysis (text : String)
  deriving DecidableEq, Inhabited

/-- The reply to a call, with failures of type `ε`. -/
inductive Reply (ε : Type) where
  | session (result : Except ε SessionContext)
  | discovery (result : Except ε Discovery)
  | synthesis (result : Except ε Json.Value)
  | delivery (result : Except ε String)
  | report (result : Except ε Bytes)

namespace Reply

variable {ε δ : Type}

/-- What was asked for. -/
def operation : Reply ε → Operation
  | .session _ => .loadSession
  | .discovery _ => .discover
  | .synthesis _ => .synthesize
  | .delivery _ => .deliver
  | .report _ => .generateReport

/-- The reply with another failure instead of its own. -/
def mapError (f : ε → δ) : Reply ε → Reply δ
  | .session r => .session (r.mapError f)
  | .discovery r => .discovery (r.mapError f)
  | .synthesis r => .synthesis (r.mapError f)
  | .delivery r => .delivery (r.mapError f)
  | .report r => .report (r.mapError f)

/-- The reply that reports a failure of an operation. -/
def failed (failure : ε) : Operation → Reply ε
  | .loadSession => .session (.error failure)
  | .discover => .discovery (.error failure)
  | .synthesize => .synthesis (.error failure)
  | .deliver => .delivery (.error failure)
  | .generateReport => .report (.error failure)

@[simp] theorem operation_mapError (f : ε → δ) (r : Reply ε) :
    (r.mapError f).operation = r.operation := by
  cases r <;> rfl

@[simp] theorem operation_failed (failure : ε) (op : Operation) :
    (failed failure op).operation = op := by
  cases op <;> rfl

end Reply

end AnalysisPanel
