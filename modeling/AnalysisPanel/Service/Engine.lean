import AnalysisPanel.Log
import AnalysisPanel.Service.Failure
import AnalysisPanel.Conversation.Call

/-! The engine that keeps calls running while the panel goes on. Orders wait in a queue and are
taken in turn; calls finish in any order; completions wait in a queue of their own. A call whose
generation is closed while it runs finishes without a completion. -/

namespace AnalysisPanel.Service

/-- What the engine is told to do. -/
inductive Order where
  | call (ticket : Ticket) (call : Call)
  | close (generation : Nat)
  deriving Inhabited

/-- A call under way. Calls are numbered as they start. -/
structure Running where
  number : Nat
  ticket : Ticket
  call : Call
  cancelled : Bool := false
  deriving Inhabited

/-- What came of a call. -/
structure Completion where
  number : Nat
  ticket : Ticket
  reply : Reply Failure

/-- The state of the engine. A generation is live from its first call on until it is closed. -/
structure Engine where
  orders : List Order := []
  live : List Nat := []
  started : Nat := 0
  running : List Running := []
  completions : List Completion := []

/-- What the engine notes in the log. -/
inductive EngineNote where
  | loading (session : SessionId) (ticket : Ticket)
  | closed (generation : Nat)
  | dropped (ticket : Ticket)
  deriving DecidableEq

/-- The line of a note. The engine belongs to no session. -/
def EngineNote.line : EngineNote → Log.Line
  | .loading session ticket =>
    .of Log.noSession .info
      ("loading context for session " ++ session ++ " (ticket " ++ ticket.text ++ ")")
  | .closed generation =>
    .of Log.noSession .debug ("session generation " ++ toString generation ++ " closed")
  | .dropped ticket =>
    .of Log.noSession .debug
      ("completion dropped for closed session (ticket " ++ ticket.text ++ ")")

namespace Engine

/-- Puts an order at the end of the queue. -/
def submit (e : Engine) (o : Order) : Engine := { e with orders := e.orders ++ [o] }

/-- Starts a call. -/
def start (e : Engine) (ticket : Ticket) (call : Call) : Engine × List EngineNote :=
  ({ e with
      live := if ticket.generation ∈ e.live then e.live else ticket.generation :: e.live
      started := e.started + 1
      running := e.running ++ [⟨e.started, ticket, call, false⟩] },
    match call with
    | .loadSession session => [.loading session ticket]
    | _ => [])

/-- Closes a generation, which cancels the calls of it that run. -/
def close (e : Engine) (generation : Nat) : Engine × List EngineNote :=
  if generation ∈ e.live then
    ({ e with
        live := e.live.filter (· != generation)
        running := e.running.map fun r =>
          if r.ticket.generation = generation then { r with cancelled := true } else r },
      [.closed generation])
  else (e, [])

/-- Carries out an order. -/
def execute (e : Engine) : Order → Engine × List EngineNote
  | .call ticket call => e.start ticket call
  | .close generation => e.close generation

/-- Takes the next order from the queue, if there is one. -/
def next? (e : Engine) : Option (Engine × List EngineNote) :=
  match e.orders with
  | [] => none
  | o :: rest => some ({ e with orders := rest }.execute o)

/-- Carries out orders one after the other. -/
def executeAll (e : Engine) : List Order → Engine × List EngineNote
  | [] => (e, [])
  | o :: rest =>
    let (e, notes) := e.execute o
    let (e, more) := e.executeAll rest
    (e, notes ++ more)

/-- Works off the queue. -/
def settle (e : Engine) : Engine × List EngineNote :=
  { e with orders := [] }.executeAll e.orders

/-- The call of a number, if it runs. -/
def find? (e : Engine) (number : Nat) : Option Running :=
  e.running.find? fun r => r.number == number

/-- The call that has run longest. -/
def oldest? (e : Engine) : Option Running := e.running.head?

/-- A call comes back with a reply. -/
def finish (e : Engine) (r : Running) (reply : Reply Failure) : Engine × List EngineNote :=
  let e := { e with running := e.running.filter fun other => other.number != r.number }
  if r.cancelled then (e, [.dropped r.ticket])
  else ({ e with completions := e.completions ++ [⟨r.number, r.ticket, reply⟩] }, [])

/-- Takes the next completion from its queue, if there is one. -/
def take? (e : Engine) : Option (Completion × Engine) :=
  match e.completions with
  | [] => none
  | c :: rest => some (c, { e with completions := rest })

end Engine

end AnalysisPanel.Service
