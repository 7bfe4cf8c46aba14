import AnalysisPanel.Panel.Basic
import AnalysisPanel.Log

/-! What a panel is told, what it asks for in turn, and what it notes in the log. -/

namespace AnalysisPanel

/-- A call that came to nothing, as the panel hears of it. -/
structure TransportFailure where
  message : String
  deriving DecidableEq, Inhabited

/-- What a panel is told. -/
inductive Message where
  | opened (session : SessionId)
  | closed
  | draftChanged (text : String)
  | promptSubmitted
  | tableSubmitted
  | candidateToggled (index : Nat) (approved : Bool)
  | allToggled (approved : Bool)
  | selectionConfirmed
  | chartSelected (id : ChartId)
  | reportRequested
  | linkActivated (index : Nat)
  | completed (ticket : Ticket) (reply : Reply TransportFailure)
  | tick
  | noOp

/-- Why a request of the user was turned down before any call. -/
inductive ValidationFailure where
  | emptyInput
  | selectionPending
  | noCandidateApproved
  | noChartSelected
  deriving DecidableEq, Inhabited

/-- What the user reads. -/
def ValidationFailure.message : ValidationFailure → String
  | .emptyInput => "please enter a question first"
  | .selectionPending => "please finish the current metric selection first"
  | .noCandidateApproved => "please select at least one metric"
  | .noChartSelected => "please choose a chart first"

/-- What a panel asks its host to do. -/
inductive Effect where
  | issue (ticket : Ticket) (call : Call)
  | saveReport (filename : String) (content : Bytes)
  | openLink (url : String)
  | closeSession (generation : Nat)
  | turnAppended (entry : Entry)
  | candidatesChanged (items : List Candidate)
  | busyChanged (busy : Bool)
  | showValidation (failure : ValidationFailure)
  | scrollToBottom

/-- What a panel notes in the log. -/
inductive Note where
  | noCandidateAt (index : Nat)
  | unknownChart (id : ChartId)
  | staleContext (ticket : Ticket)
  | contextLoaded (charts : Nat)
  | contextUnavailable (failure : TransportFailure)
  | discoveryIssued (seq : Nat)
  | tableIssued (seq : Nat)
  | synthesisIssued (labels : Nat) (seq : Nat)
  | reportIssued (turns : Nat) (seq : Nat)
  | submissionIgnored
  | nothingDiscovered
  | reportGenerated (size : Nat)
  | staleReply (operation : Operation) (ticket : Ticket)
  | callRefused
  | callFailed (operation : Operation) (failure : TransportFailure)

/-- An operation as log lines name its reply. -/
def Operation.word : Operation → String
  | .loadSession => "session"
  | .discover => "discovery"
  | .synthesize => "synthesis"
  | .deliver => "delivery"
  | .generateReport => "report"

namespace Note

open Log

def level : Note → Level
  | .contextLoaded _ | .discoveryIssued _ | .tableIssued _ | .synthesisIssued _ _
  | .reportIssued _ _ | .nothingDiscovered | .reportGenerated _ => .info
  | .contextUnavailable _ | .callFailed _ _ => .warn
  | .noCandidateAt _ | .unknownChart _ | .staleContext _ | .submissionIgnored | .staleReply _ _
  | .callRefused => .debug

def message : Note → String
  | .noCandidateAt index => "toggle ignored: no candidate at index " ++ toString index
  | .unknownChart id => "scope selection ignored: unknown chart " ++ toString id
  | .staleContext ticket => "stale session context dropped (ticket " ++ ticket.text ++ ")"
  | .contextLoaded charts => "session context loaded: " ++ toString charts ++ " chart(s)"
  | .contextUnavailable failure =>
    "session context unavailable, continuing without it: " ++ failure.message
  | .discoveryIssued seq => "discovery issued (seq " ++ toString seq ++ ")"
  | .tableIssued seq => "table synthesis issued (seq " ++ toString seq ++ ")"
  | .synthesisIssued labels seq =>
    "synthesis issued for " ++ toString labels ++ " metric(s) (seq " ++ toString seq ++ ")"
  | .reportIssued turns seq =>
    "report issued with " ++ toString turns ++ " prior turn(s) (seq " ++ toString seq ++ ")"
  | .submissionIgnored => "submission ignored: a request is already in flight"
  | .nothingDiscovered => "discovery returned no candidates"
  | .reportGenerated size => "report generated: " ++ toString size ++ " byte(s)"
  | .staleReply operation ticket =>
    "stale " ++ operation.word ++ " completion dropped (ticket " ++ ticket.text ++ ")"
  | .callRefused => "call refused: gate already held"
  | .callFailed operation failure => operation.word ++ " call failed: " ++ failure.message

/-- The line of a note under a label. -/
def line (label : String) (note : Note) : Line := .of label note.level note.message

end Note

end AnalysisPanel
