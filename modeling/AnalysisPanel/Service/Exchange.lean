import AnalysisPanel.Service.Request
import AnalysisPanel.Service.Response
import AnalysisPanel.Service.Status

/-! One exchange with a service: the first stage that fails decides the outcome. The stages are the
endpoint, the way to the service, the status, the way back, and the form of the answer. -/

namespace AnalysisPanel.Service

/-! ### What comes back -/

/-- Why the way to a service or back broke off. -/
structure Interruption where
  timedOut : Bool
  message : String
  deriving DecidableEq, Inhabited

/-- An interruption as a failure of the call. -/
def Interruption.failure (i : Interruption) : Failure :=
  ⟨if i.timedOut then .timeout else .network, i.message⟩

/-- A piece of a body. -/
inductive Chunk where
  | bytes (content : Bytes)
  | broken (why : Interruption)

/-- A response: its status, the length it announces, and its body piece by piece. -/
structure Response where
  status : Nat
  announced : Option Nat
  body : List Chunk

/-- What comes of a request. -/
inductive Answer where
  | interrupted (why : Interruption)
  | responded (response : Response)

/-- The response, if it reports success. -/
def Answer.success? : Answer → Except Failure Response
  | .interrupted why => .error why.failure
  | .responded r =>
    if Status.isSuccess r.status then .ok r
    else .error ⟨.httpStatus r.status, Status.text r.status⟩

/-! ### Bodies -/

/-- The whole of a body. -/
def wholeBody (held : Bytes) : List Chunk → Except Failure Bytes
  | [] => .ok held
  | .bytes content :: rest => wholeBody (held ++ content) rest
  | .broken why :: _ => .error why.failure

/-- A body that is longer than it may be. -/
def tooLarge (cap actual : Nat) : Failure := ⟨.tooLarge cap (some actual), "report too large"⟩

/-- The whole of a body, given up with the first piece that makes it longer than `cap`. -/
def cappedBody (cap : Nat) (held : Bytes) : List Chunk → Except Failure Bytes
  | [] => .ok held
  | .bytes content :: rest =>
    let size := held.length + content.length
    if cap < size then .error (tooLarge cap size) else cappedBody cap (held ++ content) rest
  | .broken why :: _ => .error why.failure

/-- A report of at most `cap` octets. A greater length announced is believed. -/
def Response.report (cap : Nat) (r : Response) : Except Failure Bytes :=
  match r.announced with
  | some size => if cap < size then .error (tooLarge cap size) else cappedBody cap [] r.body
  | none => cappedBody cap [] r.body

/-- An answer of another form than expected. -/
def malformed : Failure := ⟨.decode, "the answer does not have the expected form"⟩

/-- An answer read from JSON. -/
def Response.decode {α : Type} (read : Json.Draft → Option α) (r : Response) :
    Except Failure α :=
  match wholeBody [] r.body with
  | .error failure => .error failure
  | .ok content =>
    match (Json.Reader.draft? content).bind read with
    | some value => .ok value
    | none => .error malformed

/-! ### Calls -/

/-- A link made absolute. One that is absolute already, or that nothing can be made of, stays as it
is. -/
def resolveLink (base : Url) (link : String) : String :=
  match Url.parse link with
  | .ok _ => link
  | .error _ =>
    match base.join link with
    | .ok joined => joined.text
    | .error _ => link

/-- The link of a finished chart, made absolute. What it is relative to is read from the endpoint
once more. -/
def linkFrom (endpoint link : String) : Except Failure String :=
  (endpoint? endpoint).map fun base => resolveLink base link

/-- The reply to a call read from a response of success. -/
def replyTo (settings : Settings) (response : Response) : Call → Reply Failure
  | .loadSession _ => .session (response.decode context?)
  | .discover (.candidates _ _) => .discovery ((response.decode labels?).map .candidates)
  | .discover (.analysis _ _ _) => .discovery ((response.decode analysis?).map .analysis)
  | .synthesize _ => .synthesis (response.decode table?)
  | .deliver _ => .delivery ((response.decode link?).bind (linkFrom settings.endpoints.deliver))
  | .generateReport _ _ => .report (response.report settings.reportMaxBytes)

/-- Why a request of another scheme does not leave. -/
def notSpoken : Interruption := ⟨false, "the scheme of the url is not allowed"⟩

/-- The request that a call sends, if any leaves. -/
def sent (settings : Settings) (call : Call) : Option Request :=
  match request? settings call with
  | .ok request => if request.canLeave then some request else none
  | .error _ => none

/-- Performs a call, given what comes of each request. -/
def perform (settings : Settings) (answer : Request → Answer) (call : Call) : Reply Failure :=
  match request? settings call with
  | .error failure => .failed failure call.operation
  | .ok request =>
    let outcome := if request.canLeave then answer request else .interrupted notSpoken
    match outcome.success? with
    | .error failure => .failed failure call.operation
    | .ok response => replyTo settings response call

end AnalysisPanel.Service
