import AnalysisPanel.Service.Exchange

/-! Which stage of a call a failure comes from. Only reading an endpoint blames a URL, and a call
reads no endpoint but that of its own purpose. -/

namespace AnalysisPanel

/-! ## Failures of results -/

/-- Why there is no value. -/
def errorOf? {ε α : Type} : Except ε α → Option ε
  | .ok _ => none
  | .error e => some e

/-- Why a call came to nothing, if it did. -/
def Reply.failure? {ε : Type} : Reply ε → Option ε
  | .session result => errorOf? result
  | .discovery result => errorOf? result
  | .synthesis result => errorOf? result
  | .delivery result => errorOf? result
  | .report result => errorOf? result

@[simp] theorem Reply.failure?_failed {ε : Type} (failure : ε) (op : Operation) :
    (Reply.failed failure op).failure? = some failure := by
  cases op <;> rfl

theorem errorOf?_eq_some_iff {ε α : Type} {r : Except ε α} {e : ε} :
    errorOf? r = some e ↔ r = .error e := by
  cases r <;> simp [errorOf?]

theorem errorOf?_map {ε α β : Type} (f : α → β) (r : Except ε α) :
    errorOf? (r.map f) = errorOf? r := by
  cases r <;> rfl

theorem mapError_eq_ok {ε δ α : Type} {f : ε → δ} {result : Except ε α} {value : α}
    (ok : result.mapError f = .ok value) : result = .ok value := by
  cases result with
  | error e => cases ok
  | ok v => exact congrArg _ (Except.ok.inj ok)

namespace Service

variable {settings : Settings} {answer : Request → Answer} {call : Call}

/-- What failed, if anything did, is not a URL. -/
def SparesUrl (failure? : Option Failure) : Prop :=
  ∀ failure ∈ failure?, failure.kind ≠ .invalidUrl

theorem sparesUrl_none : SparesUrl none := nofun

theorem sparesUrl_some {failure : Failure} (kind : failure.kind ≠ .invalidUrl) :
    SparesUrl (some failure) := by
  rintro _ ⟨⟩
  exact kind

theorem SparesUrl.bind {α β : Type} {r : Except Failure α} {f : α → Except Failure β}
    (s : SparesUrl (errorOf? r)) (later : ∀ a, SparesUrl (errorOf? (f a))) :
    SparesUrl (errorOf? (r.bind f)) := by
  cases r with
  | ok a => exact later a
  | error failure => exact s

/-! ## The stages after the endpoint -/

theorem Interruption.sparesUrl (why : Interruption) : SparesUrl (some why.failure) := by
  refine sparesUrl_some ?_
  unfold failure
  dsimp only
  split <;> exact nofun

theorem Answer.sparesUrl_success? (a : Answer) : SparesUrl (errorOf? a.success?) := by
  cases a with
  | interrupted why => exact why.sparesUrl
  | responded r =>
    unfold success?
    dsimp only
    split
    · exact sparesUrl_none
    · exact sparesUrl_some nofun

theorem sparesUrl_wholeBody (held : Bytes) (chunks : List Chunk) :
    SparesUrl (errorOf? (wholeBody held chunks)) := by
  induction chunks generalizing held with
  | nil => exact sparesUrl_none
  | cons chunk rest ih =>
    cases chunk with
    | bytes content => exact ih (held ++ content)
    | broken why => exact why.sparesUrl

theorem sparesUrl_cappedBody (cap : Nat) (held : Bytes) (chunks : List Chunk) :
    SparesUrl (errorOf? (cappedBody cap held chunks)) := by
  induction chunks generalizing held with
  | nil => exact sparesUrl_none
  | cons chunk rest ih =>
    cases chunk with
    | bytes content =>
      unfold cappedBody
      dsimp only
      split
      · exact sparesUrl_some nofun
      · exact ih (held ++ content)
    | broken why => exact why.sparesUrl

theorem Response.sparesUrl_report (cap : Nat) (r : Response) :
    SparesUrl (errorOf? (r.report cap)) := by
  unfold report
  split
  · split
    · exact sparesUrl_some nofun
    · exact sparesUrl_cappedBody cap [] r.body
  · exact sparesUrl_cappedBody cap [] r.body

theorem Response.sparesUrl_decode {α : Type} (read : Json.Draft → Option α) (r : Response) :
    SparesUrl (errorOf? (r.decode read)) := by
  have whole := sparesUrl_wholeBody [] r.body
  unfold decode
  cases body : wholeBody [] r.body with
  | error failure =>
    rw [body] at whole
    exact whole
  | ok content =>
    dsimp only
    split
    · exact sparesUrl_none
    · exact sparesUrl_some nofun

/-! ## Endpoints -/

theorem endpoint?_of_parses {written : String} {url : Url} (parsed : Url.parse written = .ok url) :
    endpoint? written = .ok url := by
  rw [endpoint?, parsed]
  rfl

theorem endpoint?_of_error {written : String} {reason : Url.ParseError}
    (malformed : Url.parse written = .error reason) :
    endpoint? written = .error ⟨.invalidUrl, written ++ ": " ++ reason.message⟩ := by
  rw [endpoint?, malformed]
  rfl

theorem request?_of_parses {url : Url}
    (parsed : Url.parse (settings.endpoints.url call.purpose) = .ok url) :
    request? settings call = .ok (requestTo settings call url) := by
  rw [request?, endpoint?_of_parses parsed]
  rfl

/-- What leaves is the request of the call. -/
theorem request?_of_sent {request : Request} (leaves : sent settings call = some request) :
    request? settings call = .ok request ∧ request.canLeave = true := by
  unfold sent at leaves
  split at leaves
  · rename_i posed
    split at leaves
    · rename_i can
      cases leaves
      exact ⟨posed, can⟩
    · cases leaves
  · cases leaves

/-- A request that leaves and is answered with success brings what its response says. -/
theorem perform_of_sent {request : Request} {response : Response}
    (leaves : sent settings call = some request) (responds : answer request = .responded response)
    (succeeds : Status.isSuccess response.status = true) :
    perform settings answer call = replyTo settings response call := by
  obtain ⟨posed, can⟩ := request?_of_sent leaves
  simp only [perform, posed, if_pos can, responds, Answer.success?, if_pos succeeds]

/-- A reply read from a response fails for other reasons if the endpoint of its call parses: the one
that reads an endpoint again reads that of its own call. -/
theorem sparesUrl_replyTo {url : Url}
    (parsed : Url.parse (settings.endpoints.url call.purpose) = .ok url) (response : Response) :
    SparesUrl (replyTo settings response call).failure? := by
  cases call with
  | loadSession session => exact response.sparesUrl_decode context?
  | discover request =>
    cases request with
    | candidates prompt history =>
      have decoded := response.sparesUrl_decode labels?
      rwa [← errorOf?_map] at decoded
    | analysis prompt history scope =>
      have decoded := response.sparesUrl_decode analysis?
      rwa [← errorOf?_map] at decoded
  | synthesize request => exact response.sparesUrl_decode table?
  | deliver payload =>
    refine (response.sparesUrl_decode link?).bind fun link => ?_
    have again : endpoint? settings.endpoints.deliver = .ok url := endpoint?_of_parses parsed
    rw [linkFrom, again]
    exact sparesUrl_none
  | generateReport session extra => exact response.sparesUrl_report settings.reportMaxBytes

theorem sparesUrl_perform {url : Url}
    (parsed : Url.parse (settings.endpoints.url call.purpose) = .ok url) :
    SparesUrl (perform settings answer call).failure? := by
  have answered (request : Request) := Answer.sparesUrl_success?
    (if request.canLeave then answer request else .interrupted notSpoken)
  rw [perform, request?_of_parses parsed]
  dsimp only
  specialize answered (requestTo settings call url)
  split
  · rename_i failure came
    rw [came] at answered
    rwa [Reply.failure?_failed]
  · exact sparesUrl_replyTo parsed _

/-- A call blames a URL exactly if the endpoint of its purpose is none, whatever it carries and
whatever comes of its request. -/
theorem perform_blames_url_iff :
    (∃ failure, (perform settings answer call).failure? = some failure ∧
        failure.kind = .invalidUrl) ↔
      ∃ reason, Url.parse (settings.endpoints.url call.purpose) = .error reason := by
  cases parsed : Url.parse (settings.endpoints.url call.purpose) with
  | error reason =>
    let written := settings.endpoints.url call.purpose
    refine iff_of_true ⟨⟨.invalidUrl, written ++ ": " ++ reason.message⟩, ?_, rfl⟩ ⟨reason, rfl⟩
    rw [perform, request?, endpoint?_of_error parsed]
    exact Reply.failure?_failed _ _
  | ok url =>
    refine iff_of_false ?_ nofun
    rintro ⟨failure, failed, kind⟩
    exact sparesUrl_perform parsed failure failed kind

end Service

end AnalysisPanel
