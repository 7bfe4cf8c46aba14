import AnalysisPanel.Proofs.Service.Reports

/-! The stages of a call: its endpoint, the way to the service, the status, the way back, and the
form of the answer. The first one that fails decides what comes of the call. -/

namespace AnalysisPanel.Service

open Json (Draft)

/-! ## Bodies -/

variable {r : Response} {contents : List Bytes}

theorem wholeBody_pieces (held : Bytes) (contents : List Bytes) (coming : List Chunk) :
    wholeBody held (contents.map .bytes ++ coming) =
      wholeBody (held ++ contents.flatten) coming := by
  induction contents generalizing held with
  | nil => rw [List.flatten_nil, List.append_nil, List.map_nil, List.nil_append]
  | cons content contents ih =>
    rw [List.flatten_cons, ← List.append_assoc]
    exact ih (held ++ content)

/-- The pieces of a body up to its end, or up to where it breaks off. -/
theorem body_pieces (body : List Chunk) : ∃ contents : List Bytes,
    body = contents.map .bytes ∨
      ∃ why rest, body = contents.map .bytes ++ .broken why :: rest := by
  induction body with
  | nil => exact ⟨[], .inl rfl⟩
  | cons chunk body ih =>
    cases chunk with
    | broken why => exact ⟨[], .inr ⟨why, body, rfl⟩⟩
    | bytes content =>
      obtain ⟨contents, rfl | ⟨why, rest, rfl⟩⟩ := ih
      · exact ⟨content :: contents, .inl rfl⟩
      · exact ⟨content :: contents, .inr ⟨why, rest, rfl⟩⟩

section Decode

variable {α β : Type} {read : Draft → Option α}

theorem Response.decode_of_broken {why : Interruption} {rest : List Chunk}
    (body : r.body = contents.map .bytes ++ .broken why :: rest) :
    r.decode read = .error why.failure := by
  rw [decode, body, wholeBody_pieces]
  rfl

theorem Response.wholeBody_of_pieces (body : r.body = contents.map .bytes) :
    wholeBody [] r.body = .ok contents.flatten := by
  rw [body, ← List.append_nil (contents.map Chunk.bytes), wholeBody_pieces, List.nil_append]
  rfl

/-- An answer whose whole body is a text is what is read from its draft. -/
theorem Response.decode_of_text {draft : Draft} (body : r.body = contents.map .bytes)
    (text : Json.Reader.draft? contents.flatten = some draft) :
    r.decode read = (read draft).elim (.error malformed) .ok := by
  simp only [decode, wholeBody_of_pieces body, text, Option.bind_some]
  cases read draft <;> rfl

theorem Response.decode_of_unread (body : r.body = contents.map .bytes)
    (unread : ∀ draft, Json.Reader.draft? contents.flatten = some draft → read draft = none) :
    r.decode read = .error malformed := by
  simp only [decode, wholeBody_of_pieces body, Option.bind_eq_none_iff.mpr unread]

theorem Response.decode_map (read : Draft → Option α) (f : α → β) (r : Response) :
    r.decode (fun draft => (read draft).map f) = (r.decode read).map f := by
  unfold decode
  cases wholeBody [] r.body with
  | error failure => rfl
  | ok content =>
    dsimp only
    cases Json.Reader.draft? content with
    | none => rfl
    | some draft =>
      dsimp only [Option.bind_some]
      cases read draft <;> rfl

end Decode

/-! ## Replies by drafts -/

/-- The reply that a draft holds, if it has the form of such a reply. A link is relative to the
endpoint. A report is no JSON. -/
def replyIn? (base : Url) : Call → Draft → Option (Reply Failure)
  | .loadSession _ => fun draft => (context? draft).map fun context => .session (.ok context)
  | .discover (.candidates _ _) => fun draft =>
    (labels? draft).map fun labels => .discovery (.ok (.candidates labels))
  | .discover (.analysis _ _ _) => fun draft =>
    (analysis? draft).map fun text => .discovery (.ok (.analysis text))
  | .synthesize _ => fun draft => (table? draft).map fun table => .synthesis (.ok table)
  | .deliver _ => fun draft => (link? draft).map fun link => .delivery (.ok (resolveLink base link))
  | .generateReport _ _ => fun _ => none

/-- A reply, or the failure of an operation. -/
def concluded (op : Operation) : Except Failure (Reply Failure) → Reply Failure
  | .ok reply => reply
  | .error failure => .failed failure op

variable {settings : Settings} {answer : Request → Answer} {call : Call} {url : Url}
  {requests : List Request} {reply : Reply Failure}

/-- A reply is read from a draft as a whole; the link of a chart is made absolute with the
endpoint that was asked. -/
theorem replyTo_eq_concluded (parsed : Url.parse (settings.endpoints.url call.purpose) = .ok url)
    (document : call.operation ≠ .generateReport) (r : Response) :
    replyTo settings r call = concluded call.operation (r.decode (replyIn? url call)) := by
  cases call with
  | loadSession session =>
    simp only [replyTo, replyIn?, Response.decode_map]
    cases r.decode context? <;> rfl
  | discover request =>
    cases request with
    | candidates prompt history =>
      simp only [replyTo, replyIn?, Response.decode_map]
      cases r.decode labels? <;> rfl
    | analysis prompt history scope =>
      simp only [replyTo, replyIn?, Response.decode_map]
      cases r.decode analysis? <;> rfl
  | synthesize request =>
    simp only [replyTo, replyIn?, Response.decode_map]
    cases r.decode table? <;> rfl
  | deliver payload =>
    -- the endpoint that is read once more for the link is the one that was asked
    have again : endpoint? settings.endpoints.deliver = .ok url := endpoint?_of_parses parsed
    have resolves : linkFrom settings.endpoints.deliver = fun link => .ok (resolveLink url link) :=
      funext fun link => by rw [linkFrom, again]; rfl
    simp only [replyTo, replyIn?, Response.decode_map, resolves]
    cases r.decode link? <;> rfl
  | generateReport session extra => exact absurd rfl document

/-! ## Stages -/

/-- The requests that a call attempts. -/
def attempts (settings : Settings) (call : Call) : List Request :=
  (request? settings call).toOption.toList

/-- What comes of a request that is attempted. -/
def fate (answer : Request → Answer) (request : Request) : Answer :=
  if request.canLeave then answer request else .interrupted notSpoken

/-- A call is answered with a response by the service of its endpoint. -/
structure Responds (settings : Settings) (answer : Request → Answer) (call : Call) (url : Url)
    (r : Response) : Prop where
  parsed : Url.parse (settings.endpoints.url call.purpose) = .ok url
  responded : fate answer (requestTo settings call url) = .responded r

/-- The response reports success. -/
structure Succeeds (settings : Settings) (answer : Request → Answer) (call : Call) (url : Url)
    (r : Response) : Prop extends Responds settings answer call url r where
  least : 200 ≤ r.status
  most : r.status ≤ 299

/-- What a call attempts and what it is answered, by the first stage that fails. -/
inductive Concludes (settings : Settings) (answer : Request → Answer) (call : Call) :
    List Request → Reply Failure → Prop where
  | unaddressed {reason : Url.ParseError}
      (malformed : Url.parse (settings.endpoints.url call.purpose) = .error reason) :
      Concludes settings answer call []
        (.failed ⟨.invalidUrl, settings.endpoints.url call.purpose ++ ": " ++ reason.message⟩
          call.operation)
  | unanswered {url : Url} {why : Interruption}
      (parsed : Url.parse (settings.endpoints.url call.purpose) = .ok url)
      (interrupted : fate answer (requestTo settings call url) = .interrupted why) :
      Concludes settings answer call [requestTo settings call url]
        (.failed ⟨if why.timedOut then .timeout else .network, why.message⟩ call.operation)
  | refused {url : Url} {r : Response} (responds : Responds settings answer call url r)
      (fails : ¬ (200 ≤ r.status ∧ r.status ≤ 299)) :
      Concludes settings answer call [requestTo settings call url]
        (.failed ⟨.httpStatus r.status, Status.text r.status⟩ call.operation)
  | broken {url : Url} {r : Response} {contents : List Bytes} {why : Interruption}
      {rest : List Chunk} (succeeds : Succeeds settings answer call url r)
      (document : call.operation ≠ .generateReport)
      (body : r.body = contents.map .bytes ++ .broken why :: rest) :
      Concludes settings answer call [requestTo settings call url]
        (.failed ⟨if why.timedOut then .timeout else .network, why.message⟩ call.operation)
  | unread {url : Url} {r : Response} {contents : List Bytes}
      (succeeds : Succeeds settings answer call url r)
      (document : call.operation ≠ .generateReport) (body : r.body = contents.map .bytes)
      (unread : ∀ draft, Json.Reader.draft? contents.flatten = some draft →
        replyIn? url call draft = none) :
      Concludes settings answer call [requestTo settings call url]
        (.failed ⟨.decode, malformed.message⟩ call.operation)
  | read {url : Url} {r : Response} {contents : List Bytes} {draft : Draft}
      {reply : Reply Failure} (succeeds : Succeeds settings answer call url r)
      (document : call.operation ≠ .generateReport) (body : r.body = contents.map .bytes)
      (text : Json.Reader.draft? contents.flatten = some draft)
      (reads : replyIn? url call draft = some reply) :
      Concludes settings answer call [requestTo settings call url] reply
  | collected {url : Url} {r : Response} {result : Except Failure Bytes}
      (succeeds : Succeeds settings answer call url r)
      (bytes : call.operation = .generateReport)
      (reports : r.Reports settings.reportMaxBytes result) :
      Concludes settings answer call [requestTo settings call url] (.report result)

theorem isSuccess_iff {code : Nat} : Status.isSuccess code = true ↔ 200 ≤ code ∧ code ≤ 299 := by
  simp only [Status.isSuccess, Bool.and_eq_true, decide_eq_true_eq, Nat.lt_succ_iff]

theorem attempts_of_error {reason : Url.ParseError}
    (malformed : Url.parse (settings.endpoints.url call.purpose) = .error reason) :
    attempts settings call = [] := by
  rw [attempts, request?, endpoint?_of_error malformed]
  rfl

theorem attempts_of_parses (parsed : Url.parse (settings.endpoints.url call.purpose) = .ok url) :
    attempts settings call = [requestTo settings call url] := by
  rw [attempts, request?_of_parses parsed]
  rfl

/-- Beyond the endpoint, a call is what comes of its request. -/
theorem perform_of_parses (parsed : Url.parse (settings.endpoints.url call.purpose) = .ok url) :
    perform settings answer call =
      match (fate answer (requestTo settings call url)).success? with
      | .error failure => .failed failure call.operation
      | .ok response => replyTo settings response call := by
  rw [perform, request?_of_parses parsed]
  rfl

theorem Succeeds.perform_eq (succeeds : Succeeds settings answer call url r) :
    perform settings answer call = replyTo settings r call := by
  have success := isSuccess_iff.mpr ⟨succeeds.least, succeeds.most⟩
  simp only [perform_of_parses succeeds.parsed, succeeds.responded, Answer.success?, success,
    if_true]

/-- A reply that is JSON is the one its body holds. -/
theorem Succeeds.perform_document (succeeds : Succeeds settings answer call url r)
    (document : call.operation ≠ .generateReport) :
    perform settings answer call = concluded call.operation (r.decode (replyIn? url call)) :=
  succeeds.perform_eq.trans (replyTo_eq_concluded succeeds.parsed document r)

theorem Concludes.execution (concludes : Concludes settings answer call requests reply) :
    attempts settings call = requests ∧ perform settings answer call = reply := by
  cases concludes with
  | unaddressed malformed =>
    refine ⟨attempts_of_error malformed, ?_⟩
    rw [perform, request?, endpoint?_of_error malformed]
    rfl
  | unanswered parsed interrupted =>
    refine ⟨attempts_of_parses parsed, ?_⟩
    rw [perform_of_parses parsed, interrupted]
    rfl
  | refused responds fails =>
    refine ⟨attempts_of_parses responds.parsed, ?_⟩
    simp only [perform_of_parses responds.parsed, responds.responded, Answer.success?,
      isSuccess_iff, if_neg fails]
  | broken succeeds document body =>
    refine ⟨attempts_of_parses succeeds.parsed, ?_⟩
    rw [succeeds.perform_document document, Response.decode_of_broken body]
    rfl
  | unread succeeds document body unread =>
    refine ⟨attempts_of_parses succeeds.parsed, ?_⟩
    rw [succeeds.perform_document document, Response.decode_of_unread body unread]
    rfl
  | read succeeds document body text reads =>
    refine ⟨attempts_of_parses succeeds.parsed, ?_⟩
    rw [succeeds.perform_document document, Response.decode_of_text body text, reads]
    rfl
  | collected succeeds bytes reports =>
    refine ⟨attempts_of_parses succeeds.parsed, ?_⟩
    rw [succeeds.perform_eq]
    cases call with
    | generateReport session extra => exact congrArg Reply.report reports.execution
    | _ => cases bytes

/-- A response of success concludes a call by its body. -/
theorem Succeeds.concludes (succeeds : Succeeds settings answer call url r) :
    ∃ requests reply, Concludes settings answer call requests reply := by
  -- a report is no JSON, so its body has rules of its own
  by_cases bytes : call.operation = .generateReport
  · exact ⟨_, _, .collected succeeds bytes (r.report_derivation _)⟩
  obtain ⟨contents, whole | ⟨why, rest, breaks⟩⟩ := body_pieces r.body
  · cases text : (Json.Reader.draft? contents.flatten).bind (replyIn? url call) with
    | none => exact ⟨_, _, .unread succeeds bytes whole (Option.bind_eq_none_iff.mp text)⟩
    | some reply =>
      obtain ⟨draft, text, reads⟩ := Option.bind_eq_some_iff.mp text
      exact ⟨_, _, .read succeeds bytes whole text reads⟩
  · exact ⟨_, _, .broken succeeds bytes breaks⟩

-- what is not known may hold strings that spell no text
example : (Json.Reader.draft? (Text.Utf8.ofString
    "\x7b\"text\":\"a\",\"other\":[\"\\ud800\"]\x7d")).bind analysis? = some "a" := by
  decide +kernel

end AnalysisPanel.Service
