import AnalysisPanel.Proofs.Fields
import AnalysisPanel.Proofs.Json.Reading
import AnalysisPanel.Proofs.Service.Outcomes

/-! Bodies of requests and of replies. What is posted is read back by its receiver as it was meant,
and what a reply brings is what its draft means. -/

namespace AnalysisPanel

open Json Floating Text

namespace Call

/-- The data that a call asks about. -/
def scope? : Call → Option Value
  | .discover (.analysis _ _ scope) => some scope
  | _ => none

/-- The payload that a call delivers. -/
def payload? : Call → Option Value
  | .deliver payload => some payload
  | _ => none

theorem scope?_eq_some {call : Call} {scope : Value} (carries : call.scope? = some scope) :
    ∃ prompt history, call = .discover (.analysis prompt history scope) := by
  unfold scope? at carries
  split at carries
  · cases carries
    exact ⟨_, _, rfl⟩
  · cases carries

theorem payload?_eq_some {call : Call} {payload : Value} (carries : call.payload? = some payload) :
    call = .deliver payload := by
  unfold payload? at carries
  split at carries
  · cases carries
    rfl
  · cases carries

/-- The JSON value that a call carries, if any, nests no deeper than its receiver follows. -/
structure Fits (call : Call) : Prop where
  scope : ∀ scope ∈ call.scope?, scope.Within (fun _ => True) (Reader.maxDepth - 1)
  payload : ∀ payload ∈ call.payload?, payload.Within (fun _ => True) Reader.maxDepth

theorem Fits.of_scope? {call : Call} {scope : Value} (carries : call.scope? = some scope)
    (within : scope.Within (fun _ => True) (Reader.maxDepth - 1)) : call.Fits := by
  obtain ⟨prompt, history, rfl⟩ := scope?_eq_some carries
  constructor
  · rintro _ ⟨⟩
    exact within
  · rintro _ ⟨⟩

theorem Fits.of_payload? {call : Call} {payload : Value} (carries : call.payload? = some payload)
    (within : payload.Within (fun _ => True) Reader.maxDepth) : call.Fits := by
  cases payload?_eq_some carries
  constructor
  · rintro _ ⟨⟩
  · rintro _ ⟨⟩
    exact within

end Call

namespace Service

/-! ## Bodies that are posted -/

/-- What the receiver of a request reads in its body. -/
def Request.content? (r : Request) : Option Document :=
  r.body.bind fun doc => Reader.ofBytes? (Utf8.ofString (print doc))

variable {depth : ℕ}

theorem within_document {v : Value} (w : v.Within (fun _ => True) depth) :
    v.document.Within Numeral.Regular depth :=
  w.mapNumbers fun n _ => n.literal_regular

theorem within_parameter (x : Floating.Number) : (parameter x).Within Numeral.Regular depth := by
  cases x with
  | finite x =>
    exact .number (samplingLayout.laid x.negative (Format.single.shortest _ x)).regular
  | infinite _ => exact .null
  | nan => exact .null

theorem within_count (n : ℕ) : (count n).Within Numeral.Regular depth :=
  .number (Number.literal_regular (.integer n))

theorem within_texts (items : List String) : (texts items).Within Numeral.Regular (depth + 1) := by
  refine .array (List.forall_mem_map.mpr fun s _ => ?_)
  exact .string s

theorem within_turns (history : List HistoryTurn) :
    (turns history).Within Numeral.Regular (depth + 2) := by
  refine .array (List.forall_mem_map.mpr fun turn _ => .object ?_)
  simp [Within.string]

theorem within_dataSource (d : DataSource) : d.document.Within Numeral.Regular (depth + 1) := by
  refine .object ?_
  simp [Within.string]

/-- A sampling parameter of a body. -/
theorem mem_fields {s : Sampling} {field : String × Document} (h : field ∈ s.fields) :
    field.1 ∈ ["temperature", "max_tokens", "top_p", "stop"] ∧
      ∀ depth, field.2.Within Numeral.Regular (depth + 1) := by
  simp only [Sampling.fields, List.mem_append, List.mem_singleton, Option.mem_toList,
    Option.map_eq_some_iff] at h
  rcases h with ((rfl | ⟨n, -, rfl⟩) | ⟨x, -, rfl⟩) | stops
  · exact ⟨by simp, fun _ => within_parameter _⟩
  · exact ⟨by simp, fun _ => within_count _⟩
  · exact ⟨by simp, fun _ => within_parameter _⟩
  · split at stops
    · cases stops
    · rw [List.mem_singleton.mp stops]
      exact ⟨by simp, fun _ => within_texts _⟩

/-- A body is one level deeper than the data it asks about, but three levels at least, and its
numbers are of the grammar. -/
theorem within_body?_of {settings : Settings} {call : Call}
    (asked : ∀ scope ∈ call.scope?, scope.Within (fun _ => True) (depth + 2))
    (paid : ∀ payload ∈ call.payload?, payload.Within (fun _ => True) (depth + 3)) :
    ∀ doc ∈ body? settings call, doc.Within Numeral.Regular (depth + 3) := by
  have sampled (s : Sampling) : ∀ field ∈ s.fields, field.2.Within Numeral.Regular (depth + 2) :=
    fun _ h => (mem_fields h).2 _
  intro doc body
  cases call with
  | loadSession session => cases body
  | discover request =>
    cases request with
    | candidates prompt history =>
      cases body
      refine .object (List.forall_mem_append.mpr ⟨?_, sampled _⟩)
      simp [Within.string, within_turns]
    | analysis prompt history scope =>
      cases body
      have table : scope.document.Within Numeral.Regular (depth + 2) :=
        within_document (asked scope rfl)
      refine .object (List.forall_mem_append.mpr
        ⟨List.forall_mem_append.mpr ⟨?_, sampled _⟩, List.forall_mem_singleton.mpr table⟩)
      simp [Within.string, within_turns]
  | synthesize request =>
    cases request with
    | selection labels =>
      cases body
      refine .object (List.forall_mem_append.mpr ⟨?_, sampled _⟩)
      simp [within_texts, within_dataSource]
    | prompt prompt =>
      cases body
      refine .object (List.forall_mem_append.mpr ⟨?_, sampled _⟩)
      simp [Within.string, within_dataSource]
  | deliver payload =>
    cases body
    exact within_document (paid payload rfl)
  | generateReport session extra =>
    cases body
    refine .object ?_
    simp [Within.string, within_turns]

/-- Every body of a call that fits nests no deeper than its receiver follows. -/
theorem within_body? {settings : Settings} {call : Call} (fits : call.Fits) :
    ∀ doc ∈ body? settings call, doc.Within Numeral.Regular Reader.maxDepth :=
  @within_body?_of 124 _ _ fits.scope fits.payload

theorem exists_within_of_mem (v? : Option Value) :
    ∃ depth, ∀ v ∈ v?, v.Within (fun _ => True) depth := by
  cases v? with
  | none => exact ⟨0, nofun⟩
  | some v =>
    obtain ⟨depth, within⟩ := exists_within v
    refine ⟨depth, ?_⟩
    rintro _ ⟨⟩
    exact within

/-- Whatever a call carries, its body can be written. -/
theorem exists_within_body? {settings : Settings} {call : Call} :
    ∀ doc ∈ body? settings call, ∃ depth, doc.Within Numeral.Regular depth := by
  intro doc body
  obtain ⟨asked, scopes⟩ := exists_within_of_mem call.scope?
  obtain ⟨paid, payloads⟩ := exists_within_of_mem call.payload?
  refine ⟨max asked paid + 3, within_body?_of (fun scope h => ?_) (fun payload h => ?_) doc body⟩
  · exact (scopes scope h).mono (le_add_right (le_max_left ..))
  · exact (payloads payload h).mono (le_add_right (le_max_right ..))

theorem body_of_request? {settings : Settings} {call : Call} {r : Request}
    (posed : request? settings call = .ok r) : r.body = body? settings call := by
  unfold request? at posed
  cases endpoint : endpoint? (settings.endpoints.url call.purpose) with
  | error failure =>
    rw [endpoint] at posed
    cases posed
  | ok url =>
    rw [endpoint] at posed
    cases posed
    cases call <;> rfl

theorem body_of_sent {settings : Settings} {call : Call} {r : Request}
    (sent : sent settings call = some r) : r.body = body? settings call :=
  body_of_request? (request?_of_sent sent).1

/-- The receiver of a request reads the body that was meant. -/
theorem content?_of_sent {settings : Settings} {call : Call} {r : Request}
    (sent : sent settings call = some r) (fits : call.Fits) : r.content? = body? settings call := by
  have body := body_of_sent sent
  cases doc : body? settings call with
  | none => rw [Request.content?, body, doc, Option.bind_none]
  | some doc' =>
    rw [Request.content?, body, doc, Option.bind_some,
      Reader.ofBytes?_print (within_body? fits doc' doc)]

/-- A scoped question has one table. -/
theorem holds_table (settings : Settings) (prompt : String) (history : List HistoryTurn)
    (scope : Value) :
    ∃ fields, body? settings (.discover (.analysis prompt history scope)) = some (.object fields) ∧
      Holds fields "table" (some scope.document) := by
  refine ⟨_, rfl, holds_iff.mpr ?_⟩
  have others : settings.sampling.analyse.fields.filter (fun field => field.1 == "table") = [] := by
    apply List.filter_eq_nil_iff.mpr
    intro field h same
    have known := (mem_fields h).1
    rw [eq_of_beq same] at known
    simp at known
  simp [List.filter_append, others]

/-! ## Bodies of replies -/

/-- What the text in a response of success says. -/
def Answer.draft? (a : Answer) : Option Draft :=
  match a.success? with
  | .ok response =>
    match wholeBody [] response.body with
    | .ok content => Reader.draft? content
    | .error _ => none
  | .error _ => none

theorem decode_eq_ok {α : Type} {read : Draft → Option α} {response : Response} {value : α}
    (decoded : response.decode read = .ok value) :
    ∃ content draft, wholeBody [] response.body = .ok content ∧
      Reader.draft? content = some draft ∧ read draft = some value := by
  unfold Response.decode at decoded
  split at decoded
  · cases decoded
  · rename_i content whole
    split at decoded
    · rename_i found
      obtain ⟨draft, text, read⟩ := Option.bind_eq_some_iff.mp found
      cases decoded
      exact ⟨content, draft, whole, text, read⟩
    · cases decoded

/-- A reply that is no failure is read from a response of success. -/
theorem perform_eq (settings : Settings) (a : Answer) (call : Call) :
    (∃ failure, perform settings (fun _ => a) call = .failed failure call.operation) ∨
      ∃ response, a.success? = .ok response ∧
        perform settings (fun _ => a) call = replyTo settings response call := by
  unfold perform
  split
  · exact .inl ⟨_, rfl⟩
  · rename_i request _
    dsimp only
    split
    · exact .inl ⟨_, rfl⟩
    · rename_i response success
      by_cases leaves : request.canLeave = true
      · rw [if_pos leaves] at success
        exact .inr ⟨response, success, rfl⟩
      · rw [if_neg leaves] at success
        cases success

theorem draft?_of_decode {α : Type} {a : Answer} {read : Draft → Option α}
    {response : Response} {value : α} (success : a.success? = .ok response)
    (decoded : response.decode read = .ok value) :
    ∃ draft, a.draft? = some draft ∧ read draft = some value := by
  obtain ⟨content, draft, whole, text, found⟩ := decode_eq_ok decoded
  refine ⟨draft, ?_, found⟩
  unfold Answer.draft?
  rw [success]
  dsimp only
  rw [whole]
  exact text

variable {settings : Settings} {a : Answer} {call : Call} {δ : Type} {f : Failure → δ}

/-- A context comes from the draft of the answer to a load. -/
theorem draft?_of_context {ctx : SessionContext}
    (brought : (perform settings (fun _ => a) call).mapError f = .session (.ok ctx)) :
    ∃ reply, a.draft? = some reply ∧ context? reply = some ctx := by
  rcases perform_eq settings a call with ⟨failure, failed⟩ | ⟨response, success, read⟩
  · rw [failed] at brought
    cases h : call.operation <;> rw [h] at brought <;> cases brought
  · rw [read] at brought
    cases call with
    | loadSession session =>
      have decoded := mapError_eq_ok (Reply.session.inj brought)
      exact draft?_of_decode success decoded
    | discover request => cases request <;> cases brought
    | _ => cases brought

/-- A payload is the value of the draft of the answer to a synthesis. -/
theorem draft?_of_payload {payload : Value}
    (brought : (perform settings (fun _ => a) call).mapError f = .synthesis (.ok payload)) :
    ∃ reply, a.draft? = some reply ∧ table? reply = some payload := by
  rcases perform_eq settings a call with ⟨failure, failed⟩ | ⟨response, success, read⟩
  · rw [failed] at brought
    cases h : call.operation <;> rw [h] at brought <;> cases brought
  · rw [read] at brought
    cases call with
    | synthesize request =>
      have decoded := mapError_eq_ok (Reply.synthesis.inj brought)
      exact draft?_of_decode success decoded
    | discover request => cases request <;> cases brought
    | _ => cases brought

/-! ## Charts in the reply to a load -/

/-- The data of a chart, if it bears a number: nothing stands for data that are absent. -/
def dataOf? (id : ChartId) (chart : Draft) : Option Draft :=
  match fields? "chart_id" "chart_data" chart with
  | some (some n, data) => if integer? n = some id then some (data.getD .null) else none
  | _ => none

/-- The data of the first chart of a number in the reply to a load. -/
def chartData? (id : ChartId) (reply : Draft) : Option Draft :=
  match fields? "dash" "charts" reply with
  | some (_, some (.array charts)) => charts.findSome? (dataOf? id)
  | _ => none

theorem dataOf?_of_chart? {draft : Draft} {chart : Chart} (read : chart? draft = some chart)
    (id : ChartId) :
    if chart.id = id then
      ∃ data, dataOf? id draft = some data ∧ data.valueWithin? dataDepth = some chart.payload
    else dataOf? id draft = none := by
  unfold chart? at read
  split at read
  · rename_i n data fields
    split at read
    · rename_i id' payload known value
      cases read
      have data_eq : dataOf? id draft = if id' = id then some (data.getD .null) else none := by
        simp only [dataOf?, fields, known, Option.some.injEq]
      rw [data_eq]
      split
      · exact ⟨_, rfl, value⟩
      · rfl
    · cases read
  · cases read

theorem findSome?_of_charts {drafts : List Draft} {charts : List Chart}
    (read : drafts.mapM chart? = some charts) {id : ChartId} {chart : Chart}
    (found : charts.find? (fun chart => chart.id == id) = some chart) :
    ∃ data, drafts.findSome? (dataOf? id) = some data ∧
      data.valueWithin? dataDepth = some chart.payload := by
  induction drafts generalizing charts with
  | nil =>
    cases read
    cases found
  | cons draft drafts ih =>
    rw [List.mapM_cons] at read
    obtain ⟨first, one, read⟩ := Option.bind_eq_some_iff.mp read
    obtain ⟨others, more, read⟩ := Option.bind_eq_some_iff.mp read
    cases read
    have known := dataOf?_of_chart? one id
    rw [List.find?_cons] at found
    rw [List.findSome?_cons]
    split at found
    · rename_i same
      cases found
      rw [if_pos (eq_of_beq same)] at known
      obtain ⟨data, here, value⟩ := known
      exact ⟨data, by rw [here], value⟩
    · rename_i other
      rw [if_neg (by simpa using other)] at known
      rw [known]
      exact ih more found

/-- The chart of a number in a context has the payload that the reply has for it. -/
theorem chartData?_of_context {reply : Draft} {ctx : SessionContext}
    (read : context? reply = some ctx) {id : ChartId} {chart : Chart}
    (found : ctx.chart? id = some chart) :
    ∃ data, chartData? id reply = some data ∧
      data.valueWithin? dataDepth = some chart.payload := by
  unfold context? at read
  unfold chartData?
  split at read
  · rename_i dash charts fields
    split at read
    · rename_i summary charts' _ items
      cases read
      rw [fields]
      cases charts with
      | none =>
        cases items
        cases found
      | some charts =>
        cases charts with
        | array drafts => exact findSome?_of_charts items found
        | _ => cases items
    · cases read
  · cases read

end Service

end AnalysisPanel
