import AnalysisPanel.Proofs.Service.Bodies
import AnalysisPanel.Proofs.Url.Form

/-! Requests as their receivers read them. The id of a session is the last pair of a query and only
that; whatever else a call brings stands in a body, each part of it under a key of its own. -/

namespace AnalysisPanel.Service

open Json Floating Text

variable {settings : Settings} {call : Call} {url : Url}

/-! ## Queries -/

/-- A session is asked for at the endpoint, its own query kept, by one more pair that is the id
itself. Nothing is written for it that could end the query. -/
theorem session_id_stays_in_pair {session : SessionId}
    (parsed : Url.parse settings.endpoints.sessionInfo = .ok url) :
    ∃ r, request? settings (.loadSession session) = .ok r ∧
      (∀ leaving, sent settings (.loadSession session) = some leaving → leaving = r) ∧
      r.method = .get ∧ r.body = none ∧
      r.url.scheme = url.scheme ∧ r.url.host = url.host ∧ r.url.port = url.port ∧
      r.url.path = url.path ∧ r.url = { url with query := r.url.query } ∧
      r.url.queryPairs = url.queryPairs ++ [("dash_id", session)] ∧
      ∃ added : List Char, r.url.query = some (url.query.getD "" ++ String.ofList added) ∧
        ∀ c ∈ added, c = '&' ∨ c = '=' ∨ Url.IsFormChar c := by
  have posed : request? settings (.loadSession session) = .ok _ := request?_of_parses parsed
  refine ⟨_, posed, fun leaving leaves => ?_, rfl, rfl, rfl, rfl, rfl, rfl, rfl,
    url.queryPairs_addPair "dash_id" session, url.query_addPair "dash_id" session⟩
  rw [(request?_of_sent leaves).1] at posed
  exact Except.ok.inj posed

/-- An endpoint with a query of its own, and an id that is full of marks. -/
theorem session_id_stays_in_pair_marked :
    let settings : Settings :=
      { endpoints := { Endpoints.loopback with sessionInfo := "http://[::1]/?dash_id=1&b&#c" } }
    ∃ r, request? settings (.loadSession "&x=1+%26#\x00 é") = .ok r ∧
      r.url.queryPairs = [("dash_id", "1"), ("b", ""), ("dash_id", "&x=1+%26#\x00 é")] := by
  intro settings
  have pairs : (Url.parse settings.endpoints.sessionInfo).toOption.map Url.queryPairs =
      some [("dash_id", "1"), ("b", "")] := by decide +kernel
  cases parsed : Url.parse settings.endpoints.sessionInfo with
  | error reason =>
    rw [parsed] at pairs
    cases pairs
  | ok url =>
    rw [parsed] at pairs
    obtain ⟨r, posed, -, -, -, -, -, -, -, -, query, -⟩ :=
      @session_id_stays_in_pair settings url "&x=1+%26#\x00 é" parsed
    refine ⟨r, posed, ?_⟩
    rw [query, Option.some.inj pairs]
    rfl

/-! ## Parts of bodies -/

/-- A finite number of thirty-two bits. -/
def IsSingle (x : Floating.Number) : Prop :=
  ∃ y, x = .finite y ∧ Format.single.Normal y.significand y.exponent

/-- Reads a number in the thirty-two bits in which it is set. -/
def parameter? : Document → Option Floating.Number
  | .number lit => some (Format.single.nearestTo lit)
  | _ => none

theorem parameter?_parameter {x : Floating.Number} (single : IsSingle x) :
    parameter? (parameter x) = some x := by
  obtain ⟨y, rfl, normal⟩ := single
  exact congrArg some (legible_single.nearestTo_shortest samplingLayout normal)

/-- Reads a number without sign, point and exponent. -/
def count? : Document → Option ℕ
  | .number ⟨false, whole, [], none⟩ => digits? whole
  | _ => none

theorem count?_count (n : ℕ) : count? (count n) = some n := digits?_digitsText n

/-- A list is read back if each of its items is. -/
theorem items?_map {α : Type} {read : Document → Option α} {write : α → Document}
    (back : ∀ a, read (write a) = some a) (items : List α) :
    items? read (.array (items.map write)) = some items := by
  rw [items?]
  induction items with
  | nil => rfl
  | cons a items ih =>
    rw [List.map_cons, List.mapM_cons, back, ih]
    rfl

/-- Reads a list of texts. -/
def texts? : Document → Option (List String) := items? Json.string?

theorem texts?_texts (items : List String) : texts? (texts items) = some items := by
  have back (s : String) : Json.string? (.string s : Document) = some s := rfl
  exact items?_map back items

/-- An object in which only known keys stand, none of them twice. -/
def Closed (keys : List String) : Document → Prop
  | .object fields => (fields.map (·.1)).Nodup ∧ ∀ key ∈ fields.map (·.1), key ∈ keys
  | _ => False

instance (keys : List String) (doc : Document) : Decidable (Closed keys doc) :=
  match doc with
  | .object _ => inferInstanceAs (Decidable (_ ∧ _))
  | .null | .bool _ | .number _ | .string _ | .array _ => inferInstanceAs (Decidable False)

/-- Reads a turn of a conversation. -/
def turn? (doc : Document) : Option HistoryTurn :=
  if Closed ["role", "content"] doc then do
    let role ← (Json.field? "role" doc).bind Json.string?
    let content ← (Json.field? "content" doc).bind Json.string?
    some ⟨role, content⟩
  else none

/-- Reads the turns of a conversation. -/
def turns? : Document → Option (List HistoryTurn) := items? turn?

theorem turns?_turns (history : List HistoryTurn) : turns? (turns history) = some history := by
  refine items?_map (fun turn => ?_) history
  rw [turn?, if_pos (show Closed _ _ from by simp [Closed])]
  rfl

/-- The database as it is named to others: a password that is not set is the empty one. -/
def DataSource.named (d : DataSource) : DataSource :=
  { d with password := some (d.password.getD "") }

theorem document_named (d : DataSource) : d.named.document = d.document := rfl

theorem named_named (d : DataSource) : d.named.named = d.named := rfl

/-- Reads a database. -/
def dataSource? (doc : Document) : Option DataSource :=
  if Closed ["host", "post", "name", "user", "password"] doc then do
    let host ← (Json.field? "host" doc).bind Json.string?
    let port ← (Json.field? "post" doc).bind Json.string?
    let name ← (Json.field? "name" doc).bind Json.string?
    let user ← (Json.field? "user" doc).bind Json.string?
    let password ← (Json.field? "password" doc).bind Json.string?
    some ⟨host, port, name, user, some password⟩
  else none

theorem dataSource?_document (d : DataSource) : dataSource? d.document = some d.named := by
  rw [dataSource?, if_pos (show Closed _ _ from by simp [Closed, DataSource.document])]
  rfl

/-! ## Contents of bodies -/

/-- What a body says, under each of the keys that the services know. -/
structure Content where
  indexList : Option (List String) := none
  prompt : Option String := none
  history : Option (List HistoryTurn) := none
  database : Option DataSource := none
  temperature : Option Floating.Number := none
  maxTokens : Option ℕ := none
  topP : Option Floating.Number := none
  stop : Option (List String) := none
  table : Option Value := none
  dashId : Option String := none
  extra : Option (List HistoryTurn) := none

/-- A part that may be absent. -/
def part {α : Type} (key : String) (write : α → Document) (value : Option α) :
    List (String × Document) := (value.map fun a => (key, write a)).toList

namespace Content

/-- The keys, in their order, and whether each of them stands in the body. -/
def present (c : Content) : List (String × Bool) :=
  [("index_list", c.indexList.isSome), ("prompt", c.prompt.isSome), ("history", c.history.isSome),
    ("database", c.database.isSome), ("temperature", c.temperature.isSome),
    ("max_tokens", c.maxTokens.isSome), ("top_p", c.topP.isSome), ("stop", c.stop.isSome),
    ("table", c.table.isSome), ("dash_id", c.dashId.isSome), ("extra", c.extra.isSome)]

/-- The keys that stand in the body. -/
def keys (c : Content) : List String := (c.present.filter (·.2)).map (·.1)

/-- Every key that is known. -/
def known : List String := (present {}).map (·.1)

/-- The fields of a body that says so. -/
def fields (c : Content) : List (String × Document) :=
  List.flatten [part "index_list" texts c.indexList, part "prompt" .string c.prompt,
    part "history" turns c.history, part "database" DataSource.document c.database,
    part "temperature" parameter c.temperature, part "max_tokens" count c.maxTokens,
    part "top_p" parameter c.topP, part "stop" texts c.stop,
    part "table" Value.document c.table, part "dash_id" .string c.dashId,
    part "extra" turns c.extra]

end Content

/-- Reads a part that may be absent. -/
def optional? {α : Type} (read : Document → Option α) : Option Document → Option (Option α)
  | none => some none
  | some doc => (read doc).map some

/-- Reads a body, if every part of it is known and stands once. -/
def Content.read? (doc : Document) : Option Content :=
  if Closed Content.known doc then do
    let indexList ← optional? texts? (Json.field? "index_list" doc)
    let prompt ← optional? Json.string? (Json.field? "prompt" doc)
    let history ← optional? turns? (Json.field? "history" doc)
    let database ← optional? dataSource? (Json.field? "database" doc)
    let temperature ← optional? parameter? (Json.field? "temperature" doc)
    let maxTokens ← optional? count? (Json.field? "max_tokens" doc)
    let topP ← optional? parameter? (Json.field? "top_p" doc)
    let stop ← optional? texts? (Json.field? "stop" doc)
    let table ← optional? Document.denoted (Json.field? "table" doc)
    let dashId ← optional? Json.string? (Json.field? "dash_id" doc)
    let extra ← optional? turns? (Json.field? "extra" doc)
    some ⟨indexList, prompt, history, database, temperature, maxTokens, topP, stop, table, dashId,
      extra⟩
  else none

/-! ### Reading them back -/

section Parts

variable {α : Type} {key other : String} {write : α → Document}

theorem keys_part (value : Option α) :
    (part key write value).map (·.1) = if value.isSome then [key] else [] := by
  cases value <;> rfl

theorem field?_part_append (value : Option α) (rest : List (String × Document)) :
    Json.field? key (.object (part other write value ++ rest)) =
      if other = key then (value.map write).or (Json.field? key (.object rest))
      else Json.field? key (.object rest) := by
  cases value with
  | none => simp [part]
  | some a =>
    by_cases same : other = key
    · simp [part, Json.field?, same]
    · simp [part, Json.field?, same]

theorem optional?_map {read : Document → Option α} {value : Option α}
    (back : ∀ a ∈ value, read (write a) = some a) :
    optional? read (value.map write) = some value := by
  cases value with
  | none => rfl
  | some a => exact congrArg (Option.map some) (back a rfl)

end Parts

namespace Content

variable {c : Content}

theorem keys_fields (c : Content) : c.fields.map (·.1) = c.keys := by
  have head (key : String) (stands : Bool) (rest : List (String × Bool)) :
      (((key, stands) :: rest).filter (·.2)).map (·.1) =
        (if stands then [key] else []) ++ (rest.filter (·.2)).map (·.1) := by
    cases stands <;> rfl
  simp only [fields, keys, present, List.flatten_cons, List.flatten_nil, List.map_append, keys_part,
    head, List.filter_nil, List.map_nil]

theorem nodup_keys (c : Content) : c.keys.Nodup := by
  have sub : c.keys.Sublist known := List.filter_sublist.map _
  exact sub.nodup (by decide)

theorem closed_fields (c : Content) : Closed known (.object c.fields) := by
  rw [Closed, keys_fields]
  exact ⟨c.nodup_keys, fun key => (List.filter_sublist.map _).mem⟩

/-- The parts of a body are numbers, values and databases as they can be written. -/
structure Legible (c : Content) : Prop where
  temperature : ∀ x ∈ c.temperature, IsSingle x
  topP : ∀ x ∈ c.topP, IsSingle x
  table : ∀ v ∈ c.table, v.Canonical Number.Proper
  database : ∀ d ∈ c.database, d.named = d

/-- A body is read as what it was to say. -/
theorem read?_fields (legible : c.Legible) : read? (.object c.fields) = some c := by
  have text (s : String) : Json.string? (.string s : Document) = some s := rfl
  have nothing (key : String) : Json.field? key (.object [] : Document) = none := rfl
  have temperature := optional?_map fun x hx => parameter?_parameter (legible.temperature x hx)
  have topP := optional?_map fun x hx => parameter?_parameter (legible.topP x hx)
  have table := optional?_map fun v hv => denoted_document (legible.table v hv)
  have database : optional? dataSource? (c.database.map DataSource.document) = some c.database :=
    optional?_map fun d hd => (dataSource?_document d).trans (congrArg some (legible.database d hd))
  rw [read?, if_pos c.closed_fields]
  simp only [fields, List.flatten_cons, List.flatten_nil, field?_part_append, nothing,
    String.reduceEq, if_true, if_false, Option.or_none]
  simp only [optional?_map fun a _ => texts?_texts a, optional?_map fun a _ => turns?_turns a,
    optional?_map fun a _ => count?_count a, optional?_map fun a _ => text a, temperature, topP,
    table, database]
  rfl

end Content

/-! ## What is posted -/

/-- A body that also says how a model samples; what is not set is absent. -/
def Content.sampled (c : Content) (s : Sampling) : Content :=
  { c with
    temperature := some s.temperature
    maxTokens := s.maxTokens
    topP := s.topP
    stop := if s.stop = [] then none else some s.stop }

/-- The endpoint at which a call is posted, and what is to stand in its body. -/
def posting? (settings : Settings) : Call → Option (String × Content)
  | .discover (.candidates prompt history) =>
    let content : Content := { prompt := some prompt, history := some history }
    some (settings.endpoints.discover, content.sampled settings.sampling.discover)
  | .discover (.analysis prompt history scope) =>
    let content : Content :=
      { prompt := some prompt, history := some history, table := some scope }
    some (settings.endpoints.analyse, content.sampled settings.sampling.analyse)
  | .synthesize (.selection labels) =>
    let content : Content :=
      { indexList := some labels, database := some settings.dataSource.named }
    some (settings.endpoints.synthesizeSelection,
      content.sampled settings.sampling.synthesizeSelection)
  | .synthesize (.prompt prompt) =>
    let content : Content := { prompt := some prompt, database := some settings.dataSource.named }
    some (settings.endpoints.synthesizePrompt, content.sampled settings.sampling.synthesizePrompt)
  | .generateReport session extra =>
    some (settings.endpoints.report, { dashId := some session, extra := some extra })
  | .loadSession _ | .deliver _ => none

/-- Sampling parameters that are finite numbers. -/
structure Sampling.Finite (s : Sampling) : Prop where
  temperature : IsSingle s.temperature
  topP : ∀ x ∈ s.topP, IsSingle x

/-- Every number of a profile is finite. -/
structure SamplingProfile.Finite (p : SamplingProfile) : Prop where
  discover : p.discover.Finite
  analyse : p.analyse.Finite
  synthesizeSelection : p.synthesizeSelection.Finite
  synthesizePrompt : p.synthesizePrompt.Finite

variable {endpoint : String} {content : Content}

theorem endpoint_of_posting? (posts : posting? settings call = some (endpoint, content)) :
    endpoint = settings.endpoints.url call.purpose := by
  cases call with
  | loadSession session => cases posts
  | discover request => cases request <;> cases posts <;> rfl
  | synthesize request => cases request <;> cases posts <;> rfl
  | deliver payload => cases posts
  | generateReport session extra => cases posts; rfl

theorem fields_eq_parts (s : Sampling) : s.fields =
    part "temperature" parameter (some s.temperature) ++ part "max_tokens" count s.maxTokens ++
      part "top_p" parameter s.topP ++
        part "stop" texts (if s.stop = [] then none else some s.stop) := by
  obtain ⟨temperature, maxTokens, topP, stop⟩ := s
  cases stop <;> rfl

theorem body?_of_posting? (posts : posting? settings call = some (endpoint, content)) :
    body? settings call = some (.object content.fields) := by
  cases call with
  | loadSession session => cases posts
  | discover request =>
    cases request with
    | candidates prompt history =>
      cases posts
      simp [body?, Content.fields, Content.sampled, fields_eq_parts, part]
    | analysis prompt history scope =>
      cases posts
      simp [body?, Content.fields, Content.sampled, fields_eq_parts, part]
  | synthesize request =>
    cases request with
    | selection labels =>
      cases posts
      simp [body?, Content.fields, Content.sampled, fields_eq_parts, part, document_named]
    | prompt prompt =>
      cases posts
      simp [body?, Content.fields, Content.sampled, fields_eq_parts, part, document_named]
  | deliver payload => cases posts
  | generateReport session extra => cases posts; rfl

theorem Content.Legible.sampled {s : Sampling} (finite : s.Finite)
    (table : ∀ v ∈ content.table, v.Canonical Number.Proper)
    (database : ∀ d ∈ content.database, d.named = d) : (content.sampled s).Legible where
  temperature := by
    rintro _ ⟨⟩
    exact finite.temperature
  topP := finite.topP
  table := table
  database := database

theorem legible_of_posting? (finite : settings.sampling.Finite)
    (proper : ∀ scope ∈ call.scope?, scope.Canonical Number.Proper)
    (posts : posting? settings call = some (endpoint, content)) : content.Legible := by
  have named : ∀ d ∈ some settings.dataSource.named, d.named = d := by
    rintro _ ⟨⟩
    exact named_named settings.dataSource
  cases call with
  | loadSession session => cases posts
  | discover request =>
    cases request with
    | candidates prompt history =>
      cases posts
      exact .sampled finite.discover nofun nofun
    | analysis prompt history scope =>
      cases posts
      exact .sampled finite.analyse proper nofun
  | synthesize request =>
    cases request with
    | selection labels =>
      cases posts
      exact .sampled finite.synthesizeSelection nofun named
    | prompt prompt =>
      cases posts
      exact .sampled finite.synthesizePrompt nofun named
  | deliver payload => cases posts
  | generateReport session extra =>
    cases posts
    exact ⟨nofun, nofun, nofun, nofun⟩

/-- The call that a body is of. -/
def Content.call? : Content → Option Call
  | { dashId := some session, extra := some extra, .. } => some (.generateReport session extra)
  | { indexList := some labels, .. } => some (.synthesize (.selection labels))
  | { prompt := some prompt, history := some history, table := some scope, .. } =>
    some (.discover (.analysis prompt history scope))
  | { prompt := some prompt, history := some history, .. } =>
    some (.discover (.candidates prompt history))
  | { prompt := some prompt, .. } => some (.synthesize (.prompt prompt))
  | _ => none

theorem call?_of_posting? (posts : posting? settings call = some (endpoint, content)) :
    content.call? = some call := by
  cases call with
  | loadSession session => cases posts
  | discover request => cases request <;> cases posts <;> rfl
  | synthesize request => cases request <;> cases posts <;> rfl
  | deliver payload => cases posts
  | generateReport session extra => cases posts; rfl

/-- What is posted is read from the octets of its body. -/
theorem read?_of_posting? (finite : settings.sampling.Finite)
    (proper : ∀ scope ∈ call.scope?, scope.Canonical Number.Proper)
    (posts : posting? settings call = some (endpoint, content)) :
    (Reader.unbounded? (Utf8.ofString (print (.object content.fields)))).bind Content.read? =
      some content := by
  obtain ⟨depth, within⟩ := exists_within_body? _ (body?_of_posting? posts)
  rw [Reader.unbounded?_print within, Option.bind_some]
  exact Content.read?_fields (legible_of_posting? finite proper posts)

theorem requestTo_of_posting? (posts : posting? settings call = some (endpoint, content))
    (url : Url) : requestTo settings call url = ⟨.post, url, some (.object content.fields)⟩ := by
  rw [← body?_of_posting? posts]
  cases call with
  | loadSession session => cases posts
  | _ => rfl

/-- Bodies keep what they are made of. A call is posted at the endpoint of its own operation, and
its body is read as what the call, the data source and the sampling of that operation say, each part
under its key and no other key beside them. So a body tells which call it is of. -/
theorem bodies_keep_inputs (finite : settings.sampling.Finite) :
    (∀ call endpoint content url, posting? settings call = some (endpoint, content) →
      (∀ scope ∈ call.scope?, scope.Canonical Number.Proper) → Url.parse endpoint = .ok url →
      ∃ r fields, request? settings call = .ok r ∧ r.method = .post ∧ r.url = url ∧
        r.body = some (.object fields) ∧ fields.map (·.1) = content.keys ∧
        (fields.map (·.1)).Nodup ∧
        (Reader.unbounded? (Utf8.ofString (print (.object fields)))).bind Content.read? =
          some content) ∧
    ∀ call other r r', (posting? settings call).isSome → (posting? settings other).isSome →
      (∀ scope ∈ call.scope?, scope.Canonical Number.Proper) →
      (∀ scope ∈ other.scope?, scope.Canonical Number.Proper) →
      request? settings call = .ok r → request? settings other = .ok r' →
      r.body.map print = r'.body.map print → call = other := by
  constructor
  · intro call endpoint content url posts proper parsed
    obtain rfl := endpoint_of_posting? posts
    have posed := request?_of_parses parsed
    rw [requestTo_of_posting? posts] at posed
    have keys := content.keys_fields
    exact ⟨_, content.fields, posed, rfl, rfl, rfl, keys, keys ▸ content.nodup_keys,
      read?_of_posting? finite proper posts⟩
  · intro call other r r' posts posts' proper proper' posed posed' same
    obtain ⟨⟨endpoint, content⟩, posts⟩ := Option.isSome_iff_exists.mp posts
    obtain ⟨⟨endpoint', content'⟩, posts'⟩ := Option.isSome_iff_exists.mp posts'
    rw [body_of_request? posed, body_of_request? posed', body?_of_posting? posts,
      body?_of_posting? posts'] at same
    have read := read?_of_posting? finite proper posts
    rw [Option.some.inj same, read?_of_posting? finite proper' posts'] at read
    cases Option.some.inj read
    have one := (call?_of_posting? posts).symm.trans (call?_of_posting? posts')
    exact Option.some.inj one

theorem isSingle_hundredths {n : ℕ} {x : Finite} (number : hundredths n = .finite x) :
    IsSingle (hundredths n) :=
  ⟨x, number, Format.normal_of_ofRatio (by decide) (by decide) (by decide) number⟩

/-- The parameters that stand without a configuration are finite. -/
theorem finite_default : ({} : SamplingProfile).Finite := by
  have tenth := isSingle_hundredths (show hundredths 10 = .finite ⟨false, 13421773, -27⟩ by decide)
  have most := isSingle_hundredths (show hundredths 90 = .finite ⟨false, 15099494, -24⟩ by decide)
  have nearly := isSingle_hundredths (show hundredths 95 = .finite ⟨false, 15938355, -24⟩ by decide)
  have one := isSingle_hundredths (show hundredths 100 = .finite ⟨false, 8388608, -23⟩ by decide)
  have topP : ∀ x ∈ some (hundredths 95), IsSingle x := by
    rintro _ ⟨⟩
    exact nearly
  exact ⟨⟨most, nofun⟩, ⟨one, topP⟩, ⟨tenth, topP⟩, ⟨tenth, nofun⟩⟩

/-- A question about a number, with the parameters that stand without a configuration. -/
theorem bodies_keep_inputs_analysis :
    let settings : Settings :=
      { endpoints := { Endpoints.loopback with analyse := "http://[::1]" } }
    ∃ r fields content, request? settings (.discover (.analysis "why" [.user "a"] .null)) = .ok r ∧
      r.body = some (.object fields) ∧
      (Reader.unbounded? (Utf8.ofString (print (.object fields)))).bind Content.read? =
        some content ∧
      content.prompt = some "why" ∧ fields.map (·.1) =
        ["prompt", "history", "temperature", "max_tokens", "top_p", "table"] := by
  intro settings
  have parses : (Url.parse settings.endpoints.analyse).toOption.isSome := by decide +kernel
  cases parsed : Url.parse settings.endpoints.analyse with
  | error reason =>
    rw [parsed] at parses
    cases parses
  | ok url =>
    have table : ∀ scope ∈ some (.null : Value), scope.Canonical Number.Proper := by
      rintro _ ⟨⟩
      exact .null
    obtain ⟨r, fields, posed, -, -, body, keys, -, read⟩ := (bodies_keep_inputs finite_default).1
      (.discover (.analysis "why" [.user "a"] .null)) _ _ url rfl table parsed
    exact ⟨r, fields, _, posed, body, read, rfl, keys⟩

end AnalysisPanel.Service
