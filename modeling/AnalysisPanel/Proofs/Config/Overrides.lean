import Mathlib.Logic.Relation
import AnalysisPanel.Proofs.Config.Endpoints
import AnalysisPanel.Proofs.Fields
import AnalysisPanel.Proofs.Text.Utf8

/-! Configurations that name some fields only. Each field that is named has the value it is given,
each other one that of the configuration without a file; in which order they stand does not matter,
and none that is known may stand twice. -/

namespace AnalysisPanel.Config

open Service Reader Relation

variable {α : Type} {ext : Extensions} {name key : String} {t u : Term}
  {fields others : List (String × Term)}

/-! ## Records -/

/-- A term that is a record of a name, with its fields. -/
inductive IsRecord (ext : Extensions) (name : String) : Term → List (String × Term) → Prop where
  | fields {written : Option String} {fields : List (String × Term)}
      (named : namedAs ext name written = true) : IsRecord ext name (.record written fields) fields
  | empty {written : Option String} (named : namedAs ext name written = true) :
      IsRecord ext name (.tuple written []) []

/-- A term that a reader takes for a value. -/
def Reads (read : Term → Option α) (t : Term) (value : α) : Prop := read t = some value

/-- What a field comes to: the value it is given if it is named, and else the one it has if it is
missing. -/
inductive Given (fields : List (String × Term)) (key : String) (R : Term → α → Prop) (missing : α) :
    α → Prop where
  | named {t : Term} {value : α} (holds : Holds fields key (some t)) (means : R t value) :
      Given fields key R missing value
  | unnamed (holds : Holds fields key none) : Given fields key R missing missing

/-- A record whose fields give a value. -/
def ReadsRecord (ext : Extensions) (name : String) (G : List (String × Term) → α → Prop) (t : Term)
    (value : α) : Prop :=
  ∃ fields, IsRecord ext name t fields ∧ G fields value

/-- The only one of some results, another one if there is none, and none if there are more. -/
def sole (missing : Option α) : List (Option α) → Option α
  | [] => missing
  | [result] => result
  | _ => none

theorem field?_eq_sole (read : Term → Option α) :
    field? fields key read =
      sole none ((fields.filter fun f => f.1 == key).map fun f => read f.2) := by
  unfold field?
  generalize fields.filter (fun f => f.1 == key) = found
  match found with
  | [] | [_] | _ :: _ :: _ => rfl

theorem sole_of_holds {missing : Option α} {value? : Option Term} (holds : Holds fields key value?)
    (read : Term → Option α) :
    sole missing ((fields.filter fun f => f.1 == key).map fun f => read f.2) =
      value?.elim missing read := by
  rw [holds_iff.mp holds]
  cases value? <;> rfl

theorem once_of_sole {missing : Option α} {read : Term → Option α} {value : α}
    (found : sole missing ((fields.filter fun f => f.1 == key).map fun f => read f.2) =
      some value) : Once key fields := by
  rw [once_iff_length]
  generalize fields.filter (fun f => f.1 == key) = list at found ⊢
  match list with
  | [] | [_] => simp
  | _ :: _ :: _ => cases found

variable {R : Term → α → Prop} {read : Term → Option α} {value missing : α}

theorem field?_eq_some_iff (reads : ∀ t value, read t = some value ↔ R t value) :
    field? fields key read = some value ↔ ∃ t, Holds fields key (some t) ∧ R t value := by
  rw [field?_eq_sole]
  constructor
  · intro found
    obtain ⟨value?, holds⟩ := once_iff_exists.mp (once_of_sole found)
    rw [sole_of_holds holds] at found
    cases value? with
    | none => cases found
    | some t => exact ⟨t, holds, (reads t value).mp found⟩
  · rintro ⟨t, holds, means⟩
    rw [sole_of_holds holds]
    exact (reads t value).mpr means

theorem reads_iff (t : Term) (value : α) : read t = some value ↔ Reads read t value := Iff.rfl

/-! ## What a configuration says -/

/-- The configuration without a file. -/
def start : Configuration := {}

/-- The fields of endpoints. -/
def EndpointsGiven (fields : List (String × Term)) (e : Endpoints) : Prop :=
  ∀ p : Purpose, Given fields p.name (Reads text?) (start.endpoints.url p) (e.url p)

/-- The fields of a sampling entry, which is taken as a whole. -/
structure SamplingGiven (ext : Extensions) (fields : List (String × Term)) (s : Sampling) :
    Prop where
  temperature : ∃ t, Holds fields "temperature" (some t) ∧ Reads parameter? t s.temperature
  maxTokens : Given fields "max_tokens" (Reads (optional? ext (count? 32))) none s.maxTokens
  topP : Given fields "top_p" (Reads (optional? ext parameter?)) none s.topP
  stop : Given fields "stop" (Reads texts?) [] s.stop

/-- A sampling entry. -/
abbrev ReadsSampling (ext : Extensions) : Term → Sampling → Prop :=
  ReadsRecord ext "SamplingParams" (SamplingGiven ext)

/-- The fields of a sampling profile. -/
structure ProfileGiven (ext : Extensions) (fields : List (String × Term)) (p : SamplingProfile) :
    Prop where
  discover : Given fields "discover" (ReadsSampling ext) start.sampling.discover p.discover
  analyse : Given fields "analyse" (ReadsSampling ext) start.sampling.analyse p.analyse
  synthesizeSelection : Given fields "synthesize_selection" (ReadsSampling ext)
    start.sampling.synthesizeSelection p.synthesizeSelection
  synthesizePrompt : Given fields "synthesize_prompt" (ReadsSampling ext)
    start.sampling.synthesizePrompt p.synthesizePrompt

/-- The fields of a data source. -/
structure SourceGiven (ext : Extensions) (fields : List (String × Term)) (d : DataSourceEntry) :
    Prop where
  host : Given fields "host" (Reads text?) start.dataSource.host d.host
  port : Given fields "port" (Reads text?) start.dataSource.port d.port
  name : Given fields "name" (Reads text?) start.dataSource.name d.name
  user : Given fields "user" (Reads text?) start.dataSource.user d.user
  passwordVariable : Given fields "password_env" (Reads (optional? ext text?))
    start.dataSource.passwordVariable d.passwordVariable

/-- The fields of a configuration. -/
structure ConfigurationGiven (ext : Extensions) (fields : List (String × Term))
    (c : Configuration) : Prop where
  variant : Given fields "variant" (Reads (choice? variants)) start.variant c.variant
  log : Given fields "log" (Reads (choice? destinations)) start.log c.log
  downloads : Given fields "download_dir" (Reads text?) start.downloads c.downloads
  endpoints : Given fields "endpoints" (ReadsRecord ext "Endpoints" EndpointsGiven)
    start.endpoints c.endpoints
  sampling : Given fields "sampling" (ReadsRecord ext "SamplingProfile" (ProfileGiven ext))
    start.sampling c.sampling
  dataSource : Given fields "data_source" (ReadsRecord ext "DataSourceConfig" (SourceGiven ext))
    start.dataSource c.dataSource
  connectTimeout : Given fields "connect_timeout_secs" (Reads (count? 64)) start.connectTimeout
    c.connectTimeout
  requestTimeout : Given fields "request_timeout_secs" (Reads (count? 64)) start.requestTimeout
    c.requestTimeout
  reportMaxBytes : Given fields "report_max_bytes" (Reads (count? 64)) start.reportMaxBytes
    c.reportMaxBytes

/-- A configuration. -/
abbrev ReadsConfiguration (ext : Extensions) : Term → Configuration → Prop :=
  ReadsRecord ext "AppConfig" (ConfigurationGiven ext)

/-- A known field stands at most once, and if so with a value of its type. -/
structure Fits (fields : List (String × Term)) (key : String) (P : Term → Prop) : Prop where
  once : Once key fields
  typed : ∀ t, (key, t) ∈ fields → P t

/-- A term that some value is read from. -/
def Typed (read : Term → Option α) (t : Term) : Prop := ∃ value, Reads read t value

/-- A record whose fields have a form. -/
def RecordForm (ext : Extensions) (name : String) (F : List (String × Term) → Prop) (t : Term) :
    Prop :=
  ∃ fields, IsRecord ext name t fields ∧ F fields

/-- Fields that are those of endpoints. -/
def EndpointsForm (fields : List (String × Term)) : Prop :=
  ∀ p : Purpose, Fits fields p.name (Typed text?)

/-- Fields that are those of a sampling entry, which must have a temperature. -/
structure SamplingForm (ext : Extensions) (fields : List (String × Term)) : Prop where
  heated : ∃ t, ("temperature", t) ∈ fields
  temperature : Fits fields "temperature" (Typed parameter?)
  maxTokens : Fits fields "max_tokens" (Typed (optional? ext (count? 32)))
  topP : Fits fields "top_p" (Typed (optional? ext parameter?))
  stop : Fits fields "stop" (Typed texts?)

/-- Fields that are those of a sampling profile. -/
structure ProfileForm (ext : Extensions) (fields : List (String × Term)) : Prop where
  discover : Fits fields "discover" (RecordForm ext "SamplingParams" (SamplingForm ext))
  analyse : Fits fields "analyse" (RecordForm ext "SamplingParams" (SamplingForm ext))
  synthesizeSelection :
    Fits fields "synthesize_selection" (RecordForm ext "SamplingParams" (SamplingForm ext))
  synthesizePrompt :
    Fits fields "synthesize_prompt" (RecordForm ext "SamplingParams" (SamplingForm ext))

/-- Fields that are those of a data source. -/
structure SourceForm (ext : Extensions) (fields : List (String × Term)) : Prop where
  host : Fits fields "host" (Typed text?)
  port : Fits fields "port" (Typed text?)
  name : Fits fields "name" (Typed text?)
  user : Fits fields "user" (Typed text?)
  passwordVariable : Fits fields "password_env" (Typed (optional? ext text?))

/-- Fields that are those of a configuration. -/
structure ConfigurationForm (ext : Extensions) (fields : List (String × Term)) : Prop where
  variant : Fits fields "variant" (Typed (choice? variants))
  log : Fits fields "log" (Typed (choice? destinations))
  downloads : Fits fields "download_dir" (Typed text?)
  endpoints : Fits fields "endpoints" (RecordForm ext "Endpoints" EndpointsForm)
  sampling : Fits fields "sampling" (RecordForm ext "SamplingProfile" (ProfileForm ext))
  dataSource : Fits fields "data_source" (RecordForm ext "DataSourceConfig" (SourceForm ext))
  connectTimeout : Fits fields "connect_timeout_secs" (Typed (count? 64))
  requestTimeout : Fits fields "request_timeout_secs" (Typed (count? 64))
  reportMaxBytes : Fits fields "report_max_bytes" (Typed (count? 64))

variable {P : Term → Prop} {F : List (String × Term) → Prop} {G : List (String × Term) → α → Prop}

theorem Given.fits (given : Given fields key R missing value)
    (values : ∀ t, (∃ value, R t value) ↔ P t) : Fits fields key P := by
  cases given with
  | @named t _ holds means =>
    refine ⟨holds.once, fun other mem => ?_⟩
    obtain rfl : t = other := Option.some.inj ((holds.mem_iff other).mp mem)
    exact (values t).mp ⟨value, means⟩
  | unnamed holds => exact ⟨holds.once, fun t mem => absurd ((holds.mem_iff t).mp mem) nofun⟩

theorem Fits.given (fits : Fits fields key P) (values : ∀ t, (∃ value, R t value) ↔ P t)
    (missing : α) : ∃ value, Given fields key R missing value := by
  obtain ⟨value?, holds⟩ := once_iff_exists.mp fits.once
  cases value? with
  | none => exact ⟨missing, .unnamed holds⟩
  | some t =>
    obtain ⟨value, means⟩ := (values t).mpr (fits.typed t ((holds.mem_iff t).mpr rfl))
    exact ⟨value, .named holds means⟩

/-- The names of the fields of endpoints. -/
def endpointKeys : List String := Purpose.all.map Purpose.name

/-- The names of the fields of a sampling entry. -/
def samplingKeys : List String := ["temperature", "max_tokens", "top_p", "stop"]

/-- The names of the fields of a sampling profile. -/
def profileKeys : List String :=
  ["discover", "analyse", "synthesize_selection", "synthesize_prompt"]

/-- The names of the fields of a data source. -/
def sourceKeys : List String := ["host", "port", "name", "user", "password_env"]

/-- The names of the fields of a configuration. -/
def configurationKeys : List String :=
  ["variant", "log", "download_dir", "endpoints", "sampling", "data_source",
    "connect_timeout_secs", "request_timeout_secs", "report_max_bytes"]

theorem EndpointsForm.once {fields : List (String × Term)} (form : EndpointsForm fields) :
    ∀ key ∈ endpointKeys, Once key fields :=
  List.forall_mem_map.mpr fun p _ => (form p).once

theorem SamplingForm.once {fields : List (String × Term)} (form : SamplingForm ext fields) :
    ∀ key ∈ samplingKeys, Once key fields := by
  simp only [samplingKeys, List.forall_mem_cons]
  exact ⟨form.temperature.once, form.maxTokens.once, form.topP.once, form.stop.once, nofun⟩

theorem ProfileForm.fits {fields : List (String × Term)} (form : ProfileForm ext fields) :
    ∀ key ∈ profileKeys, Fits fields key (RecordForm ext "SamplingParams" (SamplingForm ext)) := by
  simp only [profileKeys, List.forall_mem_cons]
  exact ⟨form.discover, form.analyse, form.synthesizeSelection, form.synthesizePrompt, nofun⟩

theorem SourceForm.once {fields : List (String × Term)} (form : SourceForm ext fields) :
    ∀ key ∈ sourceKeys, Once key fields := by
  simp only [sourceKeys, List.forall_mem_cons]
  exact ⟨form.host.once, form.port.once, form.name.once, form.user.once,
    form.passwordVariable.once, nofun⟩

theorem ConfigurationForm.once {fields : List (String × Term)}
    (form : ConfigurationForm ext fields) : ∀ key ∈ configurationKeys, Once key fields := by
  simp only [configurationKeys, List.forall_mem_cons]
  exact ⟨form.variant.once, form.log.once, form.downloads.once, form.endpoints.once,
    form.sampling.once, form.dataSource.once, form.connectTimeout.once, form.requestTimeout.once,
    form.reportMaxBytes.once, nofun⟩

variable {before after : List (String × Term)}

/-- Each endpoint that is named is a URL. -/
def EndpointsParse (ext : Extensions) (t : Term) : Prop :=
  ∀ fields, IsRecord ext "AppConfig" t fields → ∀ e, ("endpoints", e) ∈ fields →
    ∀ urls, IsRecord ext "Endpoints" e urls → ∀ (p : Purpose) (url : String),
      (p.name, .text url) ∈ urls → Parses url

theorem Given.mem_or_eq (given : Given fields key R missing value) :
    (∃ t, (key, t) ∈ fields ∧ R t value) ∨ value = missing := by
  cases given with
  | named holds means => exact .inl ⟨_, (holds.mem_iff _).mpr rfl, means⟩
  | unnamed holds => exact .inr rfl

theorem eq_text_of_reads {s : String} (reads : Reads text? t s) : t = .text s := by
  cases t with
  | text s' => exact congrArg Term.text (Option.some.inj reads)
  | _ => cases reads

/-- Where the endpoints that are named are URLs, all of them are. -/
theorem EndpointsParse.parses {c : Configuration} (parse : EndpointsParse ext t)
    (reads : ReadsConfiguration ext t c) (p : Purpose) : Parses (c.endpoints.url p) := by
  obtain ⟨fields, isRecord, given⟩ := reads
  rcases given.endpoints.mem_or_eq with ⟨e, mem, urls, named, each⟩ | same
  · rcases (each p).mem_or_eq with ⟨u, inside, text⟩ | same
    · cases eq_text_of_reads text
      exact parse fields isRecord e mem urls named p _ inside
    · rw [same]
      exact parses_loopback p
  · rw [same]
    exact parses_loopback p

variable {octets : Bytes} {cs : List Char}

end AnalysisPanel.Config
