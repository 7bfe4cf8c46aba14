import Mathlib
import AnalysisPanel.Panel.Step
import AnalysisPanel.Proofs.Fields
import AnalysisPanel.Proofs.Json.Reading
import AnalysisPanel.Proofs.Service.Stages
import AnalysisPanel.Proofs.Text.Numerals

/-! The answer to a load. It is read as a whole or not at all: each chart in it becomes a chart of
the context, in its place, and fields that are not known count for nothing, whatever stands in them.
Of an answer that has the form of a session only what is read or kept must spell a text. -/

namespace AnalysisPanel.Service

open Json (Draft Document Value Literal Number)

variable {fields parts : List (Option String × Draft)} {key other : String}
  {value? other? : Option Draft} {draft : Draft} {chart : Chart} {ctx : SessionContext}

/-! ## Records -/

/-- The name of each field spells a text. -/
def Named (fields : List (Option String × Draft)) : Prop := ∀ field ∈ fields, field.1.isSome = true

theorem single?_eq_some_iff :
    single? fields key = some value? ↔ Holds fields (some key) value? := by
  by_cases once : Once (some key) fields
  · obtain ⟨held, holds⟩ := once_iff_exists.mp once
    have found := holds_iff.mp holds
    have single : single? fields key = some held := by
      unfold single?
      rw [found]
      cases held <;> rfl
    rw [single, Option.some.injEq]
    exact ⟨fun same => same ▸ holds, holds.unique⟩
  · refine iff_of_false (fun single => ?_) fun holds => once holds.once
    rw [once_iff_length] at once
    unfold single? at single
    split at single
    · rename_i none
      exact once (by simp [none])
    · rename_i one
      exact once (by simp [one])
    · cases single

theorem record?_of_named {keys : List String} (named : Named fields) :
    record? keys (.object fields) = keys.mapM (single? fields) :=
  if_pos (List.all_eq_true.mpr named)

theorem record?_of_unnamed {keys : List String} (unnamed : ¬ Named fields) :
    record? keys (.object fields) = none :=
  if_neg fun named => unnamed (List.all_eq_true.mp named)

theorem field?_object_iff : field? key (.object fields) = some value? ↔
    Named fields ∧ Holds fields (some key) value? := by
  rw [← single?_eq_some_iff, field?]
  by_cases named : Named fields
  · rw [record?_of_named named]
    cases found : single? fields key <;> simp [named, found]
  · simp [record?_of_unnamed named, named]

theorem fields?_of_named (named : Named fields) :
    fields? key other (.object fields) = (single? fields key).bind fun value =>
      (single? fields other).map fun rest => (value, rest) := by
  rw [fields?, record?_of_named named]
  cases first : single? fields key <;> cases second : single? fields other <;>
    simp [first, second]

theorem fields?_of_unnamed (unnamed : ¬ Named fields) :
    fields? key other (.object fields) = none := by
  rw [fields?, record?_of_unnamed unnamed]

theorem fields?_object_iff : fields? key other (.object fields) = some (value?, other?) ↔
    Named fields ∧ Holds fields (some key) value? ∧ Holds fields (some other) other? := by
  rw [← single?_eq_some_iff, ← single?_eq_some_iff]
  by_cases named : Named fields
  · rw [fields?_of_named named]
    cases single? fields key <;> cases single? fields other <;> simp [named]
  · simp [fields?_of_unnamed named, named]

/-! ## Integers -/

/-- An integer as it is written: digits alone, with a minus before them unless they are zeros. -/
inductive Whole : Literal → ℤ → Prop where
  | plain {whole : List Char} {n : ℕ} (digits : Text.Digits whole n) :
      Whole ⟨false, whole, [], none⟩ n
  | minus {whole : List Char} {n : ℕ} (digits : Text.Digits whole n) (nonzero : n ≠ 0) :
      Whole ⟨true, whole, [], none⟩ (-n)

/-- A number that is written as an integer of 64 bits with its sign. -/
def IsInteger (draft : Draft) (x : Int64) : Prop :=
  ∃ lit n, draft = .number lit ∧ Whole lit n ∧ -(2 ^ 63) ≤ n ∧ n < 2 ^ 63 ∧ x = Int64.ofInt n

theorem integer?_eq_some_iff {x : Int64} : integer? draft = some x ↔ IsInteger draft x := by
  constructor
  · intro read
    unfold integer? at read
    split at read
    · rename_i lit
      obtain ⟨negative, whole, fraction, exponent⟩ := lit
      split at read
      · rename_i n bare plain found
        obtain rfl : fraction = [] := bare
        obtain rfl : exponent = none := plain
        have digits := Text.digits?_eq_some_iff.mp found
        split at read
        · rename_i nonzero
          obtain ⟨low, high, same⟩ := Text.toInt64?_eq_some_iff.mp read
          refine ⟨_, _, rfl, ?_, low, high, same⟩
          cases negative with
          | false => exact .plain digits
          | true => exact .minus digits (nonzero rfl)
        · cases read
      · cases read
    · cases read
  · rintro ⟨lit, n, rfl, written, low, high, same⟩
    have held := Text.toInt64?_eq_some_iff.mpr ⟨low, high, same⟩
    cases written with
    | plain digits => simpa [integer?, Text.digits?_eq_some_iff.mpr digits] using held
    | minus digits nonzero =>
      simpa [integer?, Text.digits?_eq_some_iff.mpr digits, nonzero] using held

/-! ## Charts -/

/-- The text under `sub_title` among the options of a chart's data. -/
def Subtitle (payload : Value) (title : String) : Prop :=
  ∃ fields opts, payload = .object fields ∧ ("opts", .object opts) ∈ fields ∧
    ("sub_title", .string title) ∈ opts

/-- A chart has the title in its data, or else one made from its number. -/
structure Titled (chart : Chart) : Prop where
  stated : ∀ title, Subtitle chart.payload title → chart.title = title
  numbered : (∀ title, ¬ Subtitle chart.payload title) →
    chart.title = "Chart " ++ toString chart.id

/-- The data of a chart, nothing if they are absent. -/
inductive ReadsPayload : Option Draft → Value → Prop where
  | absent : ReadsPayload none .null
  | present {data : Draft} {doc : Document} {payload : Value}
      (spelled : data.document? = some doc) (shallow : doc.levels ≤ dataDepth)
      (means : doc.value? = some payload) : ReadsPayload (some data) payload

/-- The fields of a chart. -/
structure ReadsChart (fields : List (Option String × Draft)) (chart : Chart) : Prop where
  named : Named fields
  id : ∃ n, Holds fields (some "chart_id") (some n) ∧ IsInteger n chart.id
  payload : ∃ data?, Holds fields (some "chart_data") data? ∧ ReadsPayload data? chart.payload
  titled : Titled chart

theorem field?_eq_some_iff {P : Number → Prop} {v w : Value} (canonical : v.Canonical P) :
    Json.field? key v = some w ↔ ∃ fields, v = .object fields ∧ (key, w) ∈ fields := by
  cases canonical with
  | object ordered _ => exact ordered.find?_iff.trans (by simp)
  | _ => exact iff_of_false nofun (by simp)

theorem string?_eq_some_iff {v : Value} {s : String} : Json.string? v = some s ↔ v = .string s := by
  cases v <;> simp [Json.string?]

theorem subtitle_iff {P : Number → Prop} {payload : Value} (canonical : payload.Canonical P)
    {title : String} : Subtitle payload title ↔
      ((Json.field? "opts" payload).bind (Json.field? "sub_title")).bind Json.string? =
        some title := by
  have options {fields : List (String × Value)} {w : Value} (c : (Json.object fields).Canonical P)
      (inside : ("opts", w) ∈ fields) : w.Canonical P := by
    cases c with
    | object _ each => exact each _ inside
  constructor
  · rintro ⟨fields, opts, rfl, inside, stated⟩
    have first := (field?_eq_some_iff canonical).mpr ⟨fields, rfl, inside⟩
    have second := (field?_eq_some_iff (options canonical inside)).mpr ⟨opts, rfl, stated⟩
    rw [first, Option.bind_some, second]
    rfl
  · intro found
    obtain ⟨w, found, text⟩ := Option.bind_eq_some_iff.mp found
    obtain ⟨o, first, second⟩ := Option.bind_eq_some_iff.mp found
    obtain ⟨fields, rfl, inside⟩ := (field?_eq_some_iff canonical).mp first
    obtain ⟨opts, rfl, stated⟩ := (field?_eq_some_iff (options canonical inside)).mp second
    obtain rfl := string?_eq_some_iff.mp text
    exact ⟨fields, opts, rfl, inside, stated⟩

theorem titled_iff {P : Number → Prop} (canonical : chart.payload.Canonical P) :
    Titled chart ↔ chart.title = chartTitle chart.id chart.payload := by
  have subtitle := @subtitle_iff P chart.payload canonical
  unfold chartTitle
  generalize ((Json.field? "opts" chart.payload).bind (Json.field? "sub_title")).bind
    Json.string? = found at subtitle ⊢
  cases found with
  | none =>
    have untitled (title : String) : ¬ Subtitle chart.payload title := fun has =>
      absurd (subtitle.mp has) nofun
    exact ⟨fun titled => titled.numbered untitled,
      fun made => ⟨fun title has => absurd has (untitled title), fun _ => made⟩⟩
  | some title =>
    have has : Subtitle chart.payload title := subtitle.mpr rfl
    refine ⟨fun titled => titled.stated title has, fun same => ⟨fun other stated => ?_, ?_⟩⟩
    · exact same.trans (Option.some.inj (subtitle.mp stated))
    · exact fun none => absurd has (none title)

theorem readsPayload_iff {payload : Value} :
    (value?.getD .null).valueWithin? dataDepth = some payload ↔ ReadsPayload value? payload := by
  rw [Json.valueWithin?_eq_some_iff]
  cases value? with
  | none =>
    refine ⟨fun ⟨doc, spelled, _, read⟩ => ?_, fun reads => ?_⟩
    · cases spelled
      cases read
      exact .absent
    · cases reads
      exact ⟨.null, rfl, Nat.zero_le _, rfl⟩
  | some data =>
    exact ⟨fun ⟨_, spelled, shallow, means⟩ => .present spelled shallow means,
      fun (.present spelled shallow means) => ⟨_, spelled, shallow, means⟩⟩

theorem chart?_object_iff : chart? (.object parts) = some chart ↔ ReadsChart parts chart := by
  constructor
  · intro read
    unfold chart? at read
    split at read
    · rename_i n data found
      obtain ⟨named, held, holds⟩ := fields?_object_iff.mp found
      split at read
      · rename_i id payload number kept
        cases read
        refine ⟨named, ⟨n, held, integer?_eq_some_iff.mp number⟩, ⟨data, holds, ?_⟩, ?_⟩
        · exact readsPayload_iff.mp kept
        · exact (titled_iff (Json.canonical_of_valueWithin? kept)).mpr rfl
      · cases read
    · cases read
  · rintro ⟨named, ⟨n, held, number⟩, ⟨data, holds, reads⟩, titled⟩
    have found := fields?_object_iff.mpr ⟨named, held, holds⟩
    have kept := readsPayload_iff.mpr reads
    have title := (titled_iff (Json.canonical_of_valueWithin? kept)).mp titled
    simp only [chart?, found, integer?_eq_some_iff.mpr number, kept, ← title]

/-! ## Sessions -/

/-- The summary in what stands for a dashboard, empty if there is none. -/
inductive ReadsSummary : Option Draft → String → Prop where
  | absent : ReadsSummary none ""
  | silent {parts : List (Option String × Draft)} (named : Named parts)
      (holds : Holds parts (some "dash_sum") none) : ReadsSummary (some (.object parts)) ""
  | stated {parts : List (Option String × Draft)} {text : String} (named : Named parts)
      (holds : Holds parts (some "dash_sum") (some (.string (some text)))) :
      ReadsSummary (some (.object parts)) text

/-- A chart that is written as an object. -/
def ReadsItem (item : Draft) (chart : Chart) : Prop :=
  ∃ parts, item = .object parts ∧ ReadsChart parts chart

/-- The charts in what stands for a list of them, one by one. -/
inductive ReadsCharts : Option Draft → List Chart → Prop where
  | absent : ReadsCharts none []
  | listed {items : List Draft} {charts : List Chart}
      (each : List.Forall₂ ReadsItem items charts) : ReadsCharts (some (.array items)) charts

/-- The fields of an answer to a load. -/
structure ReadsSession (fields : List (Option String × Draft)) (ctx : SessionContext) : Prop where
  named : Named fields
  summary : ∃ dash?, Holds fields (some "dash") dash? ∧ ReadsSummary dash? ctx.summary
  charts : ∃ charts?, Holds fields (some "charts") charts? ∧ ReadsCharts charts? ctx.charts

/-- No record in an answer is written as the list of its fields. -/
structure ByName (fields : List (Option String × Draft)) : Prop where
  dash : ∀ items, (some "dash", .array items) ∉ fields
  charts : ∀ items, (some "charts", .array items) ∈ fields → ∀ parts, .array parts ∉ items

theorem text?_eq_some_iff {text : String} :
    draft.text? = some text ↔ draft = .string (some text) := by
  cases draft with
  | string s => cases s <;> simp [Draft.text?, Json.string?]
  | _ => exact iff_of_false nofun nofun

theorem summary?_object_iff {text : String} :
    summary? (.object parts) = some text ↔ ReadsSummary (some (.object parts)) text := by
  constructor
  · intro read
    unfold summary? at read
    split at read
    · rename_i value found
      obtain ⟨named, holds⟩ := field?_object_iff.mp found
      cases value with
      | none =>
        cases read
        exact .silent named holds
      | some value =>
        obtain rfl := text?_eq_some_iff.mp read
        exact .stated named holds
    · cases read
  · intro reads
    cases reads with
    | silent named holds => rw [summary?, field?_object_iff.mpr ⟨named, holds⟩]; rfl
    | stated named holds => rw [summary?, field?_object_iff.mpr ⟨named, holds⟩]; rfl

theorem readsSummary_iff {dash? : Option Draft} {text : String}
    (byName : ∀ items, dash? ≠ some (.array items)) :
    summary? (dash?.getD (.object [])) = some text ↔ ReadsSummary dash? text := by
  cases dash? with
  | none =>
    refine ⟨fun read => ?_, fun reads => ?_⟩
    · cases read
      exact .absent
    · cases reads
      rfl
  | some dash =>
    cases dash with
    | object parts => exact summary?_object_iff
    | array items => exact absurd rfl (byName items)
    | _ => exact iff_of_false nofun nofun

theorem mapM_eq_some_iff {α β : Type} {read : α → Option β} {l : List α} {l' : List β} :
    l.mapM read = some l' ↔ List.Forall₂ (fun a b => read a = some b) l l' := by
  induction l generalizing l' with
  | nil => simp [eq_comm]
  | cons a l ih =>
    rw [List.mapM_cons, List.forall₂_cons_left_iff]
    simp only [← ih]
    cases read a <;> cases l.mapM read <;> simp [eq_comm]

theorem readsItem_iff {item : Draft} (byName : ∀ parts, item ≠ .array parts) :
    chart? item = some chart ↔ ReadsItem item chart := by
  cases item with
  | object parts =>
    refine chart?_object_iff.trans ⟨fun reads => ⟨parts, rfl, reads⟩, ?_⟩
    rintro ⟨_, ⟨⟩, reads⟩
    exact reads
  | array parts => exact absurd rfl (byName parts)
  | _ => exact iff_of_false nofun nofun

theorem readsCharts_iff {charts? : Option Draft} {charts : List Chart}
    (byName : ∀ items, charts? = some (.array items) → ∀ parts, .array parts ∉ items) :
    items? chart? (charts?.getD (.array [])) = some charts ↔ ReadsCharts charts? charts := by
  cases charts? with
  | none =>
    refine ⟨fun read => ?_, fun reads => ?_⟩
    · cases read
      exact .absent
    · cases reads
      rfl
  | some list =>
    cases list with
    | array items =>
      have item {item : Draft} (mem : item ∈ items) {chart : Chart} :
          chart? item = some chart ↔ ReadsItem item chart :=
        readsItem_iff fun parts same => byName items rfl parts (same ▸ mem)
      -- that an item is no list holds of members only, so membership is carried along
      have within {R : Draft → Chart → Prop} (each : List.Forall₂ R items charts) :
          List.Forall₂ (fun item chart => item ∈ items ∧ R item chart) items charts :=
        (List.forall₂_and_left items charts).mpr ⟨fun _ mem => mem, each⟩
      refine mapM_eq_some_iff.trans ⟨fun each => ?_, fun (.listed each) => ?_⟩
      · exact .listed ((within each).imp fun _ _ ⟨mem, read⟩ => (item mem).mp read)
      · exact (within each).imp fun _ _ ⟨mem, reads⟩ => (item mem).mpr reads
    | _ => exact iff_of_false nofun nofun

/-- An answer is read exactly if its fields give a context, and then it is that one. -/
theorem context?_object_iff (byName : ByName fields) :
    context? (.object fields) = some ctx ↔ ReadsSession fields ctx := by
  have dash {dash? : Option Draft} (holds : Holds fields (some "dash") dash?) {text : String} :
      summary? (dash?.getD (.object [])) = some text ↔ ReadsSummary dash? text :=
    readsSummary_iff fun items same => byName.dash items ((holds.mem_iff _).mpr same)
  have charts {charts? : Option Draft} (holds : Holds fields (some "charts") charts?)
      {list : List Chart} :
      items? chart? (charts?.getD (.array [])) = some list ↔ ReadsCharts charts? list :=
    readsCharts_iff fun items same => byName.charts items ((holds.mem_iff _).mpr same)
  constructor
  · intro read
    unfold context? at read
    split at read
    · rename_i found
      obtain ⟨named, first, second⟩ := fields?_object_iff.mp found
      split at read
      · rename_i summary list
        cases read
        exact ⟨named, ⟨_, first, (dash first).mp summary⟩, ⟨_, second, (charts second).mp list⟩⟩
      · cases read
    · cases read
  · rintro ⟨named, ⟨_, first, summary⟩, ⟨_, second, list⟩⟩
    simp only [context?, fields?_object_iff.mpr ⟨named, first, second⟩, (dash first).mpr summary,
      (charts second).mpr list]

/-! ## Forms -/

/-- Fields that are those of a chart. -/
structure ChartForm (fields : List (Option String × Draft)) : Prop where
  id_once : Once (some "chart_id") fields
  data_once : Once (some "chart_data") fields
  id : ∃ n x, (some "chart_id", n) ∈ fields ∧ IsInteger n x

/-- Fields that are those of a dashboard. -/
structure DashForm (fields : List (Option String × Draft)) : Prop where
  once : Once (some "dash_sum") fields
  text : ∀ value, (some "dash_sum", value) ∈ fields → ∃ s, value = .string s

/-- Fields that are those of an answer to a load. -/
structure SessionForm (fields : List (Option String × Draft)) : Prop where
  dash_once : Once (some "dash") fields
  charts_once : Once (some "charts") fields
  dash : ∀ value, (some "dash", value) ∈ fields → ∃ parts, value = .object parts ∧ DashForm parts
  charts : ∀ value, (some "charts", value) ∈ fields → ∃ items, value = .array items ∧
    ∀ item ∈ items, ∃ parts, item = .object parts ∧ ChartForm parts

/-- Data that can be kept: each string and key in them spells a text, each number is in the range of
those of 64 bits, and they nest no deeper than the data of a chart may. -/
def Keepable (data : Draft) : Prop :=
  ∃ doc, data.document? = some doc ∧
    doc.Within (fun lit => ∃ n, Number.ofLiteral lit = some n) dataDepth

/-- Fields of a chart whose names spell texts and whose data can be kept. -/
structure ChartLegible (fields : List (Option String × Draft)) : Prop where
  named : Named fields
  data : ∀ data, (some "chart_data", data) ∈ fields → Keepable data

/-- Fields of a dashboard whose names spell texts, and so does the summary. -/
structure DashLegible (fields : List (Option String × Draft)) : Prop where
  named : Named fields
  text : (some "dash_sum", .string none) ∉ fields

/-- What is read of an answer to a load spells texts, and the data of each chart can be kept. -/
structure Legible (fields : List (Option String × Draft)) : Prop where
  named : Named fields
  dash : ∀ parts, (some "dash", .object parts) ∈ fields → DashLegible parts
  charts : ∀ items, (some "charts", .array items) ∈ fields → ∀ parts, .object parts ∈ items →
    ChartLegible parts

theorem exists_payload_iff {data : Draft} :
    (∃ payload, ReadsPayload (some data) payload) ↔ Keepable data := by
  rw [Keepable, ← Json.exists_valueWithin?_iff]
  exact exists_congr fun _ => readsPayload_iff.symm

theorem exists_chart_iff :
    (∃ chart, ReadsChart parts chart) ↔ ChartForm parts ∧ ChartLegible parts := by
  constructor
  · rintro ⟨chart, named, ⟨n, held, number⟩, ⟨data?, holds, reads⟩, -⟩
    refine ⟨⟨held.once, holds.once, n, chart.id, (held.mem_iff n).mpr rfl, number⟩, named, ?_⟩
    intro data mem
    obtain rfl := (holds.mem_iff data).mp mem
    exact exists_payload_iff.mp ⟨_, reads⟩
  · rintro ⟨⟨id_once, data_once, n, x, mem, number⟩, named, keepable⟩
    obtain ⟨id?, held⟩ := once_iff_exists.mp id_once
    obtain ⟨data?, holds⟩ := once_iff_exists.mp data_once
    obtain rfl := (held.mem_iff n).mp mem
    obtain ⟨payload, reads⟩ : ∃ payload, ReadsPayload data? payload := by
      cases data? with
      | none => exact ⟨.null, .absent⟩
      | some data => exact exists_payload_iff.mpr (keepable data ((holds.mem_iff data).mpr rfl))
    have canonical := Json.canonical_of_valueWithin? (readsPayload_iff.mpr reads)
    exact ⟨⟨x, chartTitle x payload, payload⟩, named, ⟨n, held, number⟩, ⟨data?, holds, reads⟩,
      (titled_iff canonical).mpr rfl⟩

theorem exists_summary_iff :
    (∃ text, ReadsSummary (some (.object parts)) text) ↔ DashForm parts ∧ DashLegible parts := by
  constructor
  · rintro ⟨text, reads⟩
    cases reads with
    | silent named holds =>
      have absent (value : Draft) : (some "dash_sum", value) ∉ parts := fun mem =>
        absurd ((holds.mem_iff value).mp mem) nofun
      exact ⟨⟨holds.once, fun value mem => absurd mem (absent value)⟩, named, absent _⟩
    | stated named holds =>
      exact ⟨⟨holds.once, fun value mem =>
        ⟨_, (Option.some.inj ((holds.mem_iff value).mp mem)).symm⟩⟩, named, fun mem =>
          absurd ((holds.mem_iff _).mp mem) nofun⟩
  · rintro ⟨⟨once, form⟩, named, legible⟩
    obtain ⟨value?, holds⟩ := once_iff_exists.mp once
    cases value? with
    | none => exact ⟨_, .silent named holds⟩
    | some value =>
      have mem := (holds.mem_iff value).mpr rfl
      obtain ⟨s, rfl⟩ := form value mem
      cases s with
      | none => exact absurd mem legible
      | some text => exact ⟨text, .stated named holds⟩

theorem ReadsSummary.form {dash : Draft} {text : String} (reads : ReadsSummary (some dash) text) :
    ∃ parts, dash = .object parts ∧ DashForm parts ∧ DashLegible parts := by
  cases reads with
  | silent named holds => exact ⟨_, rfl, exists_summary_iff.mp ⟨_, .silent named holds⟩⟩
  | stated named holds => exact ⟨_, rfl, exists_summary_iff.mp ⟨_, .stated named holds⟩⟩

theorem exists_charts_iff {items : List Draft} :
    (∃ charts, ReadsCharts (some (.array items)) charts) ↔ ∀ item ∈ items, ∃ parts,
      item = .object parts ∧ ChartForm parts ∧ ChartLegible parts := by
  have each : (∃ charts, ReadsCharts (some (.array items)) charts) ↔
      ∃ charts, List.Forall₂ ReadsItem items charts :=
    exists_congr fun charts => ⟨fun (.listed each) => each, .listed⟩
  rw [each, Json.exists_forall₂_iff]
  refine forall₂_congr fun item _ => ?_
  simp only [← exists_chart_iff, ReadsItem]
  exact ⟨fun ⟨chart, parts, same, reads⟩ => ⟨parts, same, chart, reads⟩,
    fun ⟨parts, same, chart, reads⟩ => ⟨chart, parts, same, reads⟩⟩

/-- An answer gives a context exactly if it has the form of one and what is read of it is
legible. -/
theorem exists_session_iff :
    (∃ ctx, ReadsSession fields ctx) ↔ SessionForm fields ∧ Legible fields := by
  constructor
  · rintro ⟨ctx, named, ⟨dash?, first, summary⟩, ⟨charts?, second, list⟩⟩
    refine ⟨⟨first.once, second.once, fun value mem => ?_, fun value mem => ?_⟩, named,
      fun parts mem => ?_, fun items mem parts hparts => ?_⟩
    · obtain rfl := (first.mem_iff value).mp mem
      obtain ⟨parts, same, form, -⟩ := summary.form
      exact ⟨parts, same, form⟩
    · obtain rfl := (second.mem_iff value).mp mem
      cases list with
      | listed each =>
        refine ⟨_, rfl, fun item hitem => ?_⟩
        obtain ⟨parts, same, form, -⟩ := exists_charts_iff.mp ⟨_, .listed each⟩ item hitem
        exact ⟨parts, same, form⟩
    · obtain rfl := (first.mem_iff _).mp mem
      obtain ⟨_, ⟨⟩, -, legible⟩ := summary.form
      exact legible
    · obtain rfl := (second.mem_iff _).mp mem
      obtain ⟨_, ⟨⟩, -, legible⟩ := exists_charts_iff.mp ⟨_, list⟩ _ hparts
      exact legible
  · rintro ⟨form, legible⟩
    obtain ⟨dash?, first⟩ := once_iff_exists.mp form.dash_once
    obtain ⟨charts?, second⟩ := once_iff_exists.mp form.charts_once
    obtain ⟨text, summary⟩ : ∃ text, ReadsSummary dash? text := by
      cases dash? with
      | none => exact ⟨_, .absent⟩
      | some value =>
        have mem := (first.mem_iff value).mpr rfl
        obtain ⟨parts, rfl, dash⟩ := form.dash value mem
        exact exists_summary_iff.mpr ⟨dash, legible.dash parts mem⟩
    obtain ⟨charts, list⟩ : ∃ charts, ReadsCharts charts? charts := by
      cases charts? with
      | none => exact ⟨_, .absent⟩
      | some value =>
        have mem := (second.mem_iff value).mpr rfl
        obtain ⟨items, rfl, each⟩ := form.charts value mem
        refine exists_charts_iff.mpr fun item hitem => ?_
        obtain ⟨parts, rfl, chart⟩ := each item hitem
        exact ⟨parts, rfl, chart, legible.charts items mem parts hitem⟩
    exact ⟨⟨text, charts⟩, legible.named, ⟨dash?, first, summary⟩, ⟨charts?, second, list⟩⟩

/-! ## Fields that are not known -/

/-- The fields of some keys, and those whose name spells no text. -/
def keep (keys : List String) (fields : List (Option String × Draft)) :
    List (Option String × Draft) :=
  fields.filter fun f => f.1.all fun key => key ∈ keys

/-- A record without the fields that are not known. -/
def known (keys : List String) : Draft → Draft
  | .object fields => .object (keep keys fields)
  | draft => draft

/-- A list of charts without the fields that are not known. -/
def knownCharts : Draft → Draft
  | .array items => .array (items.map (known ["chart_id", "chart_data"]))
  | draft => draft

/-- An answer to a load without the fields that are not known, at every level. -/
def knownSession (fields : List (Option String × Draft)) : List (Option String × Draft) :=
  (keep ["dash", "charts"] fields).map fun f =>
    (f.1, if f.1 = some "dash" then known ["dash_sum"] f.2 else knownCharts f.2)

theorem named_keep_iff {keys : List String} : Named (keep keys fields) ↔ Named fields := by
  refine ⟨fun named f hf => ?_, fun named f hf => named f (List.mem_filter.mp hf).1⟩
  cases name : f.1 with
  | none =>
    have kept : f ∈ keep keys fields := List.mem_filter.mpr ⟨hf, by rw [name]; rfl⟩
    have spelled := named f kept
    rw [name] at spelled
    cases spelled
  | some key => rfl

theorem named_knownSession_iff : Named (knownSession fields) ↔ Named fields :=
  List.forall_mem_map.trans named_keep_iff

theorem single?_keep {keys : List String} (mem : key ∈ keys) :
    single? (keep keys fields) key = single? fields key := by
  have same : (keep keys fields).filter (fun f => f.1 == some key) =
      fields.filter fun f => f.1 == some key := by
    rw [keep, List.filter_filter]
    refine List.filter_congr fun f _ => ?_
    by_cases here : f.1 = some key
    · simp [here, mem]
    · simp [here]
  rw [single?, single?, same]

theorem single?_map (g : Option String → Draft → Draft) :
    single? (fields.map fun f => (f.1, g f.1 f.2)) key =
      (single? fields key).map (Option.map (g (some key))) := by
  have keys : ∀ f ∈ fields.filter (fun f => f.1 == some key), f.1 = some key := fun f hf =>
    eq_of_beq (List.mem_filter.mp hf).2
  have moved : ((fields.map fun f => (f.1, g f.1 f.2)).filter fun f => f.1 == some key) =
      (fields.filter fun f => f.1 == some key).map fun f => (f.1, g f.1 f.2) := List.filter_map
  unfold single?
  rw [moved]
  generalize fields.filter (fun f => f.1 == some key) = found at keys
  match found with
  | [] => rfl
  | [f] =>
    have name := keys f List.mem_cons_self
    simp only [List.map_cons, List.map_nil, name]
    rfl
  | _ :: _ :: _ => rfl

theorem record?_known {keys : List String} :
    record? keys (known keys draft) = record? keys draft := by
  cases draft with
  | object fields =>
    have each : ∀ l ⊆ keys, l.mapM (single? (keep keys fields)) = l.mapM (single? fields) := by
      intro l among
      induction l with
      | nil => rfl
      | cons key l ih =>
        obtain ⟨mem, among⟩ := List.cons_subset.mp among
        rw [List.mapM_cons, List.mapM_cons, single?_keep mem, ih among]
    rw [known]
    by_cases named : Named fields
    · rw [record?_of_named named, record?_of_named (named_keep_iff.mpr named)]
      exact each keys (List.Subset.refl keys)
    · rw [record?_of_unnamed named, record?_of_unnamed (mt named_keep_iff.mp named)]
  | _ => rfl

theorem chart?_known : chart? (known ["chart_id", "chart_data"] draft) = chart? draft := by
  rw [chart?, chart?, fields?, fields?, record?_known]

theorem summary?_known : summary? (known ["dash_sum"] draft) = summary? draft := by
  rw [summary?, summary?, field?, field?, record?_known]

theorem items?_knownCharts : items? chart? (knownCharts draft) = items? chart? draft := by
  cases draft with
  | array items =>
    have same : (fun item => chart? (known ["chart_id", "chart_data"] item)) = chart? :=
      funext fun _ => chart?_known
    simp only [knownCharts, items?, List.mapM_map, Function.comp_def, same]
  | _ => rfl

/-- A field of an answer that is known is found with what is known of it. -/
theorem single?_knownSession (mem : key ∈ ["dash", "charts"]) :
    single? (knownSession fields) key =
      (single? fields key).map (Option.map fun draft =>
        if some key = some "dash" then known ["dash_sum"] draft else knownCharts draft) := by
  rw [knownSession, single?_map fun key draft =>
    if key = some "dash" then known ["dash_sum"] draft else knownCharts draft, single?_keep mem]

/-- What is not known counts for nothing, at any level. -/
theorem context?_knownSession :
    context? (.object (knownSession fields)) = context? (.object fields) := by
  by_cases named : Named fields
  · have dash : single? (knownSession fields) "dash" =
        (single? fields "dash").map (Option.map (known ["dash_sum"])) :=
      single?_knownSession (by simp)
    have charts : single? (knownSession fields) "charts" =
        (single? fields "charts").map (Option.map knownCharts) :=
      single?_knownSession (by simp)
    have summary (dash? : Option Draft) :
        summary? ((dash?.map (known ["dash_sum"])).getD (.object [])) =
          summary? (dash?.getD (.object [])) := by
      cases dash? with
      | none => rfl
      | some dash => exact summary?_known
    have list (charts? : Option Draft) :
        items? chart? ((charts?.map knownCharts).getD (.array [])) =
          items? chart? (charts?.getD (.array [])) := by
      cases charts? with
      | none => rfl
      | some charts => exact items?_knownCharts
    simp only [context?, fields?_of_named named,
      fields?_of_named (named_knownSession_iff.mpr named), dash, charts]
    cases single? fields "dash" <;> cases single? fields "charts" <;> simp [summary, list]
  · rw [context?, context?, fields?_of_unnamed named,
      fields?_of_unnamed (mt named_knownSession_iff.mp named)]

/-! ## Loads -/

/-- What comes of an answer to a load: all of it or nothing, and nothing leaves a panel that waits
for it without a context. -/
structure SessionSpec (fields : List (Option String × Draft))
    (result : Except Failure SessionContext) : Prop where
  decodes_iff : (∃ ctx, result = .ok ctx) ↔ SessionForm fields ∧ Legible fields
  reads_iff : ∀ ctx, result = .ok ctx ↔ ReadsSession fields ctx
  rejected : (∀ ctx, result ≠ .ok ctx) → result = .error malformed
  spoils : ∀ items item, (some "charts", .array items) ∈ fields → item ∈ items →
    (∀ parts, item = .object parts → ¬ ChartForm parts) → result = .error malformed
  ignores : ∀ others, knownSession others = knownSession fields →
    ∀ ctx, context? (.object others) = some ctx ↔ result = .ok ctx
  panel : ∀ (p : Panel) (ticket : Ticket) (told : Failure → TransportFailure),
    p.acceptsBootstrap ticket = true →
      (p.step (.completed ticket ((Reply.session result).mapError told))).panel.context =
        result.toOption.getD {}

theorem context_of_completed {p : Panel} {ticket : Ticket} {result : Except Failure SessionContext}
    (told : Failure → TransportFailure) (accepts : p.acceptsBootstrap ticket = true) :
    (p.step (.completed ticket ((Reply.session result).mapError told))).panel.context =
      result.toOption.getD {} := by
  have step : p.step (.completed ticket ((Reply.session result).mapError told)) =
      p.completeSession (result.mapError told) := if_pos accepts
  rw [step]
  cases result <;> rfl

theorem elim_eq_ok_iff {α : Type} {failure : Failure} {read : Option α} {value : α} :
    read.elim (.error failure) .ok = Except.ok value ↔ read = some value := by
  cases read <;> simp

theorem sessionSpec_of_context? (byName : ByName fields) :
    SessionSpec fields ((context? (.object fields)).elim (.error malformed) .ok) where
  decodes_iff := by
    simp only [elim_eq_ok_iff, context?_object_iff byName]
    exact exists_session_iff
  reads_iff _ := elim_eq_ok_iff.trans (context?_object_iff byName)
  rejected never := by
    cases read : context? (.object fields) with
    | none => rfl
    | some ctx => exact absurd (elim_eq_ok_iff.mpr read) (never ctx)
  spoils items item mem hitem deformed := by
    have unread : context? (.object fields) = none := by
      refine Option.eq_none_iff_forall_ne_some.mpr fun ctx read => ?_
      obtain ⟨form, -⟩ := exists_session_iff.mp ⟨ctx, (context?_object_iff byName).mp read⟩
      obtain ⟨_, ⟨⟩, each⟩ := form.charts _ mem
      obtain ⟨parts, same, chart⟩ := each item hitem
      exact deformed parts same chart
    rw [unread]
    rfl
  ignores others same ctx := by
    rw [elim_eq_ok_iff, ← context?_knownSession, same, context?_knownSession]
  panel _ _ told accepts := context_of_completed told accepts

variable {settings : Settings} {answer : Request → Answer} {session : SessionId}
  {request : Request} {r : Response} {contents : List Bytes}

/-- The answer to a load is read as a whole or not at all, and every chart in it is kept. -/
theorem session_all_or_nothing (leaves : sent settings (.loadSession session) = some request)
    (responds : answer request = .responded r) (succeeds : Status.isSuccess r.status = true)
    (body : r.body = contents.map .bytes)
    (text : Json.Reader.draft? contents.flatten = some (.object fields))
    (byName : ByName fields) :
    ∃ result, perform settings answer (.loadSession session) = .session result ∧
      SessionSpec fields result := by
  have performed : perform settings answer (.loadSession session) =
      .session (r.decode context?) := perform_of_sent leaves responds succeeds
  rw [Response.decode_of_text body text] at performed
  exact ⟨_, performed, sessionSpec_of_context? byName⟩

/-- The second chart has no data and no title, and a field that is not known, in which
nothing spells a text. -/
theorem session_all_or_nothing_untitled :
    let one : Draft := .number ⟨false, ['1'], [], none⟩
    let options : Draft := .object [(some "sub_title", .string (some "t"))]
    let titled : Draft :=
      .object [(some "chart_data", .object [(some "opts", options)]), (some "chart_id", one)]
    let untitled : Draft :=
      .object [(some "chart_id", one), (some "other", .object [(none, .string none)])]
    let fields := [(some "charts", .array [titled, untitled])]
    let content := Text.Utf8.ofString
      ("\x7b\"charts\":[\x7b\"chart_data\":\x7b\"opts\":\x7b\"sub_title\":\"t\"\x7d\x7d," ++
        "\"chart_id\":1\x7d,\x7b\"chart_id\":1,\"other\":\x7b\"\\ud800\":\"\\udfff\"\x7d\x7d]\x7d")
    let settings : Settings :=
      { endpoints := { Endpoints.loopback with sessionInfo := "http://[::1]" } }
    ∃ ctx, perform settings (fun _ => .responded ⟨200, none, [.bytes content]⟩) (.loadSession "a") =
        .session (.ok ctx) ∧ SessionSpec fields (.ok ctx) ∧
      ctx.charts.map (·.title) = ["t", "Chart 1"] := by
  intro one options titled untitled fields content settings
  have leaves : (sent settings (.loadSession "a")).isSome := by decide +kernel
  obtain ⟨request, leaves⟩ := Option.isSome_iff_exists.mp leaves
  have text : Json.Reader.draft? [content].flatten = some (.object fields) := by
    unfold content fields titled untitled options one
    cbv
  have byName : ByName fields := ⟨by simp [fields], by simp [fields, titled, untitled]⟩
  let r : Response := ⟨200, none, [.bytes content]⟩
  let answer : Request → Answer := fun _ => .responded r
  have responds : answer request = .responded r := rfl
  have whole : r.body = [content].map .bytes := rfl
  obtain ⟨result, performed, spec⟩ := session_all_or_nothing leaves responds rfl whole text byName
  have read : context? (.object fields) = some _ := rfl
  have brought := (spec.ignores fields rfl _).mp read
  subst brought
  exact ⟨_, performed, spec, rfl⟩

/-- A text that has the form of an answer to a load is not read as one. -/
structure Spoiled (content : Bytes) (fields : List (Option String × Draft)) : Prop where
  text : Json.Reader.draft? content = some (.object fields)
  byName : ByName fields
  form : SessionForm fields
  refused :
    let settings : Settings :=
      { endpoints := { Endpoints.loopback with sessionInfo := "http://[::1]" } }
    perform settings (fun _ => .responded ⟨200, none, [.bytes content]⟩) (.loadSession "a") =
      .session (.error malformed)

theorem spoiled_of_chart {content : Bytes}
    (text : Json.Reader.draft? content = some (.object [(some "charts", .array [.object parts])]))
    (form : ChartForm parts)
    (unread : context? (.object [(some "charts", .array [.object parts])]) = none) :
    Spoiled content [(some "charts", .array [.object parts])] where
  text := text
  byName := ⟨by simp, by simp⟩
  form := by
    refine ⟨by simp [Once], by simp [Once], by simp, fun value mem => ?_⟩
    cases List.mem_singleton.mp mem
    exact ⟨_, rfl, List.forall_mem_singleton.mpr ⟨_, rfl, form⟩⟩
  refused := by
    intro settings
    have leaves : (sent settings (.loadSession "a")).isSome := by decide +kernel
    obtain ⟨request, leaves⟩ := Option.isSome_iff_exists.mp leaves
    let r : Response := ⟨200, none, [.bytes content]⟩
    let answer : Request → Answer := fun _ => .responded r
    have responds : answer request = .responded r := rfl
    have whole : r.body = [content].map .bytes := rfl
    have found := (congrArg Json.Reader.draft? List.flatten_singleton).trans text
    rw [perform_of_sent leaves responds rfl, replyTo, Response.decode_of_text whole found, unread]
    rfl

theorem chartForm_pair {field : Option String × Draft} (other : field.1 ≠ some "chart_id") :
    ChartForm [(some "chart_id", .number ⟨false, ['1'], [], none⟩), field] := by
  refine ⟨?_, ?_, _, 1, List.mem_cons_self, integer?_eq_some_iff.mp (by decide)⟩
  · simp [Once, other]
  · rw [Once, List.map_cons, List.count_cons_of_ne (by simp), List.map_singleton]
    exact List.count_le_length

/-- An answer that has the form of a session is spoiled by data that cannot be kept: by a number
that 64 bits do not hold, by lists that nest too deep, and by a string that spells no text. So it is
by a field whose name spells none. -/
theorem session_spoiled_by_data :
    let one : Document := .number ⟨false, ['1'], [], none⟩
    let huge : Document := .number ⟨false, ['1'], [], some 999⟩
    let deep : Document := (fun doc => .array [doc])^[125] .null
    (∀ data ∈ [huge, deep],
      Spoiled
        (Text.Utf8.ofString (Json.print
          (.object [("charts", .array [.object [("chart_id", one), ("chart_data", data)]])])))
        [(some "charts",
          .array [.object [(some "chart_id", one.draft), (some "chart_data", data.draft)]])]) ∧
      Spoiled
        (Text.Utf8.ofString
          "\x7b\"charts\":[\x7b\"chart_id\":1,\"chart_data\":\"\\ud800\"\x7d]\x7d")
        [(some "charts",
          .array [.object [(some "chart_id", one.draft), (some "chart_data", .string none)]])] ∧
      Spoiled
        (Text.Utf8.ofString "\x7b\"charts\":[\x7b\"chart_id\":1,\"\\ud800\":null\x7d]\x7d")
        [(some "charts", .array [.object [(some "chart_id", one.draft), (none, .null)]])] := by
  intro one huge deep
  refine ⟨fun data mem => ?_, ?_, ?_⟩
  · have nested (n : ℕ) : ((fun doc => .array [doc])^[n] Json.null).Within
        Floating.Numeral.Regular n := by
      induction n with
      | zero => exact .null
      | succ n ih =>
        rw [Function.iterate_succ_apply']
        exact .array (List.forall_mem_singleton.mpr ih)
    have regular : data.Within Floating.Numeral.Regular 125 := by
      obtain rfl | rfl := List.mem_pair.mp mem
      · exact .number ⟨by simp, by simp, by simp, by simp⟩
      · exact nested 125
    refine spoiled_of_chart (@Json.Reader.draft?_print 128 _ ?_)
      (chartForm_pair (by simp)) ?_
    · refine .object (List.forall_mem_singleton.mpr (.array (List.forall_mem_singleton.mpr ?_)))
      refine .object (List.forall_mem_cons.mpr ⟨?_, List.forall_mem_singleton.mpr regular⟩)
      exact .number ⟨by simp, by simp, by simp, by simp⟩
    · obtain rfl | rfl := List.mem_pair.mp mem <;> decide +kernel
  · exact spoiled_of_chart (by cbv) (chartForm_pair (by simp)) (by decide +kernel)
  · exact spoiled_of_chart (by cbv) (chartForm_pair (by simp)) (by decide +kernel)

end AnalysisPanel.Service
