import AnalysisPanel.Conversation.Call
import AnalysisPanel.Json.Reader

/-! What the services answer. A record is written as an object, in which fields that are not known
count for nothing, however deep they nest and whatever their strings hold, and a known one stands at
most once, or as the list of its fields, in which the last ones may be absent. To tell a known field
from others each name is read, so each must spell a text. -/

namespace AnalysisPanel.Service

open Json

/-! ### Records -/

/-- The field of a key in an object, if it stands there; nothing at all when it is repeated. -/
def single? (fields : List (Option String × Draft)) (key : String) : Option (Option Draft) :=
  match fields.filter fun field => field.1 == some key with
  | [] => some none
  | [field] => some (some field.2)
  | _ => none

/-- The known fields of a record, each of which may be absent. -/
def record? (keys : List String) : Draft → Option (List (Option Draft))
  | .object fields =>
    if fields.all fun field => field.1.isSome then keys.mapM (single? fields) else none
  | .array items =>
    if items.length ≤ keys.length then
      some (items.map some ++ List.replicate (keys.length - items.length) none)
    else none
  | _ => none

/-- A record of one field. -/
def field? (key : String) (draft : Draft) : Option (Option Draft) :=
  match record? [key] draft with
  | some [value] => some value
  | _ => none

/-- A record of two fields. -/
def fields? (key other : String) (draft : Draft) : Option (Option Draft × Option Draft) :=
  match record? [key, other] draft with
  | some [value, rest] => some (value, rest)
  | _ => none

/-- A list read item by item. -/
def items? {α σ : Type} (read : Json Literal σ → Option α) : Json Literal σ → Option (List α)
  | .array items => items.mapM read
  | _ => none

/-- A text that must stand in a record of its own. -/
def onlyText? (key : String) (draft : Draft) : Option String :=
  match field? key draft with
  | some (some value) => value.text?
  | _ => none

/-- A number written without point and exponent that 64 bits hold with their sign. There is no
negative zero among the integers. -/
def integer? : Draft → Option Int64
  | .number lit =>
    match lit.fraction, lit.exponent, Text.digits? lit.whole with
    | [], none, some n =>
      if lit.negative → n ≠ 0 then Text.toInt64? (if lit.negative then -n else n) else none
    | _, _, _ => none
  | _ => none

/-! ### Sessions -/

/-- The title in a chart's data, or one made from its number. -/
def chartTitle (id : ChartId) (payload : Value) : String :=
  (((Json.field? "opts" payload).bind (Json.field? "sub_title")).bind Json.string?).getD
    ("Chart " ++ toString id)

/-- How deep the data of a chart may nest, inside a chart of a list of an answer. -/
def dataDepth : Nat := Reader.maxDepth - 3

/-- A chart. One without data has nothing for its payload. -/
def chart? (draft : Draft) : Option Chart :=
  match fields? "chart_id" "chart_data" draft with
  | some (some id, data) =>
    match integer? id, (data.getD .null).valueWithin? dataDepth with
    | some id, some payload => some ⟨id, chartTitle id payload, payload⟩
    | _, _ => none
  | _ => none

/-- The summary of a dashboard, empty when it is absent. -/
def summary? (draft : Draft) : Option String :=
  match field? "dash_sum" draft with
  | some value => (value.getD (.string (some ""))).text?
  | none => none

/-- The background of a session. One chart that is malformed spoils all of it. -/
def context? (draft : Draft) : Option SessionContext :=
  match fields? "dash" "charts" draft with
  | some (dash, charts) =>
    match summary? (dash.getD (.object [])), items? chart? (charts.getD (.array [])) with
    | some summary, some charts => some ⟨summary, charts⟩
    | _, _ => none
  | none => none

/-! ### Tables, discoveries and links -/

/-- A table, kept as a whole. -/
def table? (draft : Draft) : Option Value := draft.valueWithin? Reader.maxDepth

/-- Suggested metrics. -/
def labels? (draft : Draft) : Option (List String) := items? Draft.text? draft

/-- An answer in words. -/
def analysis? (draft : Draft) : Option String := onlyText? "text" draft

/-- A link to a finished chart, as it is written. -/
def link? (draft : Draft) : Option String := onlyText? "dash" draft

end AnalysisPanel.Service
