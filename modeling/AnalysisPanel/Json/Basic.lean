/-! JSON trees over a type of numbers and a type of strings. A *draft* keeps what a text says: each
number as written, each field in its place, and strings that spell no text among the others. A
*document* is a draft whose strings all spell texts. A *value* keeps what a document means: integers
of 64 bits or floating-point numbers, and fields sorted by key, the last of equal keys standing. -/

namespace AnalysisPanel

/-- A JSON tree whose numbers are of type `ν`, and whose strings and keys are of type `σ`. -/
inductive Json (ν : Type) (σ : Type := String) where
  | null
  | bool (b : Bool)
  | number (n : ν)
  | string (s : σ)
  | array (items : List (Json ν σ))
  | object (fields : List (σ × Json ν σ))
  deriving Inhabited

namespace Json

variable {ν μ σ τ : Type}

/-- Puts a field in the place of its key, instead of an older field of that key. -/
def insertField (key : String) (v : Json ν) : List (String × Json ν) → List (String × Json ν)
  | [] => [(key, v)]
  | (k, w) :: rest =>
    if key < k then (key, v) :: (k, w) :: rest
    else if key = k then (key, v) :: rest
    else (k, w) :: insertField key v rest

/-- Fields in the order of their keys, each key with the last value it was given. -/
def sortFields (fields : List (String × Json ν)) : List (String × Json ν) :=
  fields.foldl (fun sorted field => insertField field.1 field.2 sorted) []

mutual

/-- Replaces each number, at every level. -/
def mapNumbers (f : ν → μ) : Json ν → Json μ
  | .null => .null
  | .bool b => .bool b
  | .number n => .number (f n)
  | .string s => .string s
  | .array items => .array (mapItems f items)
  | .object fields => .object (mapFields f fields)

/-- `mapNumbers` on each item of a list. -/
def mapItems (f : ν → μ) : List (Json ν) → List (Json μ)
  | [] => []
  | v :: rest => mapNumbers f v :: mapItems f rest

/-- `mapNumbers` on the value of each field. -/
def mapFields (f : ν → μ) : List (String × Json ν) → List (String × Json μ)
  | [] => []
  | (k, v) :: rest => (k, mapNumbers f v) :: mapFields f rest

end

mutual

/-- Reads each number by `f` and sorts the fields of each object, at every level. -/
def mapNumbers? (f : ν → Option μ) : Json ν → Option (Json μ)
  | .null => some .null
  | .bool b => some (.bool b)
  | .number n => (f n).map .number
  | .string s => some (.string s)
  | .array items => (mapItems? f items).map .array
  | .object fields => (mapFields? f fields).map fun fields => .object (sortFields fields)

/-- `mapNumbers?` on each item of a list. -/
def mapItems? (f : ν → Option μ) : List (Json ν) → Option (List (Json μ))
  | [] => some []
  | v :: rest =>
    match mapNumbers? f v, mapItems? f rest with
    | some v, some rest => some (v :: rest)
    | _, _ => none

/-- `mapNumbers?` on the value of each field. -/
def mapFields? (f : ν → Option μ) : List (String × Json ν) → Option (List (String × Json μ))
  | [] => some []
  | (k, v) :: rest =>
    match mapNumbers? f v, mapFields? f rest with
    | some v, some rest => some ((k, v) :: rest)
    | _, _ => none

end

mutual

/-- Replaces each string and each key, at every level. -/
def mapStrings (f : σ → τ) : Json ν σ → Json ν τ
  | .null => .null
  | .bool b => .bool b
  | .number n => .number n
  | .string s => .string (f s)
  | .array items => .array (mapItemStrings f items)
  | .object fields => .object (mapFieldStrings f fields)

/-- `mapStrings` on each item of a list. -/
def mapItemStrings (f : σ → τ) : List (Json ν σ) → List (Json ν τ)
  | [] => []
  | v :: rest => mapStrings f v :: mapItemStrings f rest

/-- `mapStrings` on the value and the key of each field. -/
def mapFieldStrings (f : σ → τ) : List (σ × Json ν σ) → List (τ × Json ν τ)
  | [] => []
  | (k, v) :: rest => (f k, mapStrings f v) :: mapFieldStrings f rest

end

mutual

/-- The tree, if there are all its strings and keys. -/
def spelled? : Json ν (Option σ) → Option (Json ν σ)
  | .null => some .null
  | .bool b => some (.bool b)
  | .number n => some (.number n)
  | .string s => s.map .string
  | .array items => (itemsSpelled? items).map .array
  | .object fields => (fieldsSpelled? fields).map .object

/-- `spelled?` on each item of a list. -/
def itemsSpelled? : List (Json ν (Option σ)) → Option (List (Json ν σ))
  | [] => some []
  | v :: rest =>
    match spelled? v, itemsSpelled? rest with
    | some v, some rest => some (v :: rest)
    | _, _ => none

/-- `spelled?` on the value and the key of each field. -/
def fieldsSpelled? : List (Option σ × Json ν (Option σ)) → Option (List (σ × Json ν σ))
  | [] => some []
  | (k, v) :: rest =>
    match k, spelled? v, fieldsSpelled? rest with
    | some k, some v, some rest => some ((k, v) :: rest)
    | _, _, _ => none

end

mutual

/-- How many levels of arrays and objects a tree has. -/
def levels : Json ν → Nat
  | .array items => itemsLevels items + 1
  | .object fields => fieldsLevels fields + 1
  | _ => 0

/-- The most levels of an item of a list. -/
def itemsLevels : List (Json ν) → Nat
  | [] => 0
  | v :: rest => max (levels v) (itemsLevels rest)

/-- The most levels of the value of a field. -/
def fieldsLevels : List (String × Json ν) → Nat
  | [] => 0
  | (_, v) :: rest => max (levels v) (fieldsLevels rest)

end

/-- The value of the first field of a key, when the tree is an object that has one. -/
def field? (key : String) : Json ν → Option (Json ν)
  | .object fields => (fields.find? fun field => field.1 == key).map (·.2)
  | _ => none

/-- The text of a string. -/
def string? : Json ν σ → Option σ
  | .string s => some s
  | _ => none

/-- The items of an array. -/
def items? : Json ν σ → Option (List (Json ν σ))
  | .array items => some items
  | _ => none

end Json

end AnalysisPanel
