import AnalysisPanel.Json.Number
import AnalysisPanel.Text.Numeral

/-! Compact JSON text: no blanks between tokens, and an escape only where the grammar asks for
one. -/

namespace AnalysisPanel.Json

open Text

/-- Writes one character of a string. -/
def escapeChar (c : Char) : List Char :=
  if c = '"' then ['\\', '"']
  else if c = '\\' then ['\\', '\\']
  else if c = '\x08' then ['\\', 'b']
  else if c = '\t' then ['\\', 't']
  else if c = '\n' then ['\\', 'n']
  else if c = '\x0c' then ['\\', 'f']
  else if c = '\r' then ['\\', 'r']
  else if c.toNat < 0x20 then
    ['\\', 'u', '0', '0'] ++ (if c.toNat < 0x10 then ['0'] else []) ++ hexText c.toNat
  else [c]

/-- Writes a string between its quotes. -/
def stringText (s : String) : String :=
  String.ofList ('"' :: (s.toList.flatMap escapeChar ++ ['"']))

mutual

/-- Writes a document. -/
def print : Document → String
  | .null => "null"
  | .bool true => "true"
  | .bool false => "false"
  | .number n => n.text
  | .string s => stringText s
  | .array items => "[" ++ String.intercalate "," (printItems items) ++ "]"
  | .object fields => "\x7b" ++ String.intercalate "," (printFields fields) ++ "\x7d"

/-- Writes each item of a list. -/
def printItems : List Document → List String
  | [] => []
  | v :: rest => print v :: printItems rest

/-- Writes each field with its key. -/
def printFields : List (String × Document) → List String
  | [] => []
  | (k, v) :: rest => (stringText k ++ ":" ++ print v) :: printFields rest

end

/-- Writes a value. -/
def Value.text (v : Value) : String := print v.document

end AnalysisPanel.Json
