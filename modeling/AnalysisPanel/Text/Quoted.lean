import AnalysisPanel.Text.Unprintable
import AnalysisPanel.Text.Extender
import AnalysisPanel.Text.Numeral

/-! Quoted text for messages: double quotes around the text, an escape for each character that
would not show, and two dialects that differ in the apostrophe. -/

namespace AnalysisPanel.Text

/-- The two places that quote: running text keeps an apostrophe, a path escapes it. -/
inductive Dialect where
  | text
  | path
  deriving DecidableEq

/-- How a dialect writes one character inside quotes. -/
def Dialect.escape (dialect : Dialect) (c : Char) : List Char :=
  if c = '\x00' then ['\\', '0']
  else if c = '\t' then ['\\', 't']
  else if c = '\r' then ['\\', 'r']
  else if c = '\n' then ['\\', 'n']
  else if c = '"' then ['\\', '"']
  else if c = '\\' then ['\\', '\\']
  else if c = '\'' ∧ dialect = .path then ['\\', '\'']
  else if extender.has c || unprintable.has c then
    ['\\', 'u', '\x7b'] ++ hexText c.toNat ++ ['\x7d']
  else [c]

/-- A text between double quotes. -/
def Dialect.quote (dialect : Dialect) (s : String) : String :=
  String.ofList ('"' :: (s.toList.flatMap dialect.escape ++ ['"']))

/-- A text as messages quote it. -/
def quoted (s : String) : String := Dialect.text.quote s

/-- A path as messages quote it. -/
def quotedPath (s : String) : String := Dialect.path.quote s

end AnalysisPanel.Text
