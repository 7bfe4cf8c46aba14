import AnalysisPanel.Text.Utf8

/-! Terms: what a configuration text says before its fields are looked at. -/

namespace AnalysisPanel.Config

/-- A term. A word is raw when it is marked so that it cannot be taken for a keyword. Records and
tuples may have a name, and either bound of a range may be missing. -/
inductive Term where
  | word (raw : Bool) (name : String)
  | some (inner : Term)
  | number (text : List Char)
  | text (s : String)
  | character (c : Char)
  | octets (content : Bytes)
  | range (lower upper : Option Term)
  | record (name : Option String) (fields : List (String × Term))
  | tuple (name : Option String) (items : List Term)
  | list (items : List Term)
  | map (entries : List (Term × Term))
  deriving Inhabited

end AnalysisPanel.Config
