import AnalysisPanel.Url.Parser

/-! Queries as lists of names and values: `name=value` with `&` between, a blank written as a plus
sign and every other octet but a few as a percent code. -/

namespace AnalysisPanel.Url

open Text

/-- Whether an octet stands for itself in a query of pairs. -/
def isFormPlain (b : UInt8) : Bool :=
  let c := Char.ofNat b.toNat
  b < 0x80 && (c.isAlphanum || c == '*' || c == '-' || c == '.' || c == '_')

/-- Writes an octet. -/
def formOctet (b : UInt8) : List Char :=
  if isFormPlain b then [Char.ofNat b.toNat] else if b = 0x20 then ['+'] else percentOctet b

/-- Writes a name or a value. -/
def formEncode (cs : List Char) : List Char := (Utf8.encode cs).flatMap formOctet

/-- Writes a pair. -/
def formPair (name value : String) : List Char :=
  formEncode name.toList ++ '=' :: formEncode value.toList

/-- Reads a name or a value. -/
def formDecode (cs : List Char) : String :=
  let plain := cs.map fun c => if c = '+' then ' ' else c
  String.ofList (Utf8.decodeLenient (percentDecode (Utf8.encode plain)))

/-- Reads one pair; without an equals sign the value is empty. -/
def formPairOf (cs : List Char) : String × String :=
  let name := cs.takeWhile (· != '=')
  (formDecode name, formDecode (cs.drop (name.length + 1)))

/-- Reads the pairs of a query. -/
def formPairs (query : List Char) : List (String × String) :=
  ((splitAt '&' query).filter fun part => !part.isEmpty).map formPairOf

/-- The pairs of a URL's query. -/
def queryPairs (u : Url) : List (String × String) :=
  match u.query with
  | some query => formPairs query.toList
  | none => []

/-- Adds a pair at the end of a URL's query. -/
def addPair (u : Url) (name value : String) : Url :=
  let before := (u.query.getD "").toList
  let sep := if before.isEmpty then [] else ['&']
  { u with query := some (String.ofList (before ++ sep ++ formPair name value)) }

end AnalysisPanel.Url
