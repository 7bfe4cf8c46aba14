import AnalysisPanel.Text.Utf8
import AnalysisPanel.Text.Numeral

/-! Percent-encoding: octets written as `%` and two digits, and the sets of characters that each
part of a URL has to write so. -/

namespace AnalysisPanel.Url

open Text

/-- One upper-case hexadecimal digit. -/
def hexUpper (n : Nat) : Char := (Nat.digitChar n).toUpper

/-- An octet as `%` and two digits. -/
def percentOctet (b : UInt8) : List Char :=
  ['%', hexUpper (b.toNat / 16), hexUpper (b.toNat % 16)]

/-- Writes the characters of a set octet by octet and leaves the rest alone. -/
def percentEncode (set : Char → Bool) (cs : List Char) : List Char :=
  cs.flatMap fun c => if set c then (Utf8.encodeChar c).flatMap percentOctet else [c]

/-- Octets with each `%` and two digits read as the octet they write. -/
def percentDecode : Bytes → Bytes
  | [] => []
  | p :: a :: b :: rest =>
    if p = 0x25 then
      match hexDigit? (Char.ofNat a.toNat), hexDigit? (Char.ofNat b.toNat) with
      | some x, some y => (x * 16 + y).toUInt8 :: percentDecode rest
      | _, _ => p :: percentDecode (a :: b :: rest)
    else p :: percentDecode (a :: b :: rest)
  | p :: rest => p :: percentDecode rest

/-- Controls, and everything past ASCII. -/
def controlSet (c : Char) : Bool := c.toNat < 0x20 || 0x7E < c.toNat

/-- What a fragment writes encoded. -/
def fragmentSet (c : Char) : Bool := controlSet c || [' ', '"', '<', '>', '`'].contains c

/-- What a query writes encoded. -/
def querySet (c : Char) : Bool := controlSet c || [' ', '"', '#', '<', '>'].contains c

/-- What the query of a special URL writes encoded. -/
def specialQuerySet (c : Char) : Bool := querySet c || c == '\''

/-- What a path writes encoded. -/
def pathSet (c : Char) : Bool :=
  querySet c || ['?', '`', '\x7b', '\x7d'].contains c

/-- What user names and passwords write encoded. -/
def userinfoSet (c : Char) : Bool :=
  pathSet c || ['/', ':', ';', '=', '@', '[', '\\', ']', '^', '|'].contains c

end AnalysisPanel.Url
