import AnalysisPanel.Url.DomainName
import AnalysisPanel.Url.Percent

/-! Hosts of URLs: names, addresses of four octets and addresses of eight pieces, as read and as
written. -/

namespace AnalysisPanel.Url

open Text

/-- Why a text is no URL. -/
inductive ParseError where
  | relativeWithoutBase
  | relativeToPlainBase
  | emptyHost
  | invalidPort
  | invalidIpv4
  | invalidIpv6
  | invalidDomain
  | invalidHostCharacter
  deriving DecidableEq, Inhabited

/-- What the user reads. -/
def ParseError.message : ParseError → String
  | .relativeWithoutBase => "relative URL without a base"
  | .relativeToPlainBase => "relative URL with a cannot-be-a-base base"
  | .emptyHost => "empty host"
  | .invalidPort => "invalid port number"
  | .invalidIpv4 => "invalid IPv4 address"
  | .invalidIpv6 => "invalid IPv6 address"
  | .invalidDomain => "invalid international domain name"
  | .invalidHostCharacter => "invalid domain character"

/-- A host: a name, an address of 32 bits, or an address of eight pieces of 16 bits. -/
inductive Host where
  | name (text : String)
  | ipv4 (address : Nat)
  | ipv6 (pieces : List Nat)
  deriving DecidableEq, Inhabited

/-- Reads an address between brackets. -/
def bracketed? (cs : List Char) : Except ParseError Host :=
  if cs.getLast? = some ']' then
    match ipv6? (cs.drop 1).dropLast with
    | some pieces => .ok (.ipv6 pieces)
    | none => .error .invalidIpv6
  else .error .invalidIpv6

/-- Reads the host of a special URL. -/
def Host.special (cs : List Char) : Except ParseError Host :=
  if cs.head? = some '[' then bracketed? cs
  else
    match (Utf8.decode (percentDecode (Utf8.encode cs))).bind nameToAscii? with
    | none => .error .invalidDomain
    | some [] => .error .emptyHost
    | some domain =>
      if endsInNumber domain then
        match ipv4? domain with
        | some n => .ok (.ipv4 n)
        | none => .error .invalidIpv4
      else .ok (.name (String.ofList domain))

/-- Reads the host of any other URL: it is taken as it stands. -/
def Host.plain (cs : List Char) : Except ParseError Host :=
  if cs.head? = some '[' then bracketed? cs
  else if cs.any fun c =>
      ['\x00', '\t', '\n', '\r', ' ', '#', '/', ':', '<', '>', '?', '@', '[', '\\', ']', '^',
        '|'].contains c then
    .error .invalidHostCharacter
  else .ok (.name (String.ofList (percentEncode controlSet cs)))

/-- Writes a host. -/
def Host.text : Host → String
  | .name text => text
  | .ipv4 n => ipv4Text n
  | .ipv6 pieces => "[" ++ ipv6Text pieces ++ "]"

end AnalysisPanel.Url
