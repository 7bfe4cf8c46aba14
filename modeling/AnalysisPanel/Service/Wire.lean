import AnalysisPanel.Service.Exchange
import AnalysisPanel.Text.Blank

/-! HTTP messages as octets: requests as they are sent, and responses taken in octet by octet. Each
request asks for the connection to be closed after its response. -/

namespace AnalysisPanel.Service.Wire

open Text

/-! ### Requests -/

/-- A digit in base sixty-four. -/
def digit64 (n : Nat) : Char :=
  if n < 26 then Char.ofNat (65 + n)
  else if n < 52 then Char.ofNat (71 + n)
  else if n < 62 then Char.ofNat (n - 4)
  else if n = 62 then '+' else '/'

/-- Octets in base sixty-four, three to four digits. -/
def base64 : Bytes → List Char
  | [] => []
  | [a] => [digit64 (a.toNat / 4), digit64 (a.toNat % 4 * 16), '=', '=']
  | [a, b] =>
    [digit64 (a.toNat / 4), digit64 (a.toNat % 4 * 16 + b.toNat / 16),
      digit64 (b.toNat % 16 * 4), '=']
  | a :: b :: c :: rest =>
    digit64 (a.toNat / 4) :: digit64 (a.toNat % 4 * 16 + b.toNat / 16) ::
      digit64 (b.toNat % 16 * 4 + c.toNat / 64) :: digit64 (c.toNat % 64) :: base64 rest

/-- What a URL says about the user, as a header. -/
def authorization (u : Url) : List String :=
  if u.username = "" ∧ u.password = "" then []
  else
    let decoded (s : String) : Bytes := Url.percentDecode (Utf8.ofString s)
    let user := decoded u.username ++ Utf8.ofString ":" ++ decoded u.password
    ["authorization: Basic " ++ String.ofList (base64 user)]

/-- The host that a request names. -/
def hostText (u : Url) : String :=
  (u.host.map Url.Host.text).getD "" ++
    match u.port with
    | some n => ":" ++ toString n
    | none => ""

/-- What a request asks for at its host. -/
def target (u : Url) : String := u.path.text ++ Url.marked "?" u.query

/-- The lines before the body. -/
def headLines (r : Request) (body : Bytes) : List String :=
  let content :=
    match r.body with
    | some _ => ["content-type: application/json", "content-length: " ++ toString body.length]
    | none => []
  [r.method.name ++ " " ++ target r.url ++ " HTTP/1.1", "host: " ++ hostText r.url,
    "accept: */*", "connection: close"] ++ authorization r.url ++ content

/-- A request as it is sent. -/
def octets (r : Request) : Bytes :=
  let body := match r.body with
    | some doc => Utf8.ofString (Json.print doc)
    | none => []
  (headLines r body).flatMap (fun line => Utf8.ofString (line ++ "\r\n")) ++
    Utf8.ofString "\r\n" ++ body

/-! ### Responses -/

/-- Where a response is being read: in its head, whose octets are held last first, or in its body,
by the way in which the body's end is found. -/
inductive Phase where
  | head (held : Bytes)
  | counted (left : Nat)
  | chunkSize (size : Nat) (reading : Bool)
  | chunk (left : Nat)
  | chunkEnd
  | trailer (blank : Bool)
  | untilClosed
  | finished
  | refused
  deriving DecidableEq

/-- A response as far as it has come. -/
structure Receiver where
  phase : Phase := .head []
  status : Nat := 0
  announced : Option Nat := none
  deriving DecidableEq

/-- The lines of a head. -/
def linesOf (head : Bytes) : List (List Char) :=
  ((head.map fun b => Char.ofNat b.toNat).splitOn '\n').map fun line =>
    line.filter (· != '\r')

/-- The status that a first line tells. -/
def status? (line : List Char) : Option Nat :=
  match line.splitOn ' ' with
  | version :: code :: _ =>
    if "HTTP/1.".toList.isPrefixOf version ∧ code.length = 3 then digits? code else none
  | _ => none

/-- The value of a header, whose name is given in small letters. -/
def header? (name : String) (lines : List (List Char)) : Option (List Char) :=
  lines.findSome? fun line =>
    let key := line.takeWhile (· != ':')
    if String.ofList (key.map Char.toLower) = name then some (trim (line.drop (key.length + 1)))
    else none

/-- Goes on from a head to the body it announces. A head of a status below 200 only comes before
another. -/
def afterHead (head : Bytes) : Receiver :=
  match linesOf head with
  | first :: lines =>
    match status? first with
    | none => { phase := .refused }
    | some status =>
      let chunked := (header? "transfer-encoding" lines).map fun v => v.map Char.toLower
      if status < 200 then {}
      else if status = 204 ∨ status = 304 then { phase := .finished, status }
      else if chunked = some "chunked".toList then { phase := .chunkSize 0 true, status }
      else
        match header? "content-length" lines with
        | none => { phase := .untilClosed, status }
        | some value =>
          match digits? value with
          | some 0 => { phase := .finished, status, announced := some 0 }
          | some n => { phase := .counted n, status, announced := some n }
          | none => { phase := .refused }
  | [] => { phase := .refused }

/-- Takes in one octet. The answer says whether it belongs to the body's content. -/
def Receiver.take (r : Receiver) (b : UInt8) : Receiver × Bool :=
  match r.phase with
  | .head held =>
    match b :: held with
    | 0x0A :: 0x0D :: 0x0A :: 0x0D :: before => (afterHead before.reverse, false)
    | held => ({ r with phase := .head held }, false)
  | .counted left => ({ r with phase := if left ≤ 1 then .finished else .counted (left - 1) }, true)
  | .chunkSize size reading =>
    if b = 0x0A then
      ({ r with phase := if size = 0 then .trailer true else .chunk size }, false)
    else if reading then
      match hexDigit? (Char.ofNat b.toNat) with
      | some d => ({ r with phase := .chunkSize (16 * size + d) true }, false)
      | none => ({ r with phase := .chunkSize size false }, false)
    else (r, false)
  | .chunk left => ({ r with phase := if left ≤ 1 then .chunkEnd else .chunk (left - 1) }, true)
  | .chunkEnd => ({ r with phase := if b = 0x0A then .chunkSize 0 true else .chunkEnd }, false)
  | .trailer blank =>
    if b = 0x0A then ({ r with phase := if blank then .finished else .trailer true }, false)
    else ({ r with phase := .trailer (blank && b = 0x0D) }, false)
  | .untilClosed => (r, true)
  | .finished => (r, false)
  | .refused => (r, false)

/-- Takes in octets; what belongs to the content is put before `content`, last first. -/
def Receiver.takeAll (r : Receiver) (content : Bytes) : Bytes → Receiver × Bytes
  | [] => (r, content)
  | b :: rest =>
    let (next, kept) := r.take b
    next.takeAll (if kept then b :: content else content) rest

/-- Whether nothing more is waited for. -/
def Receiver.isDone (r : Receiver) : Bool := r.phase == .finished || r.phase == .refused

/-- A connection that ended too early, or a peer that does not speak the protocol. -/
def brokenOff : Interruption := ⟨false, "the connection broke off"⟩

/-- What has come of a request, when the way back ended as `ended` says and brought the pieces
`chunks`. -/
def Receiver.answer (r : Receiver) (chunks : List Bytes) (ended : Option Interruption) : Answer :=
  let response (rest : List Chunk) : Answer :=
    .responded ⟨r.status, r.announced, chunks.map .bytes ++ rest⟩
  match r.phase with
  | .head _ => .interrupted (ended.getD brokenOff)
  | .refused => .interrupted brokenOff
  | .finished => response []
  | .untilClosed => response ((ended.map .broken).toList)
  | _ => response [.broken (ended.getD brokenOff)]

end AnalysisPanel.Service.Wire
