import AnalysisPanel.Url.Basic

/-! Reading URLs, absolute and relative to another. Blanks and controls around a URL and tabs and
line ends inside it do not count. -/

namespace AnalysisPanel.Url

open Text

/-- The characters of a URL that count. -/
def significant (s : String) : List Char :=
  let trimmed := s.toList.dropWhile fun c => c.toNat ≤ 0x20
  let trimmed := (trimmed.reverse.dropWhile fun c => c.toNat ≤ 0x20).reverse
  trimmed.filter fun c => c != '\t' && c != '\n' && c != '\r'

/-- Whether a character may stand in a scheme after its first letter. -/
def isSchemeChar (c : Char) : Bool := c.isAlphanum || c == '+' || c == '-' || c == '.'

/-- Takes the scheme off a URL, in lower case. -/
def scheme? (cs : List Char) : Option (String × List Char) :=
  if cs.head?.any Char.isAlpha then
    let scheme := cs.takeWhile isSchemeChar
    match cs.drop scheme.length with
    | ':' :: rest => some (String.ofList (scheme.map Char.toLower), rest)
    | _ => none
  else none

/-- Whether a character separates the segments of a path. -/
def isSlash (special : Bool) (c : Char) : Bool := c == '/' || (special && c == '\\')

/-- Whether a character ends the part before a path. -/
def endsAuthority (special : Bool) (c : Char) : Bool := isSlash special c || c == '?' || c == '#'

/-! ### Query and fragment -/

/-- Reads what follows a path: a query, a fragment, both or neither. -/
def withTail (u : Url) (cs : List Char) : Url :=
  let query? (cs : List Char) : Option String :=
    let set := if u.isSpecial then specialQuerySet else querySet
    match cs with
    | '?' :: rest => some (String.ofList (percentEncode set rest))
    | _ => none
  let fragment? (cs : List Char) : Option String :=
    match cs with
    | '#' :: rest => some (String.ofList (percentEncode fragmentSet rest))
    | _ => none
  { u with
    query := query? (cs.takeWhile (· != '#'))
    fragment := fragment? (cs.dropWhile (· != '#')) }

/-! ### Paths -/

/-- Whether a text is a drive letter with a colon or a bar. -/
def isDrive : List Char → Bool
  | [a, b] => a.isAlpha && (b == ':' || b == '|')
  | _ => false

/-- Whether a text begins with a drive letter that ends there. -/
def startsWithDrive (cs : List Char) : Bool :=
  isDrive (cs.take 2) && (match cs.drop 2 with
    | [] => true
    | c :: _ => endsAuthority true c)

/-- Whether a segment is a drive letter with a colon. -/
def isNormalDrive (segment : String) : Bool :=
  isDrive segment.toList && segment.toList.getLast? == some ':'

/-- Whether a segment stands for the directory itself. -/
def isSingleDot (cs : List Char) : Bool :=
  [".", "%2e"].contains (String.ofList (cs.map Char.toLower))

/-- Whether a segment stands for the directory above. -/
def isDoubleDot (cs : List Char) : Bool :=
  ["..", ".%2e", "%2e.", "%2e%2e"].contains (String.ofList (cs.map Char.toLower))

/-- Leaves the last segment of a path, unless that is the drive of a file. -/
def shorten (scheme : String) (segments : List String) : List String :=
  match segments with
  | [drive] => if scheme = "file" ∧ isNormalDrive drive then segments else []
  | _ => segments.dropLast

/-- Goes one segment further down a path; `last` says that no slash follows. -/
def descend (scheme : String) (segments : List String) (segment : List Char) (last : Bool) :
    List String :=
  if isDoubleDot segment then
    let above := shorten scheme segments
    if last then above ++ [""] else above
  else if isSingleDot segment then
    if last then segments ++ [""] else segments
  else if scheme = "file" ∧ segments.isEmpty ∧ isDrive segment then
    segments ++ [String.ofList (segment.take 1 ++ [':'])]
  else segments ++ [String.ofList (percentEncode pathSet segment)]

/-- Splits a text at every slash. -/
def splitSlashes (special : Bool) : List Char → List (List Char)
  | [] => [[]]
  | c :: rest =>
    if isSlash special c then [] :: splitSlashes special rest
    else
      match splitSlashes special rest with
      | part :: parts => (c :: part) :: parts
      | [] => [[c]]

/-- Goes down a path segment by segment. -/
def descendAll (scheme : String) : List String → List (List Char) → List String
  | segments, [] => segments
  | segments, [segment] => descend scheme segments segment true
  | segments, segment :: rest => descendAll scheme (descend scheme segments segment false) rest

/-- Reads the segments that a text before query and fragment names, below those given. -/
def withPath (u : Url) (segments : List String) (cs : List Char) : Url :=
  let special := u.isSpecial
  let path := cs.takeWhile fun c => c != '?' && c != '#'
  let tail := cs.dropWhile fun c => c != '?' && c != '#'
  withTail { u with path := .segments (descendAll u.scheme segments (splitSlashes special path)) }
    tail

/-- Reads the path after a host. Only a special URL has a path when none is written; a path that
begins without a slash is taken for one with it. -/
def withPathStart (u : Url) (cs : List Char) : Url :=
  match cs with
  | c :: rest =>
    if isSlash u.isSpecial c then withPath u [] rest
    else if u.isSpecial || !(c == '?' || c == '#') then withPath u [] cs
    else withTail { u with path := .segments [] } cs
  | [] => { u with path := .segments (if u.isSpecial then [""] else []) }

/-! ### Authority -/

/-- Splits a text at the last occurrence of a character. -/
def splitLast? (sep : Char) (cs : List Char) : Option (List Char × List Char) :=
  let after := (cs.reverse.takeWhile (· != sep)).reverse
  if after.length = cs.length then none else some (cs.take (cs.length - after.length - 1), after)

/-- The characters of a host, up to a colon outside brackets. -/
def hostSpan : Bool → List Char → List Char
  | _, [] => []
  | inside, c :: rest =>
    if c = ':' ∧ !inside then []
    else c :: hostSpan (if c = '[' then true else if c = ']' then false else inside) rest

/-- Reads a port. The default port of the scheme is left out. -/
def port? (scheme : String) (cs : List Char) : Except ParseError (Option Nat) :=
  match cs with
  | [] => .ok none
  | cs =>
    match digits? cs with
    | some n =>
      if 65535 < n then .error .invalidPort
      else .ok (if defaultPort scheme = some n then none else some n)
    | none => .error .invalidPort

/-- Reads the host of a URL that is not a file. -/
def hostOf (special : Bool) (cs : List Char) : Except ParseError Host :=
  if special then
    if cs.isEmpty then .error .emptyHost else Host.special cs
  else Host.plain cs

/-- Reads the part between two slashes and the path, and then the rest. A host must be named where
there is a user or a password. A port ends also at a backslash. -/
def withAuthority (scheme : String) (cs : List Char) : Except ParseError Url :=
  let special := isSpecialScheme scheme
  let authority := cs.takeWhile fun c => !endsAuthority special c
  let rest := cs.drop authority.length
  let (userinfo, hostPort) := match splitLast? '@' authority with
    | some (userinfo, hostPort) => (some userinfo, hostPort)
    | none => (none, authority)
  let user := (userinfo.getD []).takeWhile (· != ':')
  let password := (userinfo.getD []).drop (user.length + 1)
  let hostText := hostSpan false hostPort
  let portText := (hostPort.drop hostText.length).takeWhile (· != '\\')
  let rest := hostPort.drop (hostText.length + portText.length) ++ rest
  let named := !user.isEmpty || !password.isEmpty
  if hostPort.isEmpty ∧ (named ∨ userinfo = some [] ∧ !rest.isEmpty) then .error .emptyHost
  else
    match hostOf special hostText with
    | .error e => .error e
    | .ok host =>
      if host = .name "" ∧ !portText.isEmpty then .error .emptyHost
      else
        match port? scheme (portText.drop 1) with
        | .error e => .error e
        | .ok port =>
          .ok (withPathStart
            { scheme
              username := String.ofList (percentEncode userinfoSet user)
              password := String.ofList (percentEncode userinfoSet password)
              host := some host, port, path := .segments [] } rest)

/-! ### Files -/

/-- The host of a file; the local host is left out. -/
def fileHost (cs : List Char) : Except ParseError Host :=
  if cs.isEmpty then .ok (.name "")
  else
    match Host.special cs with
    | .ok (.name "localhost") => .ok (.name "")
    | result => result

/-- A file URL without path. -/
def fileRoot (host : Option Host) : Url := { scheme := "file", host, path := .segments [] }

/-- The segments of a URL's path. -/
def segments (u : Url) : List String :=
  match u.path with
  | .segments segments => segments
  | .plain _ => []

/-- Reads a file URL after its scheme, relative to another file if there is one. -/
def file (base : Option Url) (cs : List Char) : Except ParseError Url :=
  match cs with
  | c :: rest =>
    if isSlash true c then
      match rest with
      | d :: rest' =>
        if isSlash true d then
          let hostText := rest'.takeWhile fun c => !endsAuthority true c
          if isDrive hostText then .ok (withPath (fileRoot (some (.name ""))) [] rest')
          else
            (fileHost hostText).map fun host =>
              withPathStart (fileRoot (some host)) (rest'.drop hostText.length)
        else .ok (fileBelowRoot rest)
      | [] => .ok (fileBelowRoot rest)
    else
      match base with
      | none => .ok (withPath (fileRoot (some (.name ""))) [] cs)
      | some b =>
        if c = '?' then .ok (withTail { b with fragment := none } cs)
        else if c = '#' then .ok (withTail b cs |> fun u => { u with query := b.query })
        else
          let start := if startsWithDrive cs then [] else shorten "file" b.segments
          .ok (withPath { fileRoot b.host with path := .segments start } start cs)
  | [] =>
    match base with
    | some b => .ok { b with fragment := none }
    | none => .ok { fileRoot (some (.name "")) with path := .segments [""] }
where
  /-- One slash: the root of the base's host, or of its drive. -/
  fileBelowRoot (rest : List Char) : Url :=
    match base with
    | none => withPath (fileRoot (some (.name ""))) [] rest
    | some b =>
      let drive := if startsWithDrive rest then [] else (b.segments.take 1).filter isNormalDrive
      withPath (fileRoot b.host) drive rest

/-! ### Whole URLs -/

/-- Reads a URL relative to one that is no file. -/
def relativeTo (base : Url) (cs : List Char) : Except ParseError Url :=
  let special := base.isSpecial
  match cs with
  | [] => .ok { base with fragment := none }
  | c :: rest =>
    if isSlash special c then
      match rest with
      | d :: rest' =>
        if isSlash special d then
          withAuthority base.scheme (if special then rest'.dropWhile (isSlash true) else rest')
        else .ok (withPath { base with query := none, fragment := none } [] rest)
      | [] => .ok (withPath { base with query := none, fragment := none } [] rest)
    else if c = '?' then .ok (withTail { base with fragment := none } cs)
    else if c = '#' then .ok { withTail base cs with query := base.query }
    else
      .ok (withPath { base with query := none, fragment := none }
        (shorten base.scheme base.segments) cs)

/-- Reads a URL after its scheme. -/
def afterScheme (base : Option Url) (scheme : String) (cs : List Char) : Except ParseError Url :=
  if scheme = "file" then file (base.filter (·.scheme == "file")) cs
  else if isSpecialScheme scheme then
    let slashes := cs.takeWhile (isSlash true)
    match base with
    | some b =>
      if b.scheme = scheme ∧ slashes.length < 2 then relativeTo b cs
      else withAuthority scheme (cs.drop slashes.length)
    | none => withAuthority scheme (cs.drop slashes.length)
  else
    match cs with
    | '/' :: '/' :: rest => withAuthority scheme rest
    | '/' :: rest => .ok (withPath { scheme, path := .segments [] } [] rest)
    | cs =>
      let plain := cs.takeWhile fun c => c != '?' && c != '#'
      let u : Url := { scheme, path := .plain (String.ofList (percentEncode controlSet plain)) }
      .ok (withTail u (cs.drop plain.length))

/-- Reads a URL, relative to another if there is one. -/
def read (base : Option Url) (s : String) : Except ParseError Url :=
  let cs := significant s
  match scheme? cs with
  | some (scheme, rest) => afterScheme base scheme rest
  | none =>
    match base with
    | none => .error .relativeWithoutBase
    | some b =>
      if cs.head? = some '#' then .ok { withTail b cs with query := b.query }
      else if b.hasPlainPath then .error .relativeToPlainBase
      else if b.scheme = "file" then file (some b) cs
      else relativeTo b cs

/-- Reads an absolute URL. -/
def parse (s : String) : Except ParseError Url := read none s

/-- Reads a URL relative to another. -/
def join (base : Url) (s : String) : Except ParseError Url := read (some base) s

end AnalysisPanel.Url
