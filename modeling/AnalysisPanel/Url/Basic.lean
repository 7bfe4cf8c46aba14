import AnalysisPanel.Url.Host

/-! URLs in their parts, and how they are written. -/

namespace AnalysisPanel

namespace Url

/-- A path: segments with slashes before them, or plain text that nothing can be relative to. -/
inductive Path where
  | segments (segments : List String)
  | plain (text : String)
  deriving DecidableEq, Inhabited

end Url

/-- A URL in its parts. -/
structure Url where
  scheme : String
  username : String := ""
  password : String := ""
  host : Option Url.Host := none
  port : Option Nat := none
  path : Url.Path
  query : Option String := none
  fragment : Option String := none
  deriving DecidableEq, Inhabited

namespace Url

/-- The port a scheme means when none is written. -/
def defaultPort (scheme : String) : Option Nat :=
  if scheme = "http" ∨ scheme = "ws" then some 80
  else if scheme = "https" ∨ scheme = "wss" then some 443
  else if scheme = "ftp" then some 21
  else none

/-- Whether a scheme is one of those whose URLs always have a host and a path. -/
def isSpecialScheme (scheme : String) : Bool :=
  scheme == "file" || (defaultPort scheme).isSome

/-- Whether the URL is of a special scheme. -/
def isSpecial (u : Url) : Bool := isSpecialScheme u.scheme

/-- Whether a relative URL has nothing to be relative to. -/
def hasPlainPath (u : Url) : Bool :=
  match u.path with
  | .plain _ => true
  | .segments _ => false

/-- Writes a path. -/
def Path.text : Path → String
  | .plain whole => whole
  | .segments parts => String.join (parts.map ("/" ++ ·))

/-- Writes the part between the scheme and the path. Without a host, a path that would begin with
two slashes is kept apart by a dot. -/
def authorityText (u : Url) : String :=
  match u.host with
  | some host =>
    let password := if u.password = "" then "" else ":" ++ u.password
    let userinfo := if u.username = "" ∧ u.password = "" then "" else u.username ++ password ++ "@"
    let port := match u.port with
      | some n => ":" ++ toString n
      | none => ""
    "//" ++ userinfo ++ host.text ++ port
  | none =>
    match u.path with
    | .segments ("" :: _ :: _) => "/."
    | _ => ""

/-- A part with the mark before it, if there is such a part. -/
def marked (mark : String) : Option String → String
  | some text => mark ++ text
  | none => ""

/-- The URL without its fragment. -/
def requestText (u : Url) : String :=
  u.scheme ++ ":" ++ u.authorityText ++ u.path.text ++ marked "?" u.query

/-- Writes a URL. -/
def text (u : Url) : String := u.requestText ++ marked "#" u.fragment

end Url

end AnalysisPanel
