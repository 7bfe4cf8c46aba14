/-! How a call to a service may fail. -/

namespace AnalysisPanel.Service

/-- The kinds of failure. -/
inductive FailureKind where
  | invalidUrl
  | httpStatus (code : Nat)
  | timeout
  | tooLarge (maxBytes : Nat) (actual : Option Nat)
  | decode
  | network
  deriving DecidableEq, Inhabited

/-- A kind in words. -/
def FailureKind.text : FailureKind → String
  | .invalidUrl => "invalid url"
  | .httpStatus code => "http status " ++ toString code
  | .timeout => "timeout"
  | .tooLarge maxBytes actual =>
    let shown := match actual with
      | some n => "Some(" ++ toString n ++ ")"
      | none => "None"
    "response too large (max " ++ toString maxBytes ++ ", actual " ++ shown ++ ")"
  | .decode => "unexpected response body"
  | .network => "network error"

/-- A failure with what is known of its cause. -/
structure Failure where
  kind : FailureKind
  message : String
  deriving DecidableEq, Inhabited

/-- A failure in words. -/
def Failure.text (f : Failure) : String := f.kind.text ++ ": " ++ f.message

end AnalysisPanel.Service
