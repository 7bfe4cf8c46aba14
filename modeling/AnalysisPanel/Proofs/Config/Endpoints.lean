import AnalysisPanel.Config.Loading
import AnalysisPanel.Proofs.Service.Outcomes

/-! Endpoints of a configuration. Loading accepts a configuration only when each of its endpoints is
a URL, and otherwise names the first that is none; so the calls of an accepted configuration never
fail for a URL. -/

namespace AnalysisPanel

open Config Service

namespace Service

/-- A text is a URL. -/
def Parses (written : String) : Prop := ∃ url, Url.parse written = .ok url

instance (written : String) : Decidable (Parses written) :=
  match parsed : Url.parse written with
  | .ok url => isTrue ⟨url, parsed⟩
  | .error _ => isFalse (by rintro ⟨url, same⟩; rw [parsed] at same; cases same)

theorem not_parses_of_error {written : String} {reason : Url.ParseError}
    (malformed : Url.parse written = .error reason) : ¬ Parses written := by
  rintro ⟨url, parsed⟩
  rw [malformed] at parsed
  cases parsed

/-- Each endpoint is listed under a name of its own. -/
theorem Purpose.name_injective : Function.Injective Purpose.name := by
  intro p q same
  cases p <;> cases q <;> first | rfl | exact absurd same (by decide)

/-- Without a configuration file every endpoint is a URL. -/
theorem parses_loopback (p : Purpose) : Parses (Endpoints.loopback.url p) := by
  cases p <;> decide +kernel

end Service

namespace Configuration

variable {c d : Configuration} {e : Endpoints} {p : Purpose} {file : ConfigFile}
  {error : ConfigError}

/-! ## Checks -/

theorem badEndpoint?_eq_none_iff : badEndpoint? e p = none ↔ Parses (e.url p) := by
  unfold badEndpoint?
  split
  · rename_i url parsed
    exact iff_of_true rfl ⟨url, parsed⟩
  · rename_i reason malformed
    exact iff_of_false nofun (not_parses_of_error malformed)

theorem badEndpoint?_eq_some_iff :
    badEndpoint? e p = some error ↔
      ∃ reason, Url.parse (e.url p) = .error reason ∧ error = .endpoint p (e.url p) reason := by
  unfold badEndpoint?
  split
  · rename_i url parsed
    refine iff_of_false nofun ?_
    rintro ⟨reason, malformed, -⟩
    rw [parsed] at malformed
    cases malformed
  · rename_i reason malformed
    rw [malformed]
    constructor
    · rintro ⟨⟩
      exact ⟨reason, rfl, rfl⟩
    · rintro ⟨_, ⟨⟩, rfl⟩
      rfl

theorem validate_eq_ok_iff : c.validate = .ok d ↔ c = d ∧ ∀ p, Parses (c.endpoints.url p) := by
  have checked :
      Purpose.all.findSome? (badEndpoint? c.endpoints) = none ↔
        ∀ p, Parses (c.endpoints.url p) := by
    simp only [List.findSome?_eq_none_iff, badEndpoint?_eq_none_iff, Purpose.mem_all, true_imp_iff]
  rw [← checked, validate]
  split
  · rename_i none
    simp [none]
  · rename_i some
    simp [some]

theorem validate_eq_error_iff :
    c.validate = .error error ↔
      Purpose.all.findSome? (badEndpoint? c.endpoints) = some error := by
  unfold validate
  split
  · rename_i none
    simp [none]
  · rename_i some
    simp [some]

/-- The endpoint that a check names is the first in the list that is no URL. -/
theorem validate_eq_endpoint_iff {value : String} {reason : Url.ParseError} :
    c.validate = .error (.endpoint p value reason) ↔
      ∃ before after, c.endpoints.all = before ++ (p.name, value) :: after ∧
        (∀ entry ∈ before, Parses entry.2) ∧ Url.parse value = .error reason := by
  rw [validate_eq_error_iff, List.findSome?_eq_some_iff, Endpoints.all]
  constructor
  · rintro ⟨before, p', after, cut, bad, good⟩
    obtain ⟨reason', malformed, ⟨⟩⟩ := badEndpoint?_eq_some_iff.mp bad
    refine ⟨before.map fun p => (p.name, c.endpoints.url p),
      after.map fun p => (p.name, c.endpoints.url p), by rw [cut, List.map_append]; rfl, ?_,
      malformed⟩
    refine List.forall_mem_map.mpr fun q earlier => ?_
    exact badEndpoint?_eq_none_iff.mp (good q earlier)
  · rintro ⟨before, after, cut, good, malformed⟩
    obtain ⟨ps, rest, listed, rfl, last⟩ := List.map_eq_append_iff.mp cut
    obtain ⟨q, qs, rfl, same, -⟩ := List.map_eq_cons_iff.mp last
    obtain ⟨name, rfl⟩ := Prod.mk.inj same
    cases Purpose.name_injective name
    refine ⟨ps, p, qs, listed, badEndpoint?_eq_some_iff.mpr ⟨reason, malformed, rfl⟩, ?_⟩
    intro q earlier
    exact badEndpoint?_eq_none_iff.mpr
      (good (q.name, c.endpoints.url q) (List.mem_map_of_mem earlier))

/-! ## Loading -/

/-- The configuration that was found, whatever its endpoints are. -/
def found? : ConfigFile → Option Configuration
  | .missing => some {}
  | .unreadable _ => none
  | .content octets => (Text.Utf8.decode octets).bind ofText?

theorem load_of_found (path : String) (found : found? file = some c) :
    load path file = c.validate := by
  cases file with
  | missing =>
    have accepted : validate {} = .ok {} := validate_eq_ok_iff.mpr ⟨rfl, parses_loopback⟩
    obtain rfl : {} = c := Option.some.inj found
    exact accepted.symm
  | unreadable reason => cases found
  | content octets =>
    obtain ⟨cs, decoded, read⟩ := Option.bind_eq_some_iff.mp found
    simp only [load, decoded, read]

/-- Where no configuration was found, loading says so and names no endpoint. -/
theorem load_of_not_found (path : String) (missing : found? file = none) :
    ∃ error, load path file = .error error ∧
      ∀ p value reason, error ≠ .endpoint p value reason := by
  cases file with
  | missing => cases missing
  | unreadable reason => exact ⟨_, rfl, nofun⟩
  | content octets =>
    unfold load
    dsimp only
    split
    · exact ⟨_, rfl, nofun⟩
    · rename_i cs decoded
      have unread : ofText? cs = none := by simpa [found?, decoded] using missing
      rw [unread]
      exact ⟨_, rfl, nofun⟩

theorem load_eq_ok_iff (path : String) :
    load path file = .ok c ↔ found? file = some c ∧ ∀ p, Parses (c.endpoints.url p) := by
  cases found : found? file with
  | none =>
    obtain ⟨error, rejected, -⟩ := load_of_not_found path found
    simp [rejected]
  | some d =>
    rw [load_of_found path found, validate_eq_ok_iff, Option.some.injEq]
    exact and_congr_right fun same => by rw [same]

/-- A configuration that was found loads exactly if each of its endpoints is a URL. The calls of one
that loads never fail for a URL, whatever they carry, whatever the environment holds and whatever
comes of their requests. Where loading stops at an endpoint, it is the first in the list of
endpoints that is no URL. -/
theorem loaded_endpoints_serve (path : String) (file : ConfigFile) :
    (∀ c, load path file = .ok c ↔ found? file = some c ∧ ∀ p, Parses (c.endpoints.url p)) ∧
      (∀ c, load path file = .ok c → ∀ env answer call failure,
        (perform (c.settings env) answer call).failure? = some failure →
          failure.kind ≠ .invalidUrl) ∧
      ∀ p value reason, load path file = .error (.endpoint p value reason) ↔
        ∃ c before after, found? file = some c ∧
          c.endpoints.all = before ++ (p.name, value) :: after ∧
          (∀ entry ∈ before, Parses entry.2) ∧ Url.parse value = .error reason := by
  refine ⟨fun c => load_eq_ok_iff path, ?_, ?_⟩
  · intro c loaded env answer call failure failed kind
    obtain ⟨-, parses⟩ := (load_eq_ok_iff path).mp loaded
    obtain ⟨reason, malformed⟩ := perform_blames_url_iff.mp ⟨failure, failed, kind⟩
    exact not_parses_of_error malformed (parses call.purpose)
  · intro p value reason
    cases found : found? file with
    | none =>
      obtain ⟨error, rejected, other⟩ := load_of_not_found path found
      rw [rejected, Except.error.injEq]
      exact iff_of_false (other p value reason) (by simp)
    | some c =>
      rw [load_of_found path found, validate_eq_endpoint_iff]
      constructor
      · rintro ⟨before, after, first⟩
        exact ⟨c, before, after, rfl, first⟩
      · rintro ⟨_, before, after, ⟨⟩, first⟩
        exact ⟨before, after, first⟩

/-- A configuration file that names the endpoint for charts only. -/
def deliveringTo (endpoint : String) : ConfigFile :=
  .content (Text.Utf8.ofString ("(endpoints: (deliver: \"" ++ endpoint ++ "\"))"))

/-- A relative endpoint is named, and an absolute one serves. -/
theorem loaded_endpoints_serve_delivering :
    load "c.ron" (deliveringTo "dash/") =
        .error (.endpoint .deliver "dash/" .relativeWithoutBase) ∧
      ∃ c, load "c.ron" (deliveringTo "http://h/d/") = .ok c ∧ c.endpoints.deliver = "http://h/d/" ∧
        ∀ env answer failure,
          (perform (c.settings env) answer (.deliver .null)).failure? = some failure →
            failure.kind ≠ .invalidUrl := by
  have relative : found? (deliveringTo "dash/") =
      some { endpoints := { Endpoints.loopback with deliver := "dash/" } } := by decide +kernel
  have absolute : found? (deliveringTo "http://h/d/") =
      some { endpoints := { Endpoints.loopback with deliver := "http://h/d/" } } := by
    decide +kernel
  have malformed : errorOf? (Url.parse "dash/") = some .relativeWithoutBase := by decide +kernel
  have parses : ∀ p, Parses (Endpoints.url { Endpoints.loopback with deliver := "http://h/d/" } p)
    | .deliver => by decide +kernel
    | .discover => parses_loopback .discover
    | .analyse => parses_loopback .analyse
    | .synthesizeSelection => parses_loopback .synthesizeSelection
    | .synthesizePrompt => parses_loopback .synthesizePrompt
    | .report => parses_loopback .report
    | .sessionInfo => parses_loopback .sessionInfo
  obtain ⟨-, -, names⟩ := loaded_endpoints_serve "c.ron" (deliveringTo "dash/")
  obtain ⟨loads, serves, -⟩ := loaded_endpoints_serve "c.ron" (deliveringTo "http://h/d/")
  have loaded := (loads _).mpr ⟨absolute, parses⟩
  refine ⟨(names _ _ _).mpr ⟨_, Endpoints.loopback.all.take 4, Endpoints.loopback.all.drop 5,
    relative, rfl, ?_, errorOf?_eq_some_iff.mp malformed⟩, _, loaded, rfl, ?_⟩
  · decide +kernel
  · intro env answer failure failed
    exact serves _ loaded env answer _ failure failed

end Configuration

end AnalysisPanel
