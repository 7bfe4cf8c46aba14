import AnalysisPanel.Proofs.Config.Endpoints
import AnalysisPanel.Proofs.Url.Rereading

/-! Links of finished charts. A link is left as it is where it is a URL or nothing can be made of
it, and is otherwise made absolute; making it absolute once more changes nothing. -/

namespace AnalysisPanel.Service

variable {endpoint link : String} {base joined : Url}

theorem resolveLink_of_parses (absolute : Parses link) : resolveLink base link = link := by
  obtain ⟨u, parsed⟩ := absolute
  rw [resolveLink, parsed]

theorem resolveLink_of_unjoined (unjoined : ∀ joined, base.join link ≠ .ok joined) :
    resolveLink base link = link := by
  unfold resolveLink
  split
  · rfl
  · split
    · rename_i joined made
      exact absurd made (unjoined joined)
    · rfl

theorem resolveLink_of_joined (relative : ¬ Parses link) (made : base.join link = .ok joined) :
    resolveLink base link = joined.text := by
  unfold resolveLink
  split
  · rename_i u parsed
    exact absurd ⟨u, parsed⟩ relative
  · rw [made]

/-- What is written of a URL is made absolute no further: if it does not parse by itself, it does
not parse relative to another either. -/
theorem resolveLink_text (w : joined.WellFormed) : resolveLink base joined.text = joined.text := by
  by_cases absolute : Parses joined.text
  · exact resolveLink_of_parses absolute
  · refine resolveLink_of_unjoined fun u made => absolute ⟨u, ?_⟩
    rwa [Url.join, w.read_text] at made

theorem resolveLink_resolveLink (w : base.WellFormed) (link : String) :
    resolveLink base (resolveLink base link) = resolveLink base link := by
  by_cases absolute : Parses link
  · rw [resolveLink_of_parses absolute, resolveLink_of_parses absolute]
  · cases made : base.join link with
    | error reason =>
      have kept : resolveLink base link = link := resolveLink_of_unjoined (by simp [made])
      rw [kept, kept]
    | ok joined =>
      have sound : joined.WellFormed := Url.wellFormed_of_read (by simpa using w) made
      rw [resolveLink_of_joined absolute made, resolveLink_text sound]

theorem wellFormed_of_endpoint? (given : endpoint? endpoint = .ok base) : base.WellFormed := by
  have baseless : ∀ b ∈ (none : Option Url), b.WellFormed := nofun
  exact Url.wellFormed_of_read baseless (mapError_eq_ok given)

/-- What the delivery of a chart brings has been made absolute at its endpoint. -/
theorem resolved_of_delivered {settings : Settings} {answer : Request → Answer}
    {payload : Json.Value} (given : endpoint? settings.endpoints.deliver = .ok base)
    (delivered : perform settings answer (.deliver payload) = .delivery (.ok link)) :
    ∃ written, link = resolveLink base written := by
  unfold perform at delivered
  split at delivered
  · cases delivered
  · dsimp only at delivered
    split at delivered
    · cases delivered
    · rename_i response _
      have brought := Reply.delivery.inj delivered
      cases decoded : response.decode link? with
      | error failure =>
        rw [decoded] at brought
        cases brought
      | ok written =>
        rw [decoded] at brought
        change linkFrom settings.endpoints.deliver written = .ok link at brought
        rw [linkFrom, given] at brought
        exact ⟨written, (Except.ok.inj brought).symm⟩

/-- A link that is a URL, or of which nothing can be made at the endpoint, stays as it is. Any other
is written as the URL that it is at the endpoint, which is one if its host can be read as it is
written. Whatever has been made of a link, and so whatever the delivery of a chart brings, stays as
it is when it is made absolute at the same endpoint once more. -/
theorem resolved_link_lasts (given : endpoint? endpoint = .ok base) (link : String) :
    linkFrom endpoint link = .ok (resolveLink base link) ∧
      (Parses link ∨ (∀ joined, base.join link ≠ .ok joined) → resolveLink base link = link) ∧
      (∀ joined, ¬ Parses link → base.join link = .ok joined →
        resolveLink base link = joined.text ∧ (joined.Legible → Parses joined.text)) ∧
      resolveLink base (resolveLink base link) = resolveLink base link ∧
      ∀ settings answer payload, settings.endpoints.deliver = endpoint →
        perform settings answer (.deliver payload) = .delivery (.ok link) →
          resolveLink base link = link := by
  have w := wellFormed_of_endpoint? given
  refine ⟨?_, ?_, ?_, resolveLink_resolveLink w link, ?_⟩
  · rw [linkFrom, given]
    rfl
  · rintro (absolute | unjoined)
    · exact resolveLink_of_parses absolute
    · exact resolveLink_of_unjoined unjoined
  · intro joined relative made
    have sound : joined.WellFormed := Url.wellFormed_of_read (by simpa using w) made
    exact ⟨resolveLink_of_joined relative made, sound.parse_text⟩
  · rintro settings answer payload rfl delivered
    obtain ⟨written, rfl⟩ := resolved_of_delivered given delivered
    exact resolveLink_resolveLink w written

/-- A path that comes back from the endpoint for charts is one on the host of the endpoint. -/
theorem resolved_link_lasts_dashboard :
    let base : Url :=
      { scheme := "http", host := some (.name "model.test"), path := .segments ["api", "dash", ""] }
    endpoint? "http://model.test/api/dash/" = .ok base ∧
      resolveLink base "/dashboard/12/" = "http://model.test/dashboard/12/" ∧
      Parses "http://model.test/dashboard/12/" ∧
      resolveLink base "http://model.test/dashboard/12/" = "http://model.test/dashboard/12/" := by
  intro base
  have given : endpoint? "http://model.test/api/dash/" = .ok base := by decide +kernel
  have relative : ¬ Parses "/dashboard/12/" := by decide +kernel
  have made : base.join "/dashboard/12/" =
      .ok { base with path := .segments ["dashboard", "12", ""] } := by
    decide +kernel
  have plain : Url.IsPlainName "model.test".toList := by decide +kernel
  obtain ⟨-, -, joins, lasts, -⟩ := resolved_link_lasts given "/dashboard/12/"
  obtain ⟨resolved, parses⟩ := joins _ relative made
  have text : resolveLink base "/dashboard/12/" = "http://model.test/dashboard/12/" :=
    resolved.trans (by decide +kernel)
  rw [text] at lasts
  refine ⟨given, text, ?_, lasts⟩
  rw [← text, resolved]
  refine parses ?_
  rintro _ ⟨⟩
  exact fun _ marked => absurd plain marked

end AnalysisPanel.Service
