import AnalysisPanel.Proofs.Panel.Numbering
import AnalysisPanel.Proofs.Text.Trimming

/-! What a conversation remembers of itself. Its questions are the prompts that were accepted since
it began, and every request that carries a history carries all prompts accepted before it. -/

namespace AnalysisPanel

/-! ## Prompts and histories among effects -/

/-- The prompt of a question to discovery. -/
def DiscoverRequest.prompt : DiscoverRequest → String
  | .candidates prompt _ | .analysis prompt _ _ => prompt

/-- The history a question to discovery comes with. -/
def DiscoverRequest.history : DiscoverRequest → List HistoryTurn
  | .candidates _ history | .analysis _ history _ => history

/-- The prompt a call puts to the services. -/
def Call.prompt? : Call → Option String
  | .discover request => some request.prompt
  | .synthesize (.prompt prompt) => some prompt
  | _ => none

/-- The history a call carries. -/
def Call.history? : Call → Option (List HistoryTurn)
  | .discover request => some request.history
  | .generateReport _ extra => some extra
  | _ => none

/-- The prompts accepted once an effect is asked for: a conversation that is closed is forgotten. -/
def acceptNext (prompts : List String) : Effect → List String
  | .closeSession _ => []
  | .issue _ call => prompts ++ call.prompt?.toList
  | _ => prompts

/-- The prompts that effects put to the services since they last closed a conversation, in order. -/
def acceptedPrompts (es : List Effect) : List String := es.foldl acceptNext []

theorem acceptedPrompts_demandsOf (es : List Effect) :
    acceptedPrompts (demandsOf es) = acceptedPrompts es := by
  rw [acceptedPrompts, demandsOf, List.foldl_filter, acceptedPrompts]
  congr 1
  funext prompts e
  cases e <;> rfl

namespace Transcript

theorem questions_append_of_reply {e : Entry} (reply : e.question? = none) (t : Transcript) :
    (t.append e).questions = t.questions := by
  rw [questions_append, reply]
  exact List.append_nil _

end Transcript

namespace Panel

variable {variant : Variant} {h : History} {p q : Panel} {m : Message} {es : List Effect}

/-! ## What a step does about questions -/

/-- A prompt that a message submits. -/
structure Submits (p : Panel) (m : Message) (prompt : String) : Prop where
  message : m = .promptSubmitted ∨ m = .tableSubmitted
  accepted : p.submission = .accepted prompt

/-- How the questions of a panel change in a step, and which effects for the engine go with it. A
call carries the questions before the step as its history, and adds its own prompt to them. -/
inductive Asks (p : Panel) (m : Message) (q : Panel) : List Effect → Prop where
  | kept : q.transcript.questions = p.transcript.questions → Asks p m q []
  | called (t : Ticket) (call : Call) :
      (∀ history, call.history? = some history → history = p.transcript.history) →
      (∀ prompt, call.prompt? = some prompt → Submits p m prompt) →
      q.transcript.questions = p.transcript.questions ++ call.prompt?.toList →
      Asks p m q [.issue t call]
  | closed (generation : Nat) : q.transcript.questions = [] →
      Asks p m q [.closeSession generation]
  | reloading (generation : Nat) (t : Ticket) (session : SessionId) :
      q.transcript.questions = [] →
      Asks p m q [.closeSession generation, .issue t (.loadSession session)]

theorem asks_of_plain (t : Ticket) {call : Call} (prompt : call.prompt? = none)
    (history : call.history? = none)
    (questions : q.transcript.questions = p.transcript.questions) :
    Asks p m q [.issue t call] := by
  refine .called t call ?_ ?_ ?_
  · intro turns carried
    rw [history] at carried
    cases carried
  · intro text put
    rw [prompt] at put
    cases put
  · rw [questions, prompt]
    exact (List.append_nil _).symm

theorem discoverRequest?_eq_some {prompt : String} {request : DiscoverRequest}
    (put : p.discoverRequest? prompt = some request) :
    request.prompt = prompt ∧ request.history = p.transcript.history := by
  unfold discoverRequest? at put
  split at put
  · cases put
    exact ⟨rfl, rfl⟩
  · obtain ⟨chart, -, rfl⟩ := Option.map_eq_some_iff.mp put
    exact ⟨rfl, rfl⟩

theorem Completing.asks {reply : Reply TransportFailure} (c : Completing p reply q es) :
    Asks p m q (demandsOf es) := by
  cases c with
  | offered labels _ => exact .kept (p.transcript.questions_append_of_reply rfl)
  | answered text => exact .kept (p.transcript.questions_append_of_reply rfl)
  | synthesized payload => exact asks_of_plain _ rfl rfl rfl
  | deliveredSelection link _ =>
    refine .kept ((p.transcript.dropPending.questions_append_of_reply rfl).trans ?_)
    exact p.transcript.questions_dropPending
  | deliveredTable link _ => exact .kept (p.transcript.questions_append_of_reply rfl)
  | _ => exact .kept rfl

/-- Every step does one of these things about questions. -/
theorem Rule.asks (r : Rule p m q es) : Asks p m q (demandsOf es) := by
  cases r with
  | opened session _ o =>
    cases o with
    | held _ => exact .kept rfl
    | loading _ => exact asks_of_plain _ rfl rfl rfl
  | switched session _ _ o =>
    rw [demandsOf_append, demandsOf_closing]
    cases o with
    | held _ => exact .closed _ rfl
    | loading _ => exact .reloading _ _ _ rfl
  | closed _ =>
    rw [demandsOf_closing]
    exact .closed _ rfl
  | drafted text _ =>
    obtain ⟨dirty, same⟩ := p.setDraft_eq text
    rw [same]
    exact .kept rfl
  | prompted prompt request accepted put =>
    obtain ⟨same, history⟩ := discoverRequest?_eq_some put
    refine .called p.nextTicket (.discover request) ?_ ?_ ?_
    · rintro _ ⟨⟩
      exact history
    · rintro _ ⟨⟩
      exact ⟨.inl rfl, same.symm ▸ accepted⟩
    · simp [Call.prompt?, same, asked, started, continueCall, takeDraft, append, Entry.question?]
  | tabled prompt accepted =>
    refine .called p.nextTicket (.synthesize (.prompt prompt)) ?_ ?_ ?_
    · rintro _ ⟨⟩
    · rintro _ ⟨⟩
      exact ⟨.inr rfl, accepted⟩
    · simp [Call.prompt?, asked, started, continueCall, takeDraft, append, Entry.question?]
  | confirmed _ _ _ => exact asks_of_plain _ rfl rfl rfl
  | reportBegun session _ _ _ _ _ =>
    refine .called p.nextTicket (.generateReport session p.transcript.history) ?_ ?_ ?_
    · rintro _ ⟨⟩
      rfl
    · rintro _ ⟨⟩
    · exact (List.append_nil _).symm
  | completed _ _ c => exact c.asks
  | _ => exact .kept rfl

/-! ## Over a run -/

/-- A call carries no history but the prompts accepted before it. -/
def Recounts (earlier : List Effect) (e : Effect) : Prop :=
  ∀ t call history, e = .issue t call → call.history? = some history →
    history = (acceptedPrompts earlier).map .user

/-- If the questions are the prompts accepted so far, then so they are after a step, and the step
recounts them. -/
theorem Asks.recounts (a : Asks p m q es) {earlier : List Effect}
    (told : p.transcript.questions = acceptedPrompts earlier) :
    Along Recounts earlier es ∧ q.transcript.questions = acceptedPrompts (earlier ++ es) := by
  have plain {before : List Effect} {e : Effect} (bare : ∀ t call, e = .issue t call →
      call.history? = none) : Recounts before e := by
    intro t call history issued carried
    rw [bare t call issued] at carried
    cases carried
  cases a with
  | kept same =>
    rw [List.append_nil, same]
    exact ⟨trivial, told⟩
  | called t call history _ questions =>
    refine ⟨⟨?_, trivial⟩, ?_⟩
    · rintro _ _ turns ⟨⟩ carried
      rw [history turns carried, Transcript.history, told]
    · rw [questions, told, acceptedPrompts, acceptedPrompts, List.foldl_append]
      rfl
  | closed generation none =>
    refine ⟨⟨plain (by rintro _ _ ⟨⟩), trivial⟩, ?_⟩
    rw [none, acceptedPrompts, List.foldl_append]
    rfl
  | reloading generation t session none =>
    refine ⟨⟨plain (by rintro _ _ ⟨⟩), plain (by rintro _ _ ⟨⟩; rfl), trivial⟩, ?_⟩
    rw [none, acceptedPrompts, List.foldl_append]
    rfl

theorem Run.recounts (r : Run variant h p) :
    Along Recounts [] (demandsOf h.effects) ∧
      p.transcript.questions = acceptedPrompts (demandsOf h.effects) :=
  r.along_demands (I := fun p es => p.transcript.questions = acceptedPrompts es) rfl
    (fun step told => step.asks.recounts told) fun told => told

theorem Run.history_at (r : Run variant h p) {pre post : List Effect} {t : Ticket} {call : Call}
    {history : List HistoryTurn} (cut : h.effects = pre ++ .issue t call :: post)
    (carried : call.history? = some history) : history = (acceptedPrompts pre).map .user := by
  have recounted := r.recounts.1.at (demandsOf_cut rfl cut) t call history rfl carried
  rwa [acceptedPrompts_demandsOf] at recounted

theorem Asks.submits (a : Asks p m q es) {t : Ticket} {call : Call} {prompt : String}
    (issued : (t, call) ∈ callsOf es) (put : call.prompt? = some prompt) : Submits p m prompt := by
  cases a with
  | kept _ => cases issued
  | called t' call' _ submits _ =>
    cases List.mem_singleton.mp issued
    exact submits prompt put
  | closed _ _ => cases issued
  | reloading _ _ _ _ =>
    cases List.mem_singleton.mp issued
    cases put

theorem Run.submits (r : Run variant h p) {e : Event} (he : e ∈ h) {t : Ticket} {call : Call}
    {prompt : String} (issued : (t, call) ∈ e.calls) (put : call.prompt? = some prompt) :
    Submits e.before e.message prompt := by
  induction r using Run.invariant with
  | new => cases he
  | rule _ ih _ step =>
    rcases List.mem_cons.mp he with rfl | he
    · rw [Event.calls, ← callsOf_demandsOf] at issued
      exact step.asks.submits issued put
    · exact ih he
  | repainted _ ih => exact ih he

/-- Throughout a run the questions in the transcript are the prompts accepted since the panel was
last closed. A question to discovery carries the prompts accepted before it as its history, and a
report all prompts accepted so far, each as a turn of the user. A prompt is accepted only when the
draft is submitted; it is the draft without the blanks around it, and it is not empty. -/
theorem history_is_accepted_prompts (r : Run variant h p) :
    p.transcript.questions = acceptedPrompts h.effects ∧
    (∀ pre t request post, h.effects = pre ++ .issue t (.discover request) :: post →
      request.history = (acceptedPrompts pre).map .user) ∧
    (∀ pre t session extra post,
      h.effects = pre ++ .issue t (.generateReport session extra) :: post →
      extra = (acceptedPrompts pre).map .user) ∧
    (∀ pre t call post history, h.effects = pre ++ .issue t call :: post →
      call.history? = some history → ∀ turn ∈ history, turn.role = "user") ∧
    ∀ e ∈ h, ∀ t call prompt, (t, call) ∈ e.calls → call.prompt? = some prompt →
      (e.message = .promptSubmitted ∨ e.message = .tableSubmitted) ∧
        prompt = Text.trimmed e.before.draft ∧ prompt ≠ "" ∧
        Text.Trims e.before.draft.toList prompt.toList := by
  refine ⟨?_, ?_, ?_, ?_, ?_⟩
  · rw [r.recounts.2, acceptedPrompts_demandsOf]
  · intro pre t request post cut
    exact r.history_at cut rfl
  · intro pre t session extra post cut
    exact r.history_at cut rfl
  · intro pre t call post history cut carried turn hturn
    rw [r.history_at cut carried] at hturn
    obtain ⟨prompt, -, rfl⟩ := List.mem_map.mp hturn
    rfl
  · intro e he t call prompt issued put
    obtain ⟨message, accepted⟩ := r.submits he issued put
    obtain ⟨-, -, -, trimmed, some⟩ := submission_eq_accepted accepted
    refine ⟨message, trimmed, some, ?_⟩
    rw [trimmed, Text.trimmed, String.toList_ofList]
    exact Text.trims_trim _

/-- A question that finds nothing, and a second one. -/
def asking : List Message :=
  [.opened "a", .draftChanged " why ", .promptSubmitted,
    .completed ⟨0, 1⟩ (.discovery (.ok (.candidates []))), .draftChanged "where", .promptSubmitted]

theorem history_is_accepted_prompts_asking :
    let told := tellAll ([], .new .metricDiscovery) asking
    let earlier := told.1.effects.dropLast
    let last := Effect.issue ⟨0, 2⟩ (.discover (.candidates "where" [.user "why"]))
    told.1.effects = earlier ++ last :: [] ∧
      [.user "why"] = (acceptedPrompts earlier).map HistoryTurn.user ∧
      told.2.transcript.questions = ["why", "where"] ∧
      acceptedPrompts told.1.effects = ["why", "where"] := by
  intro told earlier last
  obtain ⟨questions, requests, -⟩ :=
    history_is_accepted_prompts (Run.new.tellAll asking : Run .metricDiscovery told.1 told.2)
  have cut : told.1.effects = earlier ++ last :: [] := rfl
  have asked : told.2.transcript.questions = ["why", "where"] := by decide
  exact ⟨cut, requests _ _ _ _ cut, asked, questions ▸ asked⟩

end Panel

end AnalysisPanel
