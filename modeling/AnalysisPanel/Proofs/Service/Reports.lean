import Mathlib.Algebra.Group.Nat.Defs
import Mathlib.Logic.Relation
import AnalysisPanel.Proofs.Service.Outcomes

/-! The size of a report. The pieces of its body are held one after the other until one is missing
or would make too much of them, so what comes of them depends on their octets alone and not on where
one piece ends and the next begins. -/

namespace AnalysisPanel.Service

open Relation

/-! ## Collecting a body -/

/-- How far a body is collected: what is held, and what is still to come. -/
structure Collecting where
  held : Bytes
  coming : List Chunk

namespace Collecting

variable {cap : Nat} {s t : Collecting} {result : Except Failure Bytes}

/-- What comes of a body. -/
def outcome (cap : Nat) (s : Collecting) : Except Failure Bytes := cappedBody cap s.held s.coming

/-- One more piece is held. -/
inductive Step (cap : Nat) : Collecting → Collecting → Prop where
  | keep {held content coming} (fits : held.length + content.length ≤ cap) :
      Step cap ⟨held, .bytes content :: coming⟩ ⟨held ++ content, coming⟩

/-- No other piece is held: none is left, the next one is too much, or it is missing. -/
inductive Halts (cap : Nat) : Collecting → Except Failure Bytes → Prop where
  | whole {held} : Halts cap ⟨held, []⟩ (.ok held)
  | excess {held content coming} (exceeds : cap < held.length + content.length) :
      Halts cap ⟨held, .bytes content :: coming⟩
        (.error (tooLarge cap (held.length + content.length)))
  | broken {held why coming} : Halts cap ⟨held, .broken why :: coming⟩ (.error why.failure)

theorem Step.outcome_eq (step : Step cap s t) : s.outcome cap = t.outcome cap := by
  cases step with
  | keep fits => simp only [outcome, cappedBody, if_neg (Nat.not_lt.mpr fits)]

theorem Step.held_le (step : Step cap s t) : t.held.length ≤ cap := by
  cases step with
  | keep fits => rwa [List.length_append]

theorem Halts.outcome_eq (halts : Halts cap s result) : s.outcome cap = result := by
  cases halts with
  | whole => rfl
  | excess exceeds => simp only [outcome, cappedBody, if_pos exceeds]
  | broken => rfl

theorem run_outcome_eq (run : ReflTransGen (Step cap) s t) : s.outcome cap = t.outcome cap := by
  induction run with
  | refl => rfl
  | tail _ step ih => exact ih.trans step.outcome_eq

theorem run_held_le (small : s.held.length ≤ cap) (run : ReflTransGen (Step cap) s t) :
    t.held.length ≤ cap := by
  cases run with
  | refl => exact small
  | tail _ step => exact step.held_le

/-- What is held on the way are the pieces that came, put together. -/
theorem run_collects (run : ReflTransGen (Step cap) s t) :
    ∃ contents : List Bytes, s.coming = contents.map .bytes ++ t.coming ∧
      t.held = s.held ++ contents.flatten := by
  induction run using ReflTransGen.head_induction_on with
  | refl => exact ⟨[], rfl, (List.append_nil _).symm⟩
  | head step _ ih =>
    cases step with
    | @keep held content coming fits =>
      obtain ⟨contents, came, holds⟩ := ih
      refine ⟨content :: contents, congrArg (.bytes content :: ·) came, ?_⟩
      rw [holds, List.append_assoc, List.flatten_cons]

/-- Pieces that fit are collected. -/
theorem run_pieces {held : Bytes} {contents : List Bytes} (coming : List Chunk)
    (fits : (held ++ contents.flatten).length ≤ cap) :
    ReflTransGen (Step cap) ⟨held, contents.map .bytes ++ coming⟩
      ⟨held ++ contents.flatten, coming⟩ := by
  induction contents generalizing held with
  | nil =>
    rw [List.flatten_nil, List.append_nil]
    exact .refl
  | cons content contents ih =>
    rw [List.flatten_cons, ← List.append_assoc] at fits ⊢
    have step : held.length + content.length ≤ cap := by
      rw [List.length_append, List.length_append] at fits
      omega
    exact .head (.keep step) (ih fits)

/-- Collecting comes to an end. -/
theorem run_halts (cap : Nat) (s : Collecting) :
    ∃ t result, ReflTransGen (Step cap) s t ∧ Halts cap t result := by
  obtain ⟨held, coming⟩ := s
  induction coming generalizing held with
  | nil => exact ⟨_, _, .refl, .whole⟩
  | cons chunk coming ih =>
    cases chunk with
    | broken why => exact ⟨_, _, .refl, .broken⟩
    | bytes content =>
      rcases Nat.lt_or_ge cap (held.length + content.length) with exceeds | fits
      · exact ⟨_, _, .refl, .excess exceeds⟩
      · obtain ⟨t, result, run, halts⟩ := ih (held ++ content)
        exact ⟨t, result, .head (.keep fits) run, halts⟩

end Collecting

/-! ## Reports by their pieces -/

variable {cap : Nat} {r : Response} {result : Except Failure Bytes}

/-- No length is announced that is too much. -/
def Response.AnnouncesWithin (cap : Nat) (r : Response) : Prop := ∀ size ∈ r.announced, size ≤ cap

/-- The pieces that come first are too much. -/
structure Exceeds (cap : Nat) (body : List Chunk) (contents : List Bytes) : Prop where
  leads : contents.map .bytes <+: body
  exceeds : cap < contents.flatten.length

/-- A report by what is announced and by the pieces of the body. -/
inductive Response.Reports (cap : Nat) (r : Response) : Except Failure Bytes → Prop where
  | announced {size} (announces : r.announced = some size) (exceeds : cap < size) :
      Reports cap r (.error (tooLarge cap size))
  | whole {contents : List Bytes} (within : r.AnnouncesWithin cap)
      (body : r.body = contents.map .bytes) (fits : contents.flatten.length ≤ cap) :
      Reports cap r (.ok contents.flatten)
  | excess {contents : List Bytes} {content rest} (within : r.AnnouncesWithin cap)
      (body : r.body = contents.map .bytes ++ .bytes content :: rest)
      (fits : contents.flatten.length ≤ cap)
      (exceeds : cap < contents.flatten.length + content.length) :
      Reports cap r (.error (tooLarge cap (contents.flatten.length + content.length)))
  | broken {contents : List Bytes} {why rest} (within : r.AnnouncesWithin cap)
      (body : r.body = contents.map .bytes ++ .broken why :: rest)
      (fits : contents.flatten.length ≤ cap) : Reports cap r (.error why.failure)

theorem Response.report_of_within (within : r.AnnouncesWithin cap) :
    r.report cap = Collecting.outcome cap ⟨[], r.body⟩ := by
  unfold report
  cases announces : r.announced with
  | none => rfl
  | some size => exact if_neg (Nat.not_lt.mpr (within size announces))

theorem Response.report_of_pieces {contents : List Bytes} {coming : List Chunk}
    (within : r.AnnouncesWithin cap) (body : r.body = contents.map .bytes ++ coming)
    (fits : contents.flatten.length ≤ cap) :
    r.report cap = Collecting.outcome cap ⟨contents.flatten, coming⟩ := by
  rw [report_of_within within, body]
  exact Collecting.run_outcome_eq (Collecting.run_pieces coming fits)

theorem Response.Reports.execution (reports : r.Reports cap result) : r.report cap = result := by
  cases reports with
  | announced announces exceeds => simp only [report, announces, if_pos exceeds]
  | whole within body fits =>
    rw [report_of_pieces within (body.trans (List.append_nil _).symm) fits]
    exact Collecting.Halts.whole.outcome_eq
  | excess within body fits exceeds =>
    rw [report_of_pieces within body fits]
    exact (Collecting.Halts.excess exceeds).outcome_eq
  | broken within body fits =>
    rw [report_of_pieces within body fits]
    exact Collecting.Halts.broken.outcome_eq

theorem Response.report_derivation (cap : Nat) (r : Response) : r.Reports cap (r.report cap) := by
  by_cases within : r.AnnouncesWithin cap
  · obtain ⟨t, result, run, halts⟩ := Collecting.run_halts cap ⟨[], r.body⟩
    obtain ⟨contents, came, holds⟩ := Collecting.run_collects run
    have fits := Collecting.run_held_le (Nat.zero_le cap) run
    rw [report_of_within within, Collecting.run_outcome_eq run, halts.outcome_eq]
    dsimp only [List.nil_append] at came holds
    cases halts with
    | whole =>
      subst holds
      exact .whole within (came.trans (List.append_nil _)) fits
    | excess exceeds =>
      subst holds
      exact .excess within came fits exceeds
    | broken =>
      subst holds
      exact .broken within came fits
  · obtain ⟨size, announces, exceeds⟩ : ∃ size ∈ r.announced, cap < size := by
      simpa [AnnouncesWithin] using within
    have reports : r.Reports cap _ := .announced announces exceeds
    rwa [reports.execution]

theorem Response.reports_iff : r.Reports cap result ↔ r.report cap = result := by
  refine ⟨Reports.execution, ?_⟩
  rintro rfl
  exact report_derivation cap r

/-! ## Exceeding pieces -/

theorem Chunk.bytes_injective : Function.Injective Chunk.bytes := fun _ _ => Chunk.bytes.inj

theorem flatten_le_of_prefix {contents others : List Bytes} (leads : others <+: contents) :
    others.flatten.length ≤ contents.flatten.length := by
  obtain ⟨more, rfl⟩ := leads
  rw [List.flatten_append, List.length_append]
  exact Nat.le_add_right ..

/-- Pieces that are too much are more than pieces that fit. -/
theorem Exceeds.length_lt {body coming : List Chunk} {contents others : List Bytes}
    (exceeds : Exceeds cap body others) (came : body = contents.map .bytes ++ coming)
    (fits : contents.flatten.length ≤ cap) : contents.length < others.length := by
  refine Nat.lt_of_not_le fun short => ?_
  have leads : others.map Chunk.bytes <+: contents.map .bytes :=
    List.prefix_of_prefix_length_le exceeds.leads ⟨coming, came.symm⟩ (by simpa using short)
  have within := flatten_le_of_prefix
    ((List.prefix_map_iff_of_injective Chunk.bytes_injective).mp leads)
  exact absurd exceeds.exceeds (Nat.not_lt.mpr (Nat.le_trans within fits))

/-- After pieces that fit, a body that is too much goes on with octets. -/
theorem Exceeds.continues {body coming : List Chunk} {contents others : List Bytes}
    (exceeds : Exceeds cap body others) (came : body = contents.map .bytes ++ coming)
    (fits : contents.flatten.length ≤ cap) : ∃ content rest, coming = .bytes content :: rest := by
  have longer := exceeds.length_lt came fits
  obtain ⟨rest, leads⟩ := exceeds.leads
  obtain ⟨more, split⟩ : contents.map Chunk.bytes <+: others.map .bytes :=
    List.prefix_of_prefix_length_le ⟨coming, came.symm⟩ ⟨rest, leads⟩
      (by simpa using Nat.le_of_lt longer)
  have follows : coming = more ++ rest := by
    rw [came, ← split, List.append_assoc] at leads
    exact (List.append_cancel_left leads).symm
  obtain ⟨first, second, rfl, same, rfl⟩ := List.map_eq_append_iff.mp split.symm
  cases second with
  | nil =>
    have length := congrArg List.length same
    simp only [List.length_map, List.append_nil] at length longer
    omega
  | cons content second => exact ⟨content, _, follows⟩

/-- The pieces that come first are too much, and no fewer of them are. -/
structure ShortestExcess (cap : Nat) (body : List Chunk) (contents : List Bytes) : Prop
    extends Exceeds cap body contents where
  least : ∀ others, Exceeds cap body others → contents.length ≤ others.length

/-- The first piece that does not fit is the last one that matters. -/
theorem shortestExcess {body rest : List Chunk} {contents : List Bytes} {content : Bytes}
    (came : body = contents.map .bytes ++ .bytes content :: rest)
    (fits : contents.flatten.length ≤ cap)
    (exceeds : cap < contents.flatten.length + content.length) :
    ShortestExcess cap body (contents ++ [content]) where
  leads := ⟨rest, by simp [came]⟩
  exceeds := by simpa using exceeds
  least others more := by simpa using Nat.succ_le_of_lt (more.length_lt came fits)

/-! ## Lengths in words -/

/-- A body of at most `cap` octets, its lengths added in words of 64 bits. -/
def wordBody (cap : UInt64) (held : Bytes) : List Chunk → Except Failure Bytes
  | [] => .ok held
  | .bytes content :: rest =>
    let size := held.length.toUInt64 + content.length.toUInt64
    if cap < size then .error (tooLarge cap.toNat size.toNat)
    else wordBody cap (held ++ content) rest
  | .broken why :: _ => .error why.failure

/-- A report of at most `cap` octets, its lengths in words of 64 bits. -/
def Response.wordReport (cap : UInt64) (r : Response) : Except Failure Bytes :=
  match r.announced with
  | some size =>
    if cap < size.toUInt64 then .error (tooLarge cap.toNat size.toUInt64.toNat)
    else wordBody cap [] r.body
  | none => wordBody cap [] r.body

/-- No list of octets on the way is longer than memory can hold. -/
def Collecting.Addressable (cap : Nat) (s : Collecting) : Prop :=
  ∀ held content coming, ReflTransGen (Step cap) s ⟨held, .bytes content :: coming⟩ →
    held.length < 2 ^ 63 ∧ content.length < 2 ^ 63

/-- Under a cap that memory can hold, only the single pieces could be too long. -/
theorem Collecting.addressable_of_pieces {s : Collecting} (small : cap < 2 ^ 63)
    (fits : s.held.length ≤ cap)
    (pieces : ∀ content, Chunk.bytes content ∈ s.coming → content.length < 2 ^ 63) :
    s.Addressable cap := by
  intro held content coming run
  obtain ⟨contents, came, -⟩ := run_collects run
  have among : Chunk.bytes content ∈ s.coming := by simp [came]
  exact ⟨Nat.lt_of_le_of_lt (run_held_le fits run) small, pieces content among⟩

theorem toNat_add_lengths {held content : Bytes} (heldFits : held.length < 2 ^ 63)
    (contentFits : content.length < 2 ^ 63) :
    (held.length.toUInt64 + content.length.toUInt64).toNat = held.length + content.length := by
  have sum : held.length + content.length < 2 ^ 64 := by omega
  rw [UInt64.toNat_add, Nat.toUInt64_eq, Nat.toUInt64_eq, UInt64.toNat_ofNat',
    UInt64.toNat_ofNat', ← Nat.add_mod, Nat.mod_eq_of_lt sum]

theorem wordBody_eq {cap : UInt64} {held : Bytes} {coming : List Chunk}
    (fits : Collecting.Addressable cap.toNat ⟨held, coming⟩) :
    wordBody cap held coming = cappedBody cap.toNat held coming := by
  induction coming generalizing held with
  | nil => rfl
  | cons chunk coming ih =>
    cases chunk with
    | broken why => rfl
    | bytes content =>
      obtain ⟨heldFits, contentFits⟩ := fits held content coming .refl
      simp only [wordBody, cappedBody, UInt64.lt_iff_toNat_lt,
        toNat_add_lengths heldFits contentFits]
      split
      · rfl
      · next small =>
        exact ih fun held' content' coming' run =>
          fits held' content' coming' (.head (.keep (Nat.not_lt.mp small)) run)

theorem Response.wordReport_eq {cap : UInt64} (announces : ∀ size ∈ r.announced, size < 2 ^ 64)
    (fits : Collecting.Addressable cap.toNat ⟨[], r.body⟩) :
    r.wordReport cap = r.report cap.toNat := by
  unfold wordReport report
  cases announced : r.announced with
  | none => exact wordBody_eq fits
  | some size =>
    have word : size.toUInt64.toNat = size := UInt64.toNat_ofNat_of_lt (announces size announced)
    simp only [UInt64.lt_iff_toNat_lt, word, wordBody_eq fits]

/-! ## The size of a report -/

/-- What comes of a report that may have `cap` octets: all of it if it fits, however it is cut into
pieces, and never more of it is held. -/
structure ReportSpec (cap : Nat) (r : Response) (result : Except Failure Bytes) : Prop where
  ok_iff : ∀ b, result = .ok b ↔ r.AnnouncesWithin cap ∧
    ∃ contents : List Bytes, r.body = contents.map .bytes ∧ contents.flatten.length ≤ cap ∧
      b = contents.flatten
  tooLarge_iff : (∃ actual message, result = .error ⟨.tooLarge cap actual, message⟩) ↔
    (∃ size ∈ r.announced, cap < size) ∨ ∃ contents, Exceeds cap r.body contents
  actual : ∀ max actual message, result = .error ⟨.tooLarge max actual, message⟩ →
    max = cap ∧ ∃ size, actual = some size ∧ cap < size ∧
      (r.announced = some size ∨ r.AnnouncesWithin cap ∧
        ∃ contents, ShortestExcess cap r.body contents ∧ size = contents.flatten.length)
  broken : (∀ b, result ≠ .ok b) →
    (∀ actual message, result ≠ .error ⟨.tooLarge cap actual, message⟩) →
    ∃ (contents : List Bytes) (why : Interruption) (rest : List Chunk),
      r.body = contents.map .bytes ++ .broken why :: rest ∧ contents.flatten.length ≤ cap ∧
        result = .error why.failure
  recut : ∀ contents others : List Bytes, r.body = contents.map .bytes →
    others.flatten = contents.flatten →
    ∀ b, result = .ok b ↔ Response.report cap ⟨r.status, r.announced, others.map .bytes⟩ = .ok b
  held_le : ∀ s, ReflTransGen (Collecting.Step cap) ⟨[], r.body⟩ s → s.held.length ≤ cap ∧
    (r.AnnouncesWithin cap → s.outcome cap = result)
  words : ∀ word : UInt64, word.toNat = cap → (∀ size ∈ r.announced, size < 2 ^ 64) →
    Collecting.Addressable cap ⟨[], r.body⟩ → r.wordReport word = result

theorem Response.Reports.ok_iff {b : Bytes} : r.Reports cap (.ok b) ↔ r.AnnouncesWithin cap ∧
    ∃ contents : List Bytes, r.body = contents.map .bytes ∧ contents.flatten.length ≤ cap ∧
      b = contents.flatten := by
  constructor
  · intro reports
    cases reports with
    | whole within body fits => exact ⟨within, _, body, fits, rfl⟩
  · rintro ⟨within, contents, body, fits, rfl⟩
    exact .whole within body fits

theorem ok_iff_of_pieces {contents : List Bytes} (body : r.body = contents.map .bytes) {b : Bytes} :
    r.report cap = .ok b ↔
      r.AnnouncesWithin cap ∧ contents.flatten.length ≤ cap ∧ b = contents.flatten := by
  rw [← Response.reports_iff, Response.Reports.ok_iff]
  refine and_congr_right fun _ => ⟨?_, fun ⟨fits, whole⟩ => ⟨contents, body, fits, whole⟩⟩
  rintro ⟨others, same, fits, whole⟩
  obtain rfl := (List.map_inj_right fun _ _ => Chunk.bytes.inj).mp (body.symm.trans same)
  exact ⟨fits, whole⟩

theorem Interruption.failure_ne_tooLarge (why : Interruption) (max : Nat) (actual : Option Nat)
    (message : String) : why.failure ≠ ⟨.tooLarge max actual, message⟩ := by
  unfold failure
  split <;> exact nofun

theorem Response.Reports.actual {max : Nat} {actual : Option Nat} {message : String}
    (reports : r.Reports cap (.error ⟨.tooLarge max actual, message⟩)) :
    max = cap ∧ ∃ size, actual = some size ∧ cap < size ∧
      (r.announced = some size ∨ r.AnnouncesWithin cap ∧
        ∃ contents, ShortestExcess cap r.body contents ∧ size = contents.flatten.length) := by
  generalize failed : (Except.error ⟨.tooLarge max actual, message⟩ : Except Failure Bytes) = result
    at reports
  cases reports with
  | announced announces exceeds =>
    cases failed
    exact ⟨rfl, _, rfl, exceeds, .inl announces⟩
  | whole => cases failed
  | excess within body fits exceeds =>
    cases failed
    exact ⟨rfl, _, rfl, exceeds, .inr ⟨within, _, shortestExcess body fits exceeds, by simp⟩⟩
  | broken => exact absurd (Except.error.inj failed).symm (Interruption.failure_ne_tooLarge _ _ _ _)

theorem Response.Reports.tooLarge_iff (reports : r.Reports cap result) :
    (∃ actual message, result = .error ⟨.tooLarge cap actual, message⟩) ↔
      (∃ size ∈ r.announced, cap < size) ∨ ∃ contents, Exceeds cap r.body contents := by
  constructor
  · rintro ⟨actual, message, rfl⟩
    obtain ⟨-, size, -, exceeds, announces | ⟨-, contents, shortest, -⟩⟩ := reports.actual
    · exact .inl ⟨size, announces, exceeds⟩
    · exact .inr ⟨contents, shortest.toExceeds⟩
  · intro excessive
    have unfit (within : r.AnnouncesWithin cap) : ∃ contents, Exceeds cap r.body contents :=
      excessive.resolve_left fun ⟨size, announces, exceeds⟩ =>
        Nat.not_lt.mpr (within size announces) exceeds
    cases reports with
    | announced _ _ => exact ⟨_, _, rfl⟩
    | whole within body fits =>
      obtain ⟨contents, exceeds⟩ := unfit within
      obtain ⟨_, _, more⟩ := exceeds.continues (body.trans (List.append_nil _).symm) fits
      cases more
    | excess _ _ _ _ => exact ⟨_, _, rfl⟩
    | broken within body fits =>
      obtain ⟨contents, exceeds⟩ := unfit within
      obtain ⟨_, _, more⟩ := exceeds.continues body fits
      cases more

theorem Response.Reports.broken_of_not (reports : r.Reports cap result)
    (missing : ∀ b, result ≠ .ok b)
    (small : ∀ actual message, result ≠ .error ⟨.tooLarge cap actual, message⟩) :
    ∃ (contents : List Bytes) (why : Interruption) (rest : List Chunk),
      r.body = contents.map .bytes ++ .broken why :: rest ∧ contents.flatten.length ≤ cap ∧
        result = .error why.failure := by
  cases reports with
  | announced => exact absurd rfl (small _ _)
  | whole => exact absurd rfl (missing _)
  | excess => exact absurd rfl (small _ _)
  | broken within body fits => exact ⟨_, _, _, body, fits, rfl⟩

theorem Response.report_spec (cap : Nat) (r : Response) : ReportSpec cap r (r.report cap) where
  ok_iff b := reports_iff.symm.trans Reports.ok_iff
  tooLarge_iff := (report_derivation cap r).tooLarge_iff
  actual max actual message failed := (reports_iff.mpr failed).actual
  broken := (report_derivation cap r).broken_of_not
  recut contents others body same b := by
    rw [ok_iff_of_pieces body, ok_iff_of_pieces rfl, same]
    rfl
  held_le s run :=
    ⟨Collecting.run_held_le (s := ⟨[], r.body⟩) (Nat.zero_le cap) run, fun within =>
      (Collecting.run_outcome_eq run).symm.trans (report_of_within within).symm⟩
  words word same announces fits := by
    subst same
    exact wordReport_eq announces fits

variable {settings : Settings} {answer : Request → Answer} {request : Request}

/-- A report is brought in full exactly when it is not larger than it may be, whatever its
pieces. -/
theorem report_capped {session : SessionId} {extra : List HistoryTurn}
    (leaves : sent settings (.generateReport session extra) = some request)
    (responds : answer request = .responded r) (succeeds : Status.isSuccess r.status = true) :
    ∃ result, perform settings answer (.generateReport session extra) = .report result ∧
      ReportSpec settings.reportMaxBytes r result :=
  ⟨_, perform_of_sent leaves responds succeeds, r.report_spec settings.reportMaxBytes⟩

/-- The third piece is too much. That the body breaks off after it is never seen. -/
theorem report_capped_over :
    let settings : Settings :=
      { endpoints := { Endpoints.loopback with report := "http://[::1]" }, reportMaxBytes := 2 }
    let r : Response := ⟨200, none, [.bytes [1], .bytes [], .bytes [2, 3], .broken ⟨true, ""⟩]⟩
    ∃ result, perform settings (fun _ => .responded r) (.generateReport "a" []) = .report result ∧
      ReportSpec 2 r result ∧ result = .error (tooLarge 2 3) ∧ r.wordReport 2 = result := by
  intro settings r
  have leaves : (sent settings (.generateReport "a" [])).isSome := by decide +kernel
  obtain ⟨request, leaves⟩ := Option.isSome_iff_exists.mp leaves
  let answer : Request → Answer := fun _ => .responded r
  have responds : answer request = .responded r := rfl
  obtain ⟨result, performed, spec⟩ := report_capped leaves responds rfl
  have pieces : ∀ content, Chunk.bytes content ∈ r.body → content.length < 2 ^ 63 := by
    simp [r]
  refine ⟨result, performed, spec, ?_, spec.words 2 rfl nofun ?_⟩
  · cases performed.symm.trans (perform_of_sent leaves rfl rfl)
    rfl
  · exact Collecting.addressable_of_pieces (by decide) (Nat.zero_le _) pieces

end AnalysisPanel.Service
