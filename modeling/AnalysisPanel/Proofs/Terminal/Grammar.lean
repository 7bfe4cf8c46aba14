import AnalysisPanel.Proofs.Terminal.Typing

/-! The grammar of terminal input. Every line is read as the grammar says, as a command or as a
mistake, and what is printed of positions and charts is read back. -/

namespace AnalysisPanel.Command

open Text

/-! ## The grammar -/

/-- A numeral points at an index: its number counts from one, and 64 bits hold it. -/
def Points (arg : List Char) (index : ℕ) : Prop :=
  ∃ v, Unsigned arg v ∧ 1 ≤ v ∧ v < 2 ^ 64 ∧ index = v - 1

/-- The names of commands. -/
def names : List String :=
  ["table", "check", "uncheck", "all", "none", "confirm", "scope", "report", "open", "example",
    "send", "show", "help", "quit", "exit"]

/-- What a name and its argument mean, or why they mean nothing. -/
inductive Means : String → List Char → Except ParseError Command → Prop where
  | table (arg) : Means "table" arg (.ok (.table (String.ofList arg)))
  | check {arg index} : Points arg index → Means "check" arg (.ok (.check index true))
  | uncheck {arg index} : Points arg index → Means "uncheck" arg (.ok (.check index false))
  | all (arg) : Means "all" arg (.ok (.checkAll true))
  | none (arg) : Means "none" arg (.ok (.checkAll false))
  | confirm (arg) : Means "confirm" arg (.ok .confirm)
  | scope {arg v} : Signed arg v → -(2 ^ 63) ≤ v → v < 2 ^ 63 →
      Means "scope" arg (.ok (.chart (Int64.ofInt v)))
  | report (arg) : Means "report" arg (.ok .report)
  | latest : Means "open" [] (.ok (.openLink none))
  | link {arg index} : Points arg index → Means "open" arg (.ok (.openLink (some index)))
  | sample {arg index} : Points arg index → index + 1 ≤ samples.length →
      Means "example" arg (.ok (.sample index))
  | send (arg) : Means "send" arg (.ok .send)
  | present (arg) : Means "show" arg (.ok .present)
  | help (arg) : Means "help" arg (.ok .help)
  | quit (arg) : Means "quit" arg (.ok .quit)
  | exit (arg) : Means "exit" arg (.ok .quit)
  | noPosition {name arg} : name ∈ ["check", "uncheck", "open", "example"] →
      (name = "open" → arg ≠ []) → (∀ index, ¬ Points arg index) →
        Means name arg (.error (.position (String.ofList arg)))
  | noSample {arg index} : Points arg index → samples.length ≤ index →
      Means "example" arg (.error .noSuchSample)
  | noChart {arg} : (∀ v, Signed arg v → v < -(2 ^ 63) ∨ 2 ^ 63 ≤ v) →
      Means "scope" arg (.error (.chartId (String.ofList arg)))
  | unknown {name} (arg) : name ∉ names → Means name arg (.error (.unknown name))

/-- What a line is read as. The name of a command reaches to the first blank, and its argument is
what comes after it. -/
inductive Reads (line : List Char) : Except ParseError (Option Command) → Prop where
  | blank : Trims line [] → Reads line (.ok none)
  | question {text} : Trims line text → text ≠ [] → text.head? ≠ some '/' →
      Reads line (.ok (some (.ask (String.ofList text))))
  | command {name rest arg r} : Trims line ('/' :: (name ++ rest)) →
      (∀ c ∈ name, isBlank c = false) → (∀ c ∈ rest.head?, isBlank c = true) → Trims rest arg →
        Means (String.ofList name) arg r → Reads line (r.map some)

/-! ## Arguments -/

variable {arg : List Char} {index : ℕ} {name : String} {r : Except ParseError Command}

theorem Points.ne_nil (points : Points arg index) : arg ≠ [] := by
  obtain ⟨v, numeral, -⟩ := points
  cases numeral with
  | plain d => exact d.nonempty
  | plus d => exact List.cons_ne_nil _ _

theorem Points.execution (points : Points arg index) : position arg = .ok index := by
  obtain ⟨v, numeral, positive, held, rfl⟩ := points
  obtain ⟨n, rfl⟩ := Nat.exists_eq_add_of_le' positive
  have read : natural? positionBound arg = some (n + 1) := natural?_eq_some_iff.mpr ⟨numeral, held⟩
  rw [position, read]
  rfl

theorem position_of_not_points (nowhere : ∀ index, ¬ Points arg index) :
    position arg = .error (.position (String.ofList arg)) := by
  unfold position
  split
  · rename_i n read
    obtain ⟨numeral, held⟩ := natural?_eq_some_iff.mp read
    exact absurd ⟨n + 1, numeral, Nat.le_add_left 1 n, held, rfl⟩ (nowhere n)
  · rfl

theorem chartId_of_signed {v : ℤ} (numeral : Signed arg v) (low : -(2 ^ 63) ≤ v)
    (high : v < 2 ^ 63) : chartId arg = .ok (Int64.ofInt v) := by
  rw [chartId, int64?_eq_some_iff.mpr ⟨v, numeral, low, high, rfl⟩]

theorem chartId_of_not_signed (none : ∀ v, Signed arg v → v < -(2 ^ 63) ∨ 2 ^ 63 ≤ v) :
    chartId arg = .error (.chartId (String.ofList arg)) := by
  unfold chartId
  split
  · rename_i read
    obtain ⟨v, numeral, low, high, -⟩ := int64?_eq_some_iff.mp read
    have := none v numeral
    omega
  · rfl

/-! ## Commands -/

theorem named_example (arg : List Char) : named "example" arg = (position arg).bind sampleAt := rfl

theorem named_of_notMem (other : name ∉ names) (arg : List Char) :
    named name arg = .error (.unknown name) := by
  unfold named
  split
  case h_16 => rfl
  all_goals exact absurd (by decide) other

theorem Means.execution (m : Means name arg r) : named name arg = r := by
  cases m with
  | check points => exact congrArg (Except.map _) points.execution
  | uncheck points => exact congrArg (Except.map _) points.execution
  | scope numeral low high => exact congrArg (Except.map _) (chartId_of_signed numeral low high)
  | link points =>
    rw [named_open_of_ne_nil points.ne_nil, points.execution]
    rfl
  | sample points held =>
    rw [named_example, points.execution]
    exact if_pos held
  | noPosition known given nowhere =>
    have missing := position_of_not_points nowhere
    simp only [List.mem_cons, List.not_mem_nil, or_false] at known
    rcases known with rfl | rfl | rfl | rfl
    · exact congrArg (Except.map _) missing
    · exact congrArg (Except.map _) missing
    · rw [named_open_of_ne_nil (given rfl), missing]
      rfl
    · rw [named_example, missing]
      rfl
  | noSample points past =>
    rw [named_example, points.execution]
    exact if_neg (Nat.not_lt.mpr past)
  | noChart none => exact congrArg (Except.map _) (chartId_of_not_signed none)
  | unknown _ other => exact named_of_notMem other arg
  | _ => rfl

/-- A command that takes a position means something if its argument points anywhere. -/
theorem means_of_position {f : ℕ → Except ParseError Command}
    (takes : name ∈ ["check", "uncheck", "open", "example"]) (given : name = "open" → arg ≠ [])
    (there : ∀ index, Points arg index → Means name arg (f index)) :
    Means name arg ((position arg).bind f) := by
  by_cases somewhere : ∃ index, Points arg index
  · obtain ⟨index, points⟩ := somewhere
    rw [points.execution]
    exact there index points
  · have nowhere := not_exists.mp somewhere
    rw [position_of_not_points nowhere]
    exact .noPosition takes given nowhere

theorem named_derivation (name : String) (arg : List Char) : Means name arg (named name arg) := by
  unfold named
  split
  · exact .table arg
  · exact means_of_position (by simp) (by simp) fun _ => .check
  · exact means_of_position (by simp) (by simp) fun _ => .uncheck
  · exact .all arg
  · exact .none arg
  · exact .confirm arg
  · by_cases held : ∃ v, Signed arg v ∧ -(2 ^ 63) ≤ v ∧ v < 2 ^ 63
    · obtain ⟨v, numeral, low, high⟩ := held
      rw [chartId_of_signed numeral low high]
      exact .scope numeral low high
    · have none : ∀ v, Signed arg v → v < -(2 ^ 63) ∨ 2 ^ 63 ≤ v := by
        intro v numeral
        by_contra inside
        exact held ⟨v, numeral, by omega, by omega⟩
      rw [chartId_of_not_signed none]
      exact .noChart none
  · exact .report arg
  · split
    · rename_i empty
      rw [List.isEmpty_iff.mp empty]
      exact .latest
    · rename_i given
      exact means_of_position (by simp) (fun _ => by simpa using given) fun _ => .link
  · refine means_of_position (by simp) (by simp) fun index points => ?_
    unfold sampleAt
    split
    · exact .sample points ‹_›
    · exact .noSample points (Nat.not_lt.mp ‹_›)
  · exact .send arg
  · exact .present arg
  · exact .help arg
  · exact .quit arg
  · exact .exit arg
  · refine .unknown arg fun known => ?_
    simp only [names, List.mem_cons, List.not_mem_nil, or_false] at known
    tauto

theorem means_iff : Means name arg r ↔ named name arg = r :=
  ⟨Means.execution, fun same => same ▸ named_derivation name arg⟩

/-! ## Lines -/

variable {line : String} {result : Except ParseError (Option Command)}

theorem Reads.execution (reads : Reads line.toList result) : parse line = result := by
  cases reads with
  | blank trims =>
    unfold parse
    rw [trims.trim_eq]
  | question trims nonempty plain =>
    unfold parse
    rw [trims.trim_eq]
    split
    · exact absurd rfl nonempty
    · exact absurd rfl plain
    · rfl
  | command trims solid ends argument means =>
    rw [parse_of_slash trims.trim_eq, takeWhile_until solid ends, dropWhile_until solid ends,
      argument.trim_eq, means.execution]

theorem parse_derivation (line : String) : Reads line.toList (parse line) := by
  have trims := trims_trim line.toList
  cases text : trim line.toList with
  | nil =>
    have blank := Reads.blank (text ▸ trims)
    rwa [blank.execution]
  | cons c rest =>
    rw [text] at trims
    by_cases slash : c = '/'
    · subst slash
      obtain ⟨name, rest, rfl, solid, ends⟩ := cut_at_blank rest
      have command := Reads.command trims solid ends (trims_trim rest) (named_derivation _ _)
      rwa [command.execution]
    · have question := Reads.question trims (List.cons_ne_nil c rest) (by simpa using slash)
      rwa [question.execution]

theorem reads_iff : Reads line.toList result ↔ parse line = result :=
  ⟨Reads.execution, fun same => same ▸ parse_derivation line⟩

theorem parse_eq_of_trim_eq {line' : String} (same : trim line.toList = trim line'.toList) :
    parse line = parse line' := by
  unfold parse
  rw [same]

/-! ## What the reader accepts -/

/-- The reader of lines accepts its grammar and nothing else. Blanks around a line do not count, and
it takes back every position and every number of a chart that is printed. -/
theorem parse_reads_grammar :
    (∀ line result, parse line = result ↔ Reads line.toList result) ∧
      (∀ front line back : String, (∀ c ∈ front.toList ++ back.toList, isBlank c = true) →
        parse (front ++ line ++ back) = parse line) ∧
      (∀ index, index + 1 < 2 ^ 64 →
        parse ("/check " ++ toString (index + 1)) = .ok (some (.check index true)) ∧
        parse ("/uncheck " ++ toString (index + 1)) = .ok (some (.check index false)) ∧
        parse ("/open " ++ toString (index + 1)) = .ok (some (.openLink (some index))) ∧
        (index < samples.length →
          parse ("/example " ++ toString (index + 1)) = .ok (some (.sample index)))) ∧
      ∀ id : ChartId, parse ("/scope " ++ toString id) = .ok (some (.chart id)) := by
  refine ⟨fun line result => reads_iff.symm, ?_, ?_, parse_scoping⟩
  · intro front line back blank
    obtain ⟨leading, trailing⟩ := List.forall_mem_append.mp blank
    apply parse_eq_of_trim_eq
    rw [String.toList_append, String.toList_append, trim_around leading trailing]
  · intro index held
    have read : position (Nat.toDigits 10 (index + 1)) = .ok index := position_toDigits held
    refine ⟨?_, ?_, parse_opening held, fun offered => ?_⟩
    · have marked := parse_marking true (index + 1)
      rwa [read] at marked
    · have marked := parse_marking false (index + 1)
      rwa [read] at marked
    · have typed : ("/example " ++ toString (index + 1)).toList =
          '/' :: ("example".toList ++ ' ' :: Nat.toDigits 10 (index + 1)) := by simp
      rw [parse_word (by simp [isBlank]) (isWord_toDigits _) typed, named_example, read]
      exact congrArg (Except.map some) (if_pos offered)

/-- The last position that 64 bits hold, between blanks past ASCII; a position with a plus sign and
zeros in front; and the least number of a chart. -/
theorem parse_reads_grammar_limits :
    parse ("\u3000" ++ ("/check " ++ toString 18446744073709551615) ++ "\u0085") =
        .ok (some (.check 18446744073709551614 true)) ∧
      parse "/open\t +007" = .ok (some (.openLink (some 6))) ∧
      parse ("/scope " ++ toString (-9223372036854775808 : ChartId)) =
        .ok (some (.chart (-9223372036854775808))) := by
  obtain ⟨exact, around, positions, charts⟩ := parse_reads_grammar
  refine ⟨?_, ?_, charts _⟩
  · rw [around "\u3000" _ "\u0085" (by simp [isBlank])]
    exact (positions 18446744073709551614 (by decide)).1
  · have numeral : Unsigned ['+', '0', '0', '7'] 7 :=
      .plus ⟨by decide, by simp, by decide⟩
    have arg : Trims ['\t', ' ', '+', '0', '0', '7'] ['+', '0', '0', '7'] := trims_trim _
    have solid : ∀ c ∈ "open".toList, isBlank c = false := by simp [isBlank]
    exact (exact _ _).mpr (.command (trims_trim _) solid (by simp [isBlank]) arg
      (.link ⟨7, numeral, by decide, by decide, rfl⟩))

end AnalysisPanel.Command
