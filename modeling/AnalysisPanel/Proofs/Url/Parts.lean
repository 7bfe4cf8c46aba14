import AnalysisPanel.Proofs.Url.Hosts

/-! The parts of a URL that has been read. Each holds only what cannot be taken for the mark that
ends it, and a special URL has a host. Reading keeps to this, whatever is read and whatever it is
relative to. -/

namespace AnalysisPanel

namespace Url

open Text

/-! ## Schemes -/

/-- A scheme as it is kept, in lower case. -/
structure IsScheme (scheme : String) : Prop where
  first : scheme.toList.head?.any Char.isAlpha = true
  chars : ∀ c ∈ scheme.toList, isSchemeChar c = true ∧ c.toLower = c

theorem toNat_of_isSchemeChar {c : Char} (letter : isSchemeChar c = true) :
    0x20 < c.toNat ∧ c.toNat < 0x80 := by
  simp only [isSchemeChar, Bool.or_eq_true, beq_iff_eq] at letter
  rcases letter with ((letter | rfl) | rfl) | rfl
  · have bounds := toNat_of_isAlphanum letter
    omega
  all_goals decide

/-- Letters stay letters in lower case, and then stay as they are. -/
theorem toLower_spec {c : Char} (letter : isSchemeChar c = true) :
    isSchemeChar c.toLower = true ∧ c.toLower.toLower = c.toLower ∧
      (c.isAlpha = true → c.toLower.isAlpha = true) :=
  of_codes (P := fun c => isSchemeChar c = true → isSchemeChar c.toLower = true ∧
    c.toLower.toLower = c.toLower ∧ (c.isAlpha = true → c.toLower.isAlpha = true)) (by decide)
    (toNat_of_isSchemeChar letter).2 letter

theorem isScheme_of_scheme? {cs rest : List Char} {scheme : String}
    (found : scheme? cs = some (scheme, rest)) : IsScheme scheme := by
  unfold scheme? at found
  split at found
  · rename_i first
    dsimp only at found
    split at found
    · cases found
      have letters : ∀ c ∈ cs.takeWhile isSchemeChar, isSchemeChar c = true :=
        fun c hc => List.mem_takeWhile_imp hc
      refine ⟨?_, ?_⟩
      · cases cs with
        | nil => cases first
        | cons c cs =>
          have alpha : c.isAlpha = true := first
          have letter : isSchemeChar c = true := by simp [isSchemeChar, Char.isAlphanum, alpha]
          simpa [letter] using (toLower_spec letter).2.2 alpha
      · simp only [String.toList_ofList, List.mem_map, forall_exists_index, and_imp]
        rintro _ c hc rfl
        exact ⟨(toLower_spec (letters c hc)).1, (toLower_spec (letters c hc)).2.1⟩
    · cases found
  · cases found

/-- A scheme is read back with what is behind it. -/
theorem IsScheme.scheme? {scheme : String} (s : IsScheme scheme) (rest : List Char) :
    scheme? (scheme.toList ++ ':' :: rest) = some (scheme, rest) := by
  have first : (scheme.toList ++ ':' :: rest).head?.any Char.isAlpha = true := by
    have first := s.first
    cases letters : scheme.toList with
    | nil => rw [letters] at first; cases first
    | cons c cs => rwa [letters] at first
  have letters : (scheme.toList ++ ':' :: rest).takeWhile isSchemeChar = scheme.toList := by
    rw [List.takeWhile_append_of_pos fun c hc => (s.chars c hc).1,
      List.takeWhile_cons_of_neg (by decide), List.append_nil]
  have lower : scheme.toList.map Char.toLower = scheme.toList :=
    (List.map_congr_left fun c hc => (s.chars c hc).2).trans (List.map_id' _)
  rw [Url.scheme?, if_pos first, letters]
  simp [lower]

/-! ## Segments -/

/-- A segment of a path as it is kept. -/
def IsSegment (segment : String) : Prop := ∀ c ∈ segment.toList, 0x20 < c.toNat ∧ c ≠ '/'

theorem isSegment_empty : IsSegment "" := by
  intro c hc
  cases hc

theorem toNat_of_not_pathSet {c : Char} (plain : pathSet c = false) : 0x20 < c.toNat := by
  have blank : c ≠ ' ' := by
    rintro rfl
    exact absurd plain (by decide)
  simp only [pathSet, querySet, Bool.or_eq_false_iff] at plain
  exact Nat.lt_of_le_of_ne (controlSet_eq_false_iff.mp plain.1.1).1 (toNat_ne_of_ne blank).symm

theorem isSegment_percentEncode {cs : List Char} (free : '/' ∉ cs) :
    IsSegment (String.ofList (percentEncode pathSet cs)) := by
  intro c hc
  rw [String.toList_ofList] at hc
  rcases mem_percentEncode hc with ⟨hc, plain⟩ | written
  · exact ⟨toNat_of_not_pathSet plain, fun slash => free (slash ▸ hc)⟩
  · refine ⟨written.bounds.1, ?_⟩
    rintro rfl
    exact absurd written (by decide)

theorem mem_shorten {scheme segment : String} {segments : List String}
    (hs : segment ∈ shorten scheme segments) : segment ∈ segments := by
  unfold shorten at hs
  split at hs
  · split at hs
    · exact hs
    · cases hs
  · exact (List.dropLast_sublist segments).subset hs

theorem isSegment_of_shorten {scheme : String} {segments : List String}
    (kept : ∀ s ∈ segments, IsSegment s) : ∀ s ∈ shorten scheme segments, IsSegment s :=
  fun s hs => kept s (mem_shorten hs)

/-- A drive letter takes a colon. -/
theorem isSegment_drive {segment : List Char} (drive : isDrive segment = true) :
    IsSegment (String.ofList (segment.take 1 ++ [':'])) := by
  unfold isDrive at drive
  split at drive
  · rename_i a b
    simp only [Bool.and_eq_true] at drive
    have letter : isSchemeChar a = true := by simp [isSchemeChar, Char.isAlphanum, drive.1]
    intro c hc
    simp only [String.toList_ofList, List.take_succ_cons, List.take_zero, List.cons_append,
      List.nil_append, List.mem_cons, List.not_mem_nil, or_false] at hc
    rcases hc with rfl | rfl
    · refine ⟨(toNat_of_isSchemeChar letter).1, ?_⟩
      rintro rfl
      exact absurd letter (by decide)
    · decide
  · cases drive

theorem isSegment_descend {scheme : String} {segments : List String} {segment : List Char}
    (kept : ∀ s ∈ segments, IsSegment s) (free : '/' ∉ segment) (last : Bool) :
    ∀ s ∈ descend scheme segments segment last, IsSegment s := by
  have above : ∀ s ∈ shorten scheme segments, IsSegment s := isSegment_of_shorten kept
  have followed {segments : List String} {next : String} (kept : ∀ s ∈ segments, IsSegment s)
      (segment : IsSegment next) : ∀ s ∈ segments ++ [next], IsSegment s :=
    List.forall_mem_append.mpr ⟨kept, List.forall_mem_singleton.mpr segment⟩
  unfold descend
  dsimp only
  split
  · split
    · exact followed above isSegment_empty
    · exact above
  · split
    · split
      · exact followed kept isSegment_empty
      · exact kept
    · split
      · rename_i drive
        exact followed kept (isSegment_drive drive.2.2)
      · exact followed kept (isSegment_percentEncode free)

theorem splitSlashes_ne_nil (special : Bool) (cs : List Char) : splitSlashes special cs ≠ [] := by
  cases cs with
  | nil => exact List.cons_ne_nil _ _
  | cons c cs =>
    unfold splitSlashes
    repeat' split
    all_goals exact List.cons_ne_nil _ _

theorem not_mem_of_mem_splitSlashes {special : Bool} {cs part : List Char}
    (hp : part ∈ splitSlashes special cs) : '/' ∉ part := by
  induction cs generalizing part with
  | nil =>
    obtain rfl := List.mem_singleton.mp hp
    exact List.not_mem_nil
  | cons c cs ih =>
    rw [splitSlashes] at hp
    split at hp
    · rcases List.mem_cons.mp hp with rfl | hp
      · exact List.not_mem_nil
      · exact ih hp
    · rename_i slash
      have other : '/' ≠ c := by
        rintro rfl
        exact slash rfl
      split at hp
      · rename_i first parts before
        rw [before] at ih
        rcases List.mem_cons.mp hp with rfl | hp
        · rw [List.mem_cons, not_or]
          exact ⟨other, ih List.mem_cons_self⟩
        · exact ih (List.mem_cons_of_mem _ hp)
      · rename_i before
        exact absurd before (splitSlashes_ne_nil special cs)

/-- Going down a path keeps it one of segments. -/
theorem isSegment_descendAll {scheme : String} {segments : List String} {parts : List (List Char)}
    (kept : ∀ s ∈ segments, IsSegment s) (free : ∀ part ∈ parts, '/' ∉ part) :
    ∀ s ∈ descendAll scheme segments parts, IsSegment s := by
  induction parts generalizing segments with
  | nil => exact kept
  | cons part parts ih =>
    rw [List.forall_mem_cons] at free
    cases parts with
    | nil => exact isSegment_descend kept free.1 true
    | cons next parts => exact ih (isSegment_descend kept free.1 false) free.2

/-! ## Whole URLs -/

/-- What holds of every URL that has been read. -/
structure WellFormed (u : Url) : Prop where
  scheme : IsScheme u.scheme
  username : ∀ c ∈ u.username.toList, IsInner c
  password : ∀ c ∈ u.password.toList, IsInner c
  hosted : u.isSpecial = true → u.host.isSome = true
  host : ∀ h, u.host = some h → h.Written u.isSpecial ∨ u.scheme = "file" ∧ h = .name ""
  /-- Neither a file nor a URL that names no host has a user or a port. -/
  bare : u.scheme = "file" ∨ u.host = some (.name "") →
    u.username = "" ∧ u.password = "" ∧ u.port = none
  port : ∀ n, u.port = some n → n ≤ 65535
  segments : ∀ s ∈ u.segments, IsSegment s
  /-- A path of plain text does not look like one of segments. -/
  plain : ∀ text, u.path = .plain text →
    u.host = none ∧ ∀ c ∈ text.toList.head?, c ≠ '/' ∧ controlSet c = false

variable {u v : Url}

theorem WellFormed.not_special (w : WellFormed u) (hostless : u.host = none) :
    u.isSpecial = false := by
  refine Bool.eq_false_iff.mpr fun special => ?_
  have hosted := w.hosted special
  rw [hostless] at hosted
  cases hosted

theorem isSpecial_of_file (file : u.scheme = "file") : u.isSpecial = true := by
  rw [Url.isSpecial, file]
  rfl

/-! ### What follows the host -/

theorem WellFormed.withTail (w : WellFormed u) (cs : List Char) : WellFormed (withTail u cs) :=
  { w with }

/-- The query and the fragment do not matter. -/
theorem WellFormed.retailed (w : WellFormed u) (query fragment : Option String) :
    WellFormed { u with query, fragment } :=
  { w with }

theorem WellFormed.withSegments (w : WellFormed u) {segments : List String}
    (kept : ∀ s ∈ segments, IsSegment s) : WellFormed { u with path := .segments segments } :=
  { w with segments := kept, plain := nofun }

theorem WellFormed.withPath (w : WellFormed u) {segments : List String}
    (kept : ∀ s ∈ segments, IsSegment s) (cs : List Char) : WellFormed (withPath u segments cs) :=
  (w.withSegments (isSegment_descendAll kept fun _ => not_mem_of_mem_splitSlashes)).withTail _

theorem WellFormed.withPathStart (w : WellFormed u) (cs : List Char) :
    WellFormed (withPathStart u cs) := by
  have root : ∀ s ∈ [""], IsSegment s := List.forall_mem_singleton.mpr isSegment_empty
  unfold Url.withPathStart
  split
  · split
    · exact w.withPath (List.forall_mem_nil _) _
    · split
      · exact w.withPath (List.forall_mem_nil _) _
      · exact (w.withSegments (List.forall_mem_nil _)).withTail _
  · refine w.withSegments ?_
    split
    · exact root
    · exact List.forall_mem_nil _

/-! ### Authority -/

theorem isInner_of_mem_userinfo {cs : List Char} :
    ∀ c ∈ (String.ofList (percentEncode userinfoSet cs)).toList, IsInner c := by
  intro c hc
  rw [String.toList_ofList] at hc
  rcases mem_percentEncode hc with ⟨-, plain⟩ | written
  · have marks : ∀ d ∈ authorityMarks, userinfoSet d = true := of_all (by decide)
    refine ⟨?_, fun other => Bool.false_ne_true (plain.symm.trans (marks c other))⟩
    simp only [userinfoSet, Bool.or_eq_false_iff] at plain
    exact toNat_of_not_pathSet plain.1
  · exact written.isNameChar.1

/-- What is encoded begins with what it is made of or with a percent sign. -/
theorem exists_percentEncode_eq (set : Char → Bool) (c : Char) (cs : List Char) :
    ∃ first rest, percentEncode set (c :: cs) = first :: rest ∧ (first = c ∨ first = '%') := by
  rw [percentEncode, List.flatMap_cons]
  split
  · obtain ⟨b, octets, encoded⟩ : ∃ b octets, Utf8.encodeChar c = b :: octets := by
      unfold Utf8.encodeChar
      dsimp only
      repeat' split
      all_goals exact ⟨_, _, rfl⟩
    rw [encoded]
    exact ⟨_, _, rfl, .inr rfl⟩
  · exact ⟨_, _, rfl, .inl rfl⟩

/-- Only a URL that is not special names no host, and only where nothing is written. -/
theorem hostOf_eq_unnamed {special : Bool} {cs : List Char}
    (read : hostOf special cs = .ok (.name "")) : special = false ∧ cs = [] := by
  have written := Host.written_of_hostOf read
  cases special with
  | true =>
    cases written with
    | name _ _ named _ => exact absurd rfl (named rfl).1
  | false =>
    refine ⟨rfl, ?_⟩
    have plain : Host.plain cs = .ok (.name "") := read
    unfold Host.plain at plain
    split at plain
    · obtain ⟨pieces, -, same⟩ := bracketed?_eq_ok plain
      cases same
    · split at plain
      · cases plain
      · cases cs with
        | nil => rfl
        | cons c cs =>
          have empty := congrArg String.toList (Host.name.inj (Except.ok.inj plain))
          obtain ⟨first, rest, encoded, -⟩ := exists_percentEncode_eq controlSet c cs
          rw [String.toList_ofList, encoded] at empty
          cases empty

theorem port?_le {scheme : String} {cs : List Char} {n : ℕ}
    (read : port? scheme cs = .ok (some n)) : n ≤ 65535 := by
  unfold port? at read
  split at read
  · cases read
  · split at read
    · split at read
      · cases read
      · rename_i bounded
        have kept := Except.ok.inj read
        split at kept
        · cases kept
        · cases kept
          exact Nat.not_lt.mp bounded
    · cases read

/-- Nothing is named where there is neither a host nor a port. -/
theorem eq_nil_of_unnamed {cs : List Char} (nothing : hostSpan false cs = [])
    (portless : cs.takeWhile (· != '\\') = []) : cs = [] := by
  cases cs with
  | nil => rfl
  | cons c cs =>
    rw [hostSpan] at nothing
    split at nothing
    · rename_i colon
      rw [colon.1] at portless
      simp at portless
    · cases nothing

theorem wellFormed_of_withAuthority {scheme : String} {cs : List Char} (s : IsScheme scheme)
    (other : scheme ≠ "file") (read : withAuthority scheme cs = .ok u) : WellFormed u := by
  unfold withAuthority at read
  extract_lets special authority rest at read
  split at read
  rename_i userinfo hostPort _
  extract_lets user password hostText portText rest' named at read
  split at read
  · cases read
  rename_i placed
  split at read
  · cases read
  rename_i host hosted
  split at read
  · cases read
  rename_i ported
  split at read
  · cases read
  rename_i port portRead
  obtain rfl := Except.ok.inj read
  have unnamed : host = .name "" → user = [] ∧ password = [] ∧ port = none := by
    rintro rfl
    have nothing : hostText = [] := (hostOf_eq_unnamed hosted).2
    have portless : portText = [] := by simpa using ported
    have behind : portText = hostPort.takeWhile (· != '\\') := by
      simp only [portText, nothing, List.length_nil, List.drop_zero]
    have empty : hostPort = [] := eq_nil_of_unnamed nothing (behind.symm.trans portless)
    have userless : (user = [] ∧ password = []) ∧ (userinfo = some [] → rest' = []) := by
      simpa [empty, named] using placed
    rw [portless] at portRead
    exact ⟨userless.1.1, userless.1.2, (Except.ok.inj portRead).symm⟩
  refine WellFormed.withPathStart ?_ _
  exact
    { scheme := s
      username := isInner_of_mem_userinfo
      password := isInner_of_mem_userinfo
      hosted := fun _ => rfl
      host := by
        rintro _ ⟨⟩
        exact .inl (Host.written_of_hostOf hosted)
      bare := by
        rintro (file | nameless)
        · exact absurd file other
        · obtain ⟨noUser, noPassword, noPort⟩ := unnamed (Option.some.inj nameless)
          rw [noUser, noPassword, noPort]
          exact ⟨rfl, rfl, rfl⟩
      port := by
        rintro n rfl
        exact port?_le portRead
      segments := List.forall_mem_nil _
      plain := nofun }

/-! ### Files -/

theorem isScheme_file : IsScheme "file" := ⟨by decide, of_all (by decide)⟩

theorem written_of_fileHost {cs : List Char} {h : Host} (read : fileHost cs = .ok h) :
    h.Written true ∨ h = .name "" := by
  unfold fileHost at read
  split at read
  · cases read
    exact .inr rfl
  · split at read
    · cases read
      exact .inr rfl
    · exact .inl (Host.written_of_special read)

theorem wellFormed_fileRoot {h : Host} (written : h.Written true ∨ h = .name "") :
    WellFormed (fileRoot (some h)) where
  scheme := isScheme_file
  username := nofun
  password := nofun
  hosted _ := rfl
  host := by
    rintro _ ⟨⟩
    exact written.imp_right fun unnamed => ⟨rfl, unnamed⟩
  bare _ := ⟨rfl, rfl, rfl⟩
  port := nofun
  segments := nofun
  plain := nofun

/-- A file without path on the host of another file. -/
theorem WellFormed.fileRoot (w : WellFormed u) (file : u.scheme = "file") :
    WellFormed (fileRoot u.host) := by
  have special := isSpecial_of_file file
  obtain ⟨h, host⟩ := Option.isSome_iff_exists.mp (w.hosted special)
  rw [host]
  refine wellFormed_fileRoot ?_
  rcases w.host h host with written | ⟨-, unnamed⟩
  · exact .inl (special ▸ written)
  · exact .inr unnamed

theorem wellFormed_of_file {base : Option Url} {cs : List Char}
    (sound : ∀ b ∈ base, WellFormed b ∧ b.scheme = "file") (read : file base cs = .ok u) :
    WellFormed u := by
  have root : WellFormed (Url.fileRoot (some (.name ""))) := wellFormed_fileRoot (.inr rfl)
  have below (cs : List Char) : WellFormed (file.fileBelowRoot base cs) := by
    unfold file.fileBelowRoot
    split
    · exact root.withPath (List.forall_mem_nil _) cs
    · rename_i b
      obtain ⟨w, scheme⟩ := sound b rfl
      refine (w.fileRoot scheme).withPath (fun s hs => ?_) cs
      split at hs
      · cases hs
      · exact w.segments s (List.mem_of_mem_take (List.mem_of_mem_filter hs))
  unfold file at read
  split at read
  · split at read
    · split at read
      · split at read
        · dsimp only at read
          split at read
          · cases read
            exact root.withPath (List.forall_mem_nil _) _
          · generalize hosted : fileHost _ = host at read
            cases host with
            | error reason => cases read
            | ok h =>
              cases read
              exact (wellFormed_fileRoot (written_of_fileHost hosted)).withPathStart _
        · cases read
          exact below _
      · cases read
        exact below _
    · split at read
      · cases read
        exact root.withPath (List.forall_mem_nil _) _
      · rename_i b
        obtain ⟨w, scheme⟩ := sound b rfl
        split at read
        · cases read
          exact (w.retailed _ _).withTail _
        · split at read
          · cases read
            exact (w.withTail _).retailed _ _
          · cases read
            have kept (absolute : Bool) :
                ∀ s ∈ if absolute then [] else shorten "file" b.segments, IsSegment s := by
              split
              · exact List.forall_mem_nil _
              · exact isSegment_of_shorten w.segments
            exact ((w.fileRoot scheme).withSegments (kept _)).withPath (kept _) _
  · split at read
    · rename_i b
      cases read
      exact (sound b rfl).1.retailed _ _
    · cases read
      exact root.withSegments (List.forall_mem_singleton.mpr isSegment_empty)

/-! ### Reading -/

theorem WellFormed.relativeTo (w : WellFormed u) (other : u.scheme ≠ "file") {cs : List Char}
    (read : relativeTo u cs = .ok v) : WellFormed v := by
  have below (segments : List String) (kept : ∀ s ∈ segments, IsSegment s) (cs : List Char) :
      WellFormed (Url.withPath { u with query := none, fragment := none } segments cs) :=
    (w.retailed _ _).withPath kept cs
  unfold Url.relativeTo at read
  dsimp only at read
  split at read
  · cases read
    exact w.retailed _ _
  · split at read
    · split at read
      · split at read
        · exact wellFormed_of_withAuthority w.scheme other read
        · cases read
          exact below [] (List.forall_mem_nil _) _
      · cases read
        exact below [] (List.forall_mem_nil _) _
    · split at read
      · cases read
        exact (w.retailed _ _).withTail _
      · split at read
        · cases read
          exact (w.withTail _).retailed _ _
        · cases read
          exact below _ (isSegment_of_shorten w.segments) _

/-- A scheme and plain text behind it. -/
theorem wellFormed_plain {scheme : String} (s : IsScheme scheme)
    (special : isSpecialScheme scheme = false) {cs : List Char}
    (relative : ∀ c ∈ cs.head?, c ≠ '/') :
    WellFormed { scheme, path := .plain (String.ofList (percentEncode controlSet cs)) } where
  scheme := s
  username := nofun
  password := nofun
  hosted named := absurd (special.symm.trans named) nofun
  host := nofun
  bare _ := ⟨rfl, rfl, rfl⟩
  port := nofun
  segments := nofun
  plain := by
    rintro _ ⟨⟩
    refine ⟨rfl, fun c hc => ?_⟩
    rw [String.toList_ofList] at hc
    constructor
    · cases cs with
      | nil => cases hc
      | cons d cs =>
        obtain ⟨first, rest, encoded, rfl | rfl⟩ := exists_percentEncode_eq controlSet d cs
        all_goals
          rw [encoded] at hc
          cases hc
        · exact relative _ rfl
        · decide
    · rcases mem_percentEncode (List.mem_of_mem_head? hc) with ⟨-, plain⟩ | written
      · exact plain
      · exact written.kept.2

theorem wellFormed_of_afterScheme {base : Option Url} (sound : ∀ b ∈ base, WellFormed b)
    {scheme : String} (s : IsScheme scheme) {cs : List Char}
    (read : afterScheme base scheme cs = .ok u) : WellFormed u := by
  unfold afterScheme at read
  split at read
  · refine wellFormed_of_file (fun b hb => ?_) read
    obtain ⟨mem, file⟩ := Option.mem_filter_iff.mp hb
    exact ⟨sound b mem, by simpa using file⟩
  · rename_i other
    split at read
    · dsimp only at read
      split at read
      · rename_i b
        split at read
        · rename_i same
          exact (sound b rfl).relativeTo (same.1 ▸ other) read
        · exact wellFormed_of_withAuthority s other read
      · exact wellFormed_of_withAuthority s other read
    · rename_i named
      have special : isSpecialScheme scheme = false := Bool.eq_false_iff.mpr named
      split at read
      · exact wellFormed_of_withAuthority s other read
      · cases read
        have pathless : ∀ c ∈ ([] : List Char).head?, c ≠ '/' := nofun
        exact ((wellFormed_plain s special pathless).withSegments
          (List.forall_mem_nil _)).withPath (List.forall_mem_nil _) _
      · rename_i relative
        cases read
        refine (wellFormed_plain s special fun c hc => ?_).withTail _
        rintro rfl
        rw [List.head?_takeWhile] at hc
        obtain ⟨rest, rfl⟩ := List.head?_eq_some_iff.mp (Option.mem_filter_iff.mp hc).1
        exact relative rest rfl

/-- Whatever is read, and whatever it is relative to. -/
theorem wellFormed_of_read {base : Option Url} (sound : ∀ b ∈ base, WellFormed b) {s : String}
    (read : Url.read base s = .ok u) : WellFormed u := by
  unfold Url.read at read
  dsimp only at read
  split at read
  · rename_i scheme rest found
    exact wellFormed_of_afterScheme sound (isScheme_of_scheme? found) read
  · split at read
    · cases read
    · rename_i b
      have w := sound b rfl
      split at read
      · cases read
        exact (w.withTail _).retailed _ _
      · split at read
        · cases read
        · split at read
          · rename_i file
            refine wellFormed_of_file (fun b' hb => ?_) read
            obtain rfl := Option.some.inj hb
            exact ⟨w, file⟩
          · rename_i other
            exact w.relativeTo other read

end Url

end AnalysisPanel
