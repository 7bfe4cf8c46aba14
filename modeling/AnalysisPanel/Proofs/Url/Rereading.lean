import AnalysisPanel.Proofs.Url.Parts

/-! URLs read as they are written. What is written of a URL is an absolute one: it reads alike
whatever it is relative to, and where its host can be read again, so can the whole of it. -/

namespace AnalysisPanel

namespace Url

open Text

/-! ## What counts of a text -/

/-- What counts of a text behind something that is neither blank nor control. -/
def settled (cs : List Char) : List Char :=
  (cs.reverse.dropWhile fun c => c.toNat ≤ 0x20).reverse.filter fun c =>
    c != '\t' && c != '\n' && c != '\r'

theorem dropWhile_of_forall {α : Type*} {p : α → Bool} {l : List α} (kept : ∀ a ∈ l, p a = false) :
    l.dropWhile p = l := by
  cases l with
  | nil => rfl
  | cons a l => rw [List.dropWhile_cons_of_neg (by simp [kept a List.mem_cons_self])]

/-- Of what is neither blank nor control, all counts. -/
theorem counts_of_le {c : Char} (code : 0x20 ≤ c.toNat) :
    (c != '\t' && c != '\n' && c != '\r') = true := by
  simp only [Bool.and_eq_true, bne_iff_ne, ne_eq]
  refine ⟨⟨?_, ?_⟩, ?_⟩ <;> rintro rfl <;> exact absurd code (by decide)

theorem settled_append {front : List Char} (solid : ∀ c ∈ front, 0x20 < c.toNat)
    (cs : List Char) : settled (front ++ cs) = front ++ settled cs := by
  have kept : ∀ c ∈ front, decide (c.toNat ≤ 0x20) = false :=
    fun c hc => decide_eq_false (Nat.not_le.mpr (solid c hc))
  have whole : front.filter (fun c => c != '\t' && c != '\n' && c != '\r') = front :=
    List.filter_eq_self.mpr fun c hc => counts_of_le (Nat.le_of_lt (solid c hc))
  have back : front.reverse.dropWhile (fun c => decide (c.toNat ≤ 0x20)) = front.reverse :=
    dropWhile_of_forall fun c hc => kept c (List.mem_reverse.mp hc)
  rw [settled, settled, List.reverse_append, List.dropWhile_append]
  split
  · rename_i blank
    rw [List.isEmpty_iff.mp blank, back, List.reverse_reverse, whole]
    simp
  · rw [List.reverse_append, List.reverse_reverse, List.filter_append, whole]

theorem significant_append {front : List Char} (solid : ∀ c ∈ front, 0x20 < c.toNat)
    (nonempty : front ≠ []) (cs : List Char) :
    significant (String.ofList (front ++ cs)) = front ++ settled cs := by
  obtain ⟨c, front, rfl⟩ := List.exists_cons_of_ne_nil nonempty
  have first : ¬ c.toNat ≤ 0x20 := Nat.not_le.mpr (solid c List.mem_cons_self)
  rw [← settled_append solid, significant, settled, String.toList_ofList, List.cons_append,
    List.dropWhile_cons_of_neg (by simpa using first)]

/-- What counts of a text begins as the text does, unless that does not count itself. -/
theorem head?_settled {cs : List Char} (plain : ∀ c ∈ cs.head?, 0x20 ≤ c.toNat) :
    ∀ c ∈ (settled cs).head?, c ∈ cs.head? := by
  cases cs with
  | nil => exact nofun
  | cons d cs =>
    have front : ((d :: cs).reverse.dropWhile fun c => decide (c.toNat ≤ 0x20)).reverse <+:
        d :: cs := by
      rw [← List.reverse_suffix, List.reverse_reverse]
      exact List.dropWhile_suffix _
    intro c hc
    rw [settled] at hc
    rcases List.prefix_cons_iff.mp front with nothing | ⟨rest, kept, -⟩
    · rw [nothing] at hc
      cases hc
    · rw [kept, List.filter_cons, if_pos (counts_of_le (plain d rfl))] at hc
      exact hc

/-! ## What is written -/

variable {u : Url}

/-- The user of a URL as it is written, with the sign behind it. -/
def userText (u : Url) : List Char :=
  if u.username = "" ∧ u.password = "" then []
  else u.username.toList ++ (if u.password = "" then [] else ':' :: u.password.toList) ++ ['@']

/-- The port of a URL as it is written, with the colon before it. -/
def portText (u : Url) : List Char :=
  match u.port with
  | some n => ':' :: Nat.toDigits 10 n
  | none => []

/-- What is written behind the host of a URL. -/
def trail (u : Url) : List Char :=
  u.path.text.toList ++ (marked "?" u.query).toList ++ (marked "#" u.fragment).toList

theorem toList_text (u : Url) :
    u.text.toList = u.scheme.toList ++ ':' :: (u.authorityText.toList ++ u.trail) := by
  simp [text, requestText, trail]

theorem toList_authorityText {h : Host} (host : u.host = some h) :
    u.authorityText.toList =
      '/' :: '/' :: (u.userText ++ (h.text.toList ++ u.portText)) := by
  unfold authorityText userText portText
  rw [host]
  dsimp only
  cases u.port with
  | none => split <;> split <;> simp_all
  | some n => split <;> split <;> simp_all [Nat.toList_repr]

/-- A user as it is written: nothing, or something with the sign behind it. -/
def IsUserText (user : List Char) : Prop :=
  user = [] ∨ ∃ info, user = info ++ ['@'] ∧ ∀ c ∈ info, IsInner c

theorem WellFormed.isUserText (w : WellFormed u) : IsUserText u.userText := by
  unfold userText
  split
  · exact .inl rfl
  · refine .inr ⟨_, rfl, List.forall_mem_append.mpr ⟨w.username, ?_⟩⟩
    split
    · exact List.forall_mem_nil _
    · exact List.forall_mem_cons.mpr ⟨by decide, w.password⟩

/-- A port as it is written: nothing, or a number that is not too large behind a colon. -/
def IsPortText (port : List Char) : Prop :=
  port = [] ∨ ∃ n ≤ 65535, port = ':' :: Nat.toDigits 10 n

theorem IsPortText.isInner {port : List Char} (ported : IsPortText port) :
    ∀ c ∈ port, IsInner c := by
  rcases ported with rfl | ⟨n, -, rfl⟩
  · exact List.forall_mem_nil _
  · refine List.forall_mem_cons.mpr ⟨by decide, fun c hc => ?_⟩
    have digit := Nat.isDigit_of_mem_toDigits (by decide) (by decide) hc
    have written : IsFormChar c := .inl (by simp [Char.isAlphanum, digit])
    exact written.isNameChar.1

theorem WellFormed.isPortText (w : WellFormed u) : IsPortText u.portText := by
  unfold portText
  split
  · rename_i n port
    exact .inr ⟨n, w.port n port, rfl⟩
  · exact .inl rfl

/-- Behind the host a URL goes on with the mark of a path, a query or a fragment. -/
theorem head?_marks (query fragment : Option String) :
    ∀ c ∈ ((marked "?" query).toList ++ (marked "#" fragment).toList).head?, c = '?' ∨ c = '#' := by
  intro c hc
  cases query <;> cases fragment <;> simp [marked] at hc <;> simp [← hc]

theorem WellFormed.written (w : WellFormed u) {h : Host} (host : u.host = some h) :
    ∀ c ∈ h.text.toList, IsInner c := by
  rcases w.host h host with written | ⟨-, rfl⟩
  · exact written.isInner
  · exact nofun

/-- What stands before the path holds neither blanks nor controls. -/
theorem WellFormed.solid_authorityText (w : WellFormed u) :
    ∀ c ∈ u.authorityText.toList, 0x20 < c.toNat := by
  cases host : u.host with
  | none =>
    have text : u.authorityText = "/." ∨ u.authorityText = "" := by
      unfold authorityText
      rw [host]
      dsimp only
      split
      · exact .inl rfl
      · exact .inr rfl
    rcases text with text | text <;> rw [text] <;> exact of_all (by decide)
  | some h =>
    have user : ∀ c ∈ u.userText, 0x20 < c.toNat := by
      rcases w.isUserText with none | ⟨info, some, inner⟩
      · rw [none]
        exact List.forall_mem_nil _
      · rw [some]
        exact List.forall_mem_append.mpr
          ⟨fun c hc => (inner c hc).1, List.forall_mem_singleton.mpr (by decide)⟩
    rw [toList_authorityText host]
    refine List.forall_mem_cons.mpr ⟨by decide, List.forall_mem_cons.mpr ⟨by decide, ?_⟩⟩
    exact List.forall_mem_append.mpr ⟨user, List.forall_mem_append.mpr
      ⟨fun c hc => (w.written host c hc).1, fun c hc => (w.isPortText.isInner c hc).1⟩⟩

theorem WellFormed.significant_text (w : WellFormed u) :
    significant u.text =
      u.scheme.toList ++ ':' :: (u.authorityText.toList ++ settled u.trail) := by
  have solid : ∀ c ∈ u.scheme.toList ++ ':' :: u.authorityText.toList, 0x20 < c.toNat :=
    List.forall_mem_append.mpr ⟨fun c hc => (toNat_of_isSchemeChar (w.scheme.chars c hc).1).1,
      List.forall_mem_cons.mpr ⟨by decide, w.solid_authorityText⟩⟩
  have text : u.text =
      String.ofList (u.scheme.toList ++ ':' :: u.authorityText.toList ++ u.trail) := by
    rw [List.append_assoc, List.cons_append, ← toList_text, String.ofList_toList]
  rw [text, significant_append solid (by simp), List.append_assoc, List.cons_append]

/-- What is read of a URL that has been written. -/
theorem WellFormed.read_text_eq (w : WellFormed u) (base : Option Url) :
    read base u.text =
      afterScheme base u.scheme (u.authorityText.toList ++ settled u.trail) := by
  unfold read
  simp only [w.significant_text, w.scheme.scheme?]

/-- Two slashes behind a special scheme leave nothing to be relative to. -/
theorem afterScheme_of_slashes {scheme : String} {cs : List Char}
    (absolute : isSpecialScheme scheme = true → ∃ rest, cs = '/' :: '/' :: rest)
    (base : Option Url) : afterScheme base scheme cs = afterScheme none scheme cs := by
  unfold afterScheme
  split
  · rename_i file
    obtain ⟨rest, rfl⟩ := absolute (file ▸ rfl)
    rfl
  · split
    · rename_i special
      obtain ⟨rest, rfl⟩ := absolute special
      cases base with
      | none => rfl
      | some b =>
        have two : ¬ (('/' :: '/' :: rest).takeWhile (isSlash true)).length < 2 := by
          simp [isSlash]
        dsimp only
        rw [if_neg fun relative => two relative.2]
    · rfl

/-- What is written of a URL reads alike whatever it is relative to. -/
theorem WellFormed.read_text (w : WellFormed u) (base : Option Url) :
    read base u.text = parse u.text := by
  rw [parse, w.read_text_eq, w.read_text_eq, afterScheme_of_slashes]
  intro special
  obtain ⟨h, host⟩ := Option.isSome_iff_exists.mp (w.hosted special)
  rw [toList_authorityText host]
  exact ⟨_, rfl⟩

/-! ## The authority -/

theorem takeWhile_reverse_of_not_mem {sep : Char} {cs : List Char} (free : sep ∉ cs)
    (rest : List Char) :
    (cs.reverse ++ rest).takeWhile (· != sep) = cs.reverse ++ rest.takeWhile (· != sep) := by
  refine List.takeWhile_append_of_pos fun c hc => ?_
  simp only [bne_iff_ne, ne_eq]
  rintro rfl
  exact free (List.mem_reverse.mp hc)

theorem splitLast?_of_not_mem {sep : Char} {cs : List Char} (free : sep ∉ cs) :
    splitLast? sep cs = none := by
  have whole := takeWhile_reverse_of_not_mem free []
  rw [List.append_nil, List.takeWhile_nil, List.append_nil] at whole
  rw [splitLast?, whole]
  simp

theorem splitLast?_append {sep : Char} {back : List Char} (front : List Char) (free : sep ∉ back) :
    splitLast? sep (front ++ sep :: back) = some (front, back) := by
  have after : ((front ++ sep :: back).reverse.takeWhile (· != sep)).reverse = back := by
    rw [List.reverse_append, List.reverse_cons, List.append_assoc,
      takeWhile_reverse_of_not_mem free]
    simp
  have before : (front ++ sep :: back).length - back.length - 1 = front.length := by
    simp
    omega
  have shorter : back.length ≠ (front ++ sep :: back).length := by
    simp
    omega
  rw [splitLast?, after, if_neg shorter, before, List.take_left]

theorem IsPortText.port?_isOk {port : List Char} (ported : IsPortText port) (scheme : String) :
    ∃ p, port? scheme (port.drop 1) = .ok p := by
  rcases ported with rfl | ⟨n, bounded, rfl⟩
  · exact ⟨_, rfl⟩
  · change ∃ p, port? scheme (Nat.toDigits 10 n) = .ok p
    unfold port?
    split
    · exact ⟨_, rfl⟩
    · rw [digits?_toDigits]
      dsimp only
      rw [if_neg (Nat.not_lt.mpr bounded)]
      exact ⟨_, rfl⟩

theorem endsAuthority_of_isInner {c : Char} (inner : IsInner c) (special : Bool) :
    endsAuthority special c = false := by
  have other := inner.2
  simp only [authorityMarks, List.mem_cons, List.not_mem_nil, or_false, not_or] at other
  simp [endsAuthority, isSlash, other]

theorem not_endsAuthority {user hostPort : List Char} (usable : IsUserText user)
    (inner : ∀ c ∈ hostPort, IsInner c) (special : Bool) :
    ∀ c ∈ user ++ hostPort, endsAuthority special c = false := by
  refine List.forall_mem_append.mpr ⟨?_, fun c hc => endsAuthority_of_isInner (inner c hc) special⟩
  rcases usable with rfl | ⟨info, rfl, inner⟩
  · exact List.forall_mem_nil _
  · refine List.forall_mem_append.mpr
      ⟨fun c hc => endsAuthority_of_isInner (inner c hc) special, List.forall_mem_singleton.mpr ?_⟩
    cases special <;> rfl

/-- What is written before a path is read up to the path. -/
theorem takeWhile_authority {special : Bool} {user hostPort rest : List Char}
    (usable : IsUserText user) (inner : ∀ c ∈ hostPort, IsInner c)
    (ended : ∀ c ∈ rest.head?, endsAuthority special c = true) :
    (user ++ hostPort ++ rest).takeWhile (fun c => !endsAuthority special c) =
      user ++ hostPort := by
  have within : ∀ c ∈ user ++ hostPort, (!endsAuthority special c) = true := fun c hc => by
    rw [not_endsAuthority usable inner special c hc]
    rfl
  rw [List.takeWhile_append_of_pos within]
  cases rest with
  | nil => simp
  | cons c rest => rw [List.takeWhile_cons_of_neg (by simp [ended c rfl]), List.append_nil]

/-- An authority is read as it is written. -/
theorem withAuthority_isOk {scheme : String} {h : Host} {user port rest : List Char}
    (written : h.Written (isSpecialScheme scheme)) (legible : h.Legible (isSpecialScheme scheme))
    (usable : IsUserText user) (ported : IsPortText port)
    (bare : h.text.toList = [] → user = [] ∧ port = [])
    (ended : ∀ c ∈ rest.head?, endsAuthority (isSpecialScheme scheme) c = true) :
    ∃ u, withAuthority scheme (user ++ (h.text.toList ++ port) ++ rest) = .ok u := by
  have behind : ∀ c ∈ h.text.toList ++ port, IsInner c :=
    List.forall_mem_append.mpr ⟨written.isInner, ported.isInner⟩
  have unsigned : '@' ∉ h.text.toList ++ port := fun sign => absurd (behind '@' sign) (by decide)
  obtain ⟨again, hosted⟩ := written.hostOf_text legible
  unfold withAuthority
  extract_lets special authority rest'
  have whole : authority = user ++ (h.text.toList ++ port) :=
    takeWhile_authority usable behind ended
  split
  rename_i userinfo hostPort cut
  obtain ⟨rfl, userless⟩ : hostPort = h.text.toList ++ port ∧ (user = [] → userinfo = none) := by
    rw [whole] at cut
    rcases usable with rfl | ⟨info, rfl, -⟩
    · rw [List.nil_append, splitLast?_of_not_mem unsigned] at cut
      cases cut
      exact ⟨rfl, fun _ => rfl⟩
    · rw [List.append_assoc, List.singleton_append, splitLast?_append _ unsigned] at cut
      cases cut
      exact ⟨rfl, fun none => absurd none (by simp)⟩
  extract_lets info password hostText portText rest'' named
  have host : hostText = h.text.toList := by
    refine written.hostSpan_append fun c hc => ?_
    rcases ported with rfl | ⟨n, -, rfl⟩
    · cases hc
    · exact (Option.some.inj hc).symm
  have digits : portText = port := by
    have kept : ∀ c ∈ port, (c != '\\') = true := by
      intro c hc
      simp only [bne_iff_ne, ne_eq]
      rintro rfl
      exact absurd (ported.isInner _ hc) (by decide)
    simp only [portText, host, List.drop_left]
    rw [← List.append_nil port, List.takeWhile_append_of_pos kept, List.takeWhile_nil]
  have placed : ¬ ((h.text.toList ++ port).isEmpty = true ∧
      (named = true ∨ userinfo = some [] ∧ (!rest''.isEmpty) = true)) := by
    rintro ⟨empty, inside⟩
    have nothing := List.append_eq_nil_iff.mp (List.isEmpty_iff.mp empty)
    have none := userless (bare nothing.1).1
    rcases inside with inside | inside
    · simp [named, info, password, none] at inside
    · rw [none] at inside
      cases inside.1
  have portless : ¬ (again = .name "" ∧ (!portText.isEmpty) = true) := by
    rintro ⟨rfl, some⟩
    rw [digits, (bare (hostOf_eq_unnamed hosted).2).2] at some
    cases some
  obtain ⟨p, read⟩ := ported.port?_isOk scheme
  rw [← digits] at read
  rw [if_neg placed, host, hosted]
  dsimp only
  rw [if_neg portless, read]
  exact ⟨_, rfl⟩

/-! ## Whole URLs -/

theorem toList_segments_cons (part : String) (parts : List String) :
    (Path.segments (part :: parts)).text.toList =
      '/' :: (part.toList ++ (Path.segments parts).text.toList) := by
  simp [Path.text, String.join_cons]

/-- Behind the host, or where it would be, a path of segments begins with a slash. -/
theorem head?_trail_of_segments {parts : List String} (path : u.path = .segments parts) :
    ∀ c ∈ u.trail.head?, c = '/' ∨ c = '?' ∨ c = '#' := by
  intro c hc
  rw [trail, path, List.append_assoc] at hc
  cases parts with
  | nil => exact .inr (head?_marks u.query u.fragment c hc)
  | cons part parts =>
    rw [toList_segments_cons] at hc
    exact .inl (Option.some.inj hc).symm

theorem toNat_of_mark {c : Char} (mark : c = '/' ∨ c = '?' ∨ c = '#') : 0x20 ≤ c.toNat := by
  rcases mark with rfl | rfl | rfl <;> decide

theorem WellFormed.ends_authority (w : WellFormed u) {h : Host} (host : u.host = some h)
    (special : Bool) : ∀ c ∈ (settled u.trail).head?, endsAuthority special c = true := by
  obtain ⟨parts, path⟩ : ∃ parts, u.path = .segments parts := by
    cases path : u.path with
    | segments parts => exact ⟨parts, rfl⟩
    | plain text =>
      have hostless := (w.plain text path).1
      rw [host] at hostless
      cases hostless
  intro c hc
  have marks := head?_trail_of_segments path
  have first := head?_settled (fun c hc => toNat_of_mark (marks c hc)) c hc
  rcases marks c first with rfl | rfl | rfl <;> cases special <;> rfl

theorem head?_append_marks {cs : List Char} (plain : ∀ c ∈ cs.head?, c ≠ '/' ∧ 0x20 ≤ c.toNat)
    (query fragment : Option String) :
    ∀ c ∈ (cs ++ ((marked "?" query).toList ++ (marked "#" fragment).toList)).head?,
      c ≠ '/' ∧ 0x20 ≤ c.toNat := by
  cases cs with
  | nil =>
    intro c hc
    rcases head?_marks query fragment c hc with rfl | rfl <;> decide
  | cons d cs => exact plain

/-- Without a host nothing that is written behind the scheme looks like one: a path that would is
kept apart by a dot. -/
theorem WellFormed.hostless (w : WellFormed u) (host : u.host = none) (rest : List Char) :
    u.authorityText.toList ++ settled u.trail ≠ '/' :: '/' :: rest := by
  have slashless {cs : List Char} (plain : ∀ c ∈ cs.head?, c ≠ '/' ∧ 0x20 ≤ c.toNat)
      (rest : List Char) : settled (cs ++ ((marked "?" u.query).toList ++
        (marked "#" u.fragment).toList)) ≠ '/' :: rest := by
    have plain := head?_append_marks plain u.query u.fragment
    intro slash
    have first := head?_settled (fun c hc => (plain c hc).2) '/' (by rw [slash]; rfl)
    exact (plain '/' first).1 rfl
  unfold authorityText trail
  rw [host, List.append_assoc]
  dsimp only
  cases path : u.path with
  | plain text =>
    refine slashless (fun c hc => ?_) _
    obtain ⟨slash, plain⟩ := (w.plain text path).2 c hc
    exact ⟨slash, (controlSet_eq_false_iff.mp plain).1⟩
  | segments parts =>
    have kept : ∀ s ∈ parts, IsSegment s := by
      have kept := w.segments
      rwa [Url.segments, path] at kept
    split
    · -- The dot comes before the second slash.
      exact fun same => absurd (List.cons.inj (List.cons.inj same).2).1 (by decide)
    · rename_i apart
      rw [String.toList_empty, List.nil_append]
      cases parts with
      | nil =>
        refine slashless (fun c hc => ?_) _
        cases hc
      | cons part parts =>
        rw [toList_segments_cons, List.cons_append, ← List.singleton_append,
          settled_append (List.forall_mem_singleton.mpr (by decide))]
        refine fun same => slashless (fun c hc => ?_) rest (List.cons.inj same).2
        cases letters : part.toList with
        | nil =>
          have empty : part = "" := String.toList_eq_nil_iff.mp letters
          have last : parts = [] := by
            cases parts with
            | nil => rfl
            | cons next parts => exact absurd (by rw [empty]) (apart next parts)
          rw [letters, last] at hc
          cases hc
        | cons d cs =>
          have letter := kept part List.mem_cons_self d (letters ▸ List.mem_cons_self)
          rw [letters] at hc
          obtain rfl := Option.some.inj hc
          exact ⟨letter.2, Nat.le_of_lt letter.1⟩

theorem afterScheme_isOk_of_hostless {scheme : String} {cs : List Char}
    (special : isSpecialScheme scheme = false) (hostless : ∀ rest, cs ≠ '/' :: '/' :: rest) :
    ∃ v, afterScheme none scheme cs = .ok v := by
  have other : scheme ≠ "file" := by
    rintro rfl
    cases special
  unfold afterScheme
  rw [if_neg other, special]
  dsimp only
  rw [if_neg Bool.false_ne_true]
  split
  · exact absurd rfl (hostless _)
  · exact ⟨_, rfl⟩
  · exact ⟨_, rfl⟩

/-- Two slashes lead to the authority, unless more of them follow. -/
theorem afterScheme_slashes {scheme : String} {cs : List Char} (other : scheme ≠ "file")
    (first : isSpecialScheme scheme = true → ∀ c ∈ cs.head?, isSlash true c = false) :
    afterScheme none scheme ('/' :: '/' :: cs) = withAuthority scheme cs := by
  unfold afterScheme
  rw [if_neg other]
  split
  · rename_i special
    have none : cs.takeWhile (isSlash true) = [] := by
      cases cs with
      | nil => rfl
      | cons c cs => rw [List.takeWhile_cons_of_neg (by simp [first special c rfl])]
    have two : ('/' :: '/' :: cs).takeWhile (isSlash true) = ['/', '/'] := by
      rw [List.takeWhile_cons_of_pos rfl, List.takeWhile_cons_of_pos rfl, none]
    rw [two]
    rfl
  · rfl

theorem fileHost_isOk {h : Host} (written : h.Written true ∨ h = .name "")
    (legible : h.Legible true) : ∃ h', fileHost h.text.toList = .ok h' := by
  unfold fileHost
  split
  · exact ⟨_, rfl⟩
  · rename_i nonempty
    rcases written with written | rfl
    · obtain ⟨h', hosted⟩ := written.hostOf_text legible
      rw [hostOf, if_pos rfl, if_neg nonempty] at hosted
      rw [hosted]
      split
      · exact ⟨_, rfl⟩
      · exact ⟨_, rfl⟩
    · exact absurd rfl nonempty

theorem file_isOk {h : Host} {rest : List Char} (written : h.Written true ∨ h = .name "")
    (legible : h.Legible true) (ended : ∀ c ∈ rest.head?, endsAuthority true c = true) :
    ∃ v, file none ('/' :: '/' :: (h.text.toList ++ rest)) = .ok v := by
  have inner : ∀ c ∈ h.text.toList, IsInner c := by
    rcases written with written | rfl
    · exact written.isInner
    · exact nofun
  have span : (h.text.toList ++ rest).takeWhile (fun c => !endsAuthority true c) =
      h.text.toList := takeWhile_authority (.inl rfl : IsUserText []) inner ended
  obtain ⟨h', hosted⟩ := fileHost_isOk written legible
  have unfolded (cs : List Char) : file none ('/' :: '/' :: cs) =
      let hostText := cs.takeWhile fun c => !endsAuthority true c
      if isDrive hostText then .ok (withPath (fileRoot (some (.name ""))) [] cs)
      else (fileHost hostText).map fun host =>
        withPathStart (fileRoot (some host)) (cs.drop hostText.length) := rfl
  rw [unfolded, span]
  dsimp only
  split
  · exact ⟨_, rfl⟩
  · rw [hosted]
    exact ⟨_, rfl⟩

theorem Host.eq_unnamed {h : Host} (empty : h.text.toList = []) : h = .name "" := by
  cases h with
  | name text => exact congrArg Host.name (by simpa [Host.text] using empty)
  | ipv4 n => exact absurd empty (ipv4Text_ne_nil n)
  | ipv6 pieces =>
    rw [toList_ipv6] at empty
    cases empty

/-- The host of a URL, if it has one, can be read as it is written. -/
def Legible (u : Url) : Prop := ∀ h, u.host = some h → h.Legible u.isSpecial

/-- What is written of a URL is one, if its host can be read again. -/
theorem WellFormed.parse_text (w : WellFormed u) (legible : Legible u) :
    ∃ v, parse u.text = .ok v := by
  rw [parse, w.read_text_eq]
  cases host : u.host with
  | none => exact afterScheme_isOk_of_hostless (w.not_special host) (w.hostless host)
  | some h =>
    rw [toList_authorityText host]
    have bare (unnamed : u.scheme = "file" ∨ h = .name "") : u.userText = [] ∧ u.portText = [] := by
      have nameless := unnamed.imp_right fun same => host.trans (congrArg some same)
      obtain ⟨noUser, noPassword, noPort⟩ := w.bare nameless
      exact ⟨if_pos ⟨noUser, noPassword⟩, by rw [portText, noPort]⟩
    by_cases file : u.scheme = "file"
    · have special := isSpecial_of_file file
      have written := (w.host h host).imp (fun written => special ▸ written) And.right
      obtain ⟨v, read⟩ := file_isOk written (special ▸ legible h host) (w.ends_authority host true)
      refine ⟨v, ?_⟩
      rw [file, (bare (.inl file)).1, (bare (.inl file)).2, List.nil_append, List.append_nil]
      exact read
    · have written := (w.host h host).resolve_right fun unnamed => file unnamed.1
      have inner : ∀ c ∈ h.text.toList ++ u.portText, IsInner c :=
        List.forall_mem_append.mpr ⟨written.isInner, w.isPortText.isInner⟩
      have slashes : '/' :: '/' :: (u.userText ++ (h.text.toList ++ u.portText)) ++
          settled u.trail =
            '/' :: '/' :: (u.userText ++ (h.text.toList ++ u.portText) ++ settled u.trail) := rfl
      rw [slashes, afterScheme_slashes file]
      · exact withAuthority_isOk written (legible h host) w.isUserText w.isPortText
          (fun empty => bare (.inr (Host.eq_unnamed empty))) (w.ends_authority host _)
      · intro special c hc
        have named : h.text.toList ≠ [] := by
          intro empty
          obtain rfl := Host.eq_unnamed empty
          cases written with
          | name _ _ named _ => exact (named special).1 rfl
        rw [List.head?_append_of_ne_nil _ (by simp [named])] at hc
        have inside := not_endsAuthority w.isUserText inner true c (List.mem_of_mem_head? hc)
        simp only [endsAuthority, Bool.or_eq_false_iff] at inside
        exact inside.1.1

end Url

end AnalysisPanel
