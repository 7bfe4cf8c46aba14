import AnalysisPanel.Terminal.Host
import AnalysisPanel.Proofs.Panel.Execution
import AnalysisPanel.Proofs.Text.Numerals

/-! Positions on the terminal. What a host prints of an entry carries the position of the entry,
the line that opens its link is read as that position, and the whole panel shows it there. -/

namespace AnalysisPanel

open Text Rendering

variable {index : Nat} {e : Entry} {url : String}

/-! ## Lines that are typed -/

namespace Command

/-- The line that opens the link of the entry at an index. -/
def opening (index : Nat) : String := "/open " ++ toString (index + 1)

theorem parse_of_slash {line : String} {rest : List Char} (slash : trim line.toList = '/' :: rest) :
    parse line =
      (named (String.ofList (rest.takeWhile fun c => !isBlank c))
        (trim (rest.dropWhile fun c => !isBlank c))).map some := by
  unfold parse
  rw [slash]
  rfl

/-- A name and a word behind it are read as the command of that name with that argument. -/
theorem parse_word {name line : String} {word : List Char}
    (plain : ∀ c ∈ name.toList, isBlank c = false) (w : IsWord word)
    (typed : line.toList = '/' :: (name.toList ++ ' ' :: word)) :
    parse line = (named name word).map some := by
  have ends : ∀ c ∈ line.toList.getLast?, isBlank c = false := by
    have split : line.toList = ('/' :: name.toList ++ [' ']) ++ word := by simp [typed]
    rw [split]
    exact w.getLast?_append _
  have whole : trim line.toList = '/' :: (name.toList ++ ' ' :: word) := by
    rw [← typed]
    refine trim_eq_self ?_ ends
    rw [typed]
    rintro c ⟨⟩
    decide
  rw [parse_of_slash whole, takeWhile_solid plain, dropWhile_solid plain, w.trim_blank,
    String.ofList_toList]

theorem position_toDigits (inside : index + 1 < positionBound) :
    position (Nat.toDigits 10 (index + 1)) = .ok index := by
  rw [position, natural?_toDigits inside]

theorem named_open_of_ne_nil {arg : List Char} (given : arg ≠ []) :
    named "open" arg = (position arg).map (openLink ∘ some) := by
  have read : named "open" arg =
      if arg.isEmpty then .ok (.openLink none) else (position arg).map (openLink ∘ some) := rfl
  rw [read, if_neg (by simpa using given)]

theorem named_open (inside : index + 1 < positionBound) :
    named "open" (Nat.toDigits 10 (index + 1)) = .ok (.openLink (some index)) := by
  rw [named_open_of_ne_nil Nat.toDigits_ne_nil, position_toDigits inside]
  rfl

/-- The line is read as what it was made from. -/
theorem parse_opening (inside : index + 1 < positionBound) :
    parse (opening index) = .ok (some (.openLink (some index))) := by
  have typed : (opening index).toList =
      '/' :: ("open".toList ++ ' ' :: Nat.toDigits 10 (index + 1)) := by simp [opening]
  rw [parse_word (by simp [isBlank]) (isWord_toDigits _) typed, named_open inside]
  rfl

end Command

/-! ## Lines that are printed -/

namespace Rendering

theorem entryLine_of_link (link : e.link? = some url) :
    entryLine (index + 1) e =
      "[" ++ toString (index + 1) ++ "] analyst: result ready at " ++ url ++ " (" ++
        Command.opening index ++ ")" := by
  cases e with
  | assistant text found =>
    cases link
    have head : "] analyst: result ready at " = "] " ++ "analyst: result ready at " := rfl
    have offer : " (/open " = " (" ++ "/open " := rfl
    simp only [entryLine, Command.opening, head, offer, String.append_assoc]
  | _ => cases link

theorem entryLine_mem_panelLines {v : View} (h : v.entries[index]? = some e) :
    entryLine (index + 1) e ∈ panelLines v := by
  have shown : entryLines v index e ∈ v.entries.mapIdx (entryLines v) := by
    apply List.mem_of_getElem?
    rw [List.getElem?_mapIdx, h]
    rfl
  have body : entryLine (index + 1) e ∈ (v.entries.mapIdx (entryLines v)).flatten :=
    List.mem_flatten.mpr ⟨_, shown, List.mem_cons_self⟩
  exact List.mem_append_left _ (List.mem_append_right _ body)

end Rendering

namespace Host

theorem actsFrom_append (shown : Nat) (es fs : List Effect) :
    actsFrom shown (es ++ fs) = actsFrom shown es ++ actsFrom (shown + es.countP appends) fs := by
  induction es generalizing shown with
  | nil => rfl
  | cons effect es ih =>
    simp only [List.cons_append, actsFrom, ih, List.append_assoc, List.countP_cons]
    congr 3
    split <;> omega

theorem batch_of_cut (p : Panel) {es before after : List Effect}
    (cut : es = before ++ .turnAppended e :: after) :
    ∃ rest, batch p es =
      actsFrom (p.transcript.size - es.countP appends) before ++
        .print (entryLine (p.transcript.size - es.countP appends + before.countP appends + 1) e) ::
          rest := by
  rw [batch]
  generalize p.transcript.size - es.countP appends = shown
  rw [cut, actsFrom_append, List.append_assoc]
  exact ⟨_, rfl⟩

theorem readLine_show (h : Host) : h.readLine "/show" = (true, h, presentActs h.panel) := rfl

theorem readLine_opening (h : Host) (inside : index + 1 < Command.positionBound) :
    h.readLine (Command.opening index) = (true, h.dispatch (.linkActivated index)) := by
  simp only [readLine, Command.parse_opening inside]
  simp [carryOut, Command.messages, dispatchAll]

/-- An entry goes by its position: the whole panel shows it there, and if it carries a link, its
line offers one to type that opens this link. Positions are typed as numbers of 64 bits. -/
structure Names (h : Host) (index : Nat) (e : Entry) : Prop where
  stands : h.panel.transcript.get? index = some e
  shows : h.readLine "/show" = (true, h, presentActs h.panel) ∧
    .print (entryLine (index + 1) e) ∈ presentActs h.panel
  offers : ∀ url, e.link? = some url → entryLine (index + 1) e =
    "[" ++ toString (index + 1) ++ "] analyst: result ready at " ++ url ++ " (" ++
      Command.opening index ++ ")"
  opens : ∀ url, e.link? = some url → index + 1 < Command.positionBound →
    h.readLine (Command.opening index) = (true, h.dispatch (.linkActivated index)) ∧
      (h.panel.step (.linkActivated index)).effects = [.openLink url]

theorem names_of_stands {h : Host} (stands : h.panel.transcript.get? index = some e) :
    h.Names index e where
  stands := stands
  shows := ⟨h.readLine_show, List.mem_map_of_mem (entryLine_mem_panelLines stands)⟩
  offers _ link := entryLine_of_link link
  opens url link inside := by
    have carried : (h.panel.transcript.get? index).bind Entry.link? = some url := by
      rw [stands]
      exact link
    exact ⟨h.readLine_opening inside, (Panel.Rule.linkOpened index url carried).step.2⟩

end Host

end AnalysisPanel
