import ArgScan.Console.Lines
import ArgScan.Proofs.Cells
import Mathlib.Data.List.TakeDrop
import Mathlib.Data.List.TakeWhile

/-!
# Texts that the console leaves as they are

The console shows a text in lines of its own making. It drops characters, puts blanks for tabs, cuts
between words and within long ones, and drops blanks beyond the width. This module says which texts
it leaves as one line that is the text itself: those that fit (`FitsLine`). One direction follows
the setting of a text that fits: all its words go to the current line (`setLines_of_fitsLine`). The
other goes by what can be lost: no step adds a character other than a blank
(`eq_or_mem_of_mem_setLines`) and none makes a text longer (`flatten_setWords_sublist`), so a text
that comes out as it was lost nothing at any step (`fitsLine_of_setLines_eq`).

A text that does not fit may be changed in many ways, but a label at its start stays there
(`prefix_printed`): it is the first word, the line that it begins is the first, and no cut comes
before its end.
-/

namespace ArgScan.Console

/-! ## Words -/

/-- Blanks at the start of a text end with a blank. -/
theorem exists_getLast?_append_takeWhile {cs : List Char} {c : Char} (hc : c ∈ cs.head?)
    (hblank : Text.isBlank c = true) (before : List Char) :
    ∃ d ∈ (before ++ cs.takeWhile Text.isBlank).getLast?, Text.isBlank d = true := by
  have hne : cs.takeWhile Text.isBlank ≠ [] := by
    obtain ⟨rest, rfl⟩ := List.head?_eq_some_iff.1 hc
    rw [List.takeWhile_cons_of_pos hblank]
    exact List.cons_ne_nil _ _
  have hall := List.all_eq_true.1 (List.all_takeWhile (p := Text.isBlank) (l := cs))
  refine ⟨_, ?_, hall _ (List.getLast_mem hne)⟩
  rw [List.getLast?_append, List.getLast?_eq_some_getLast hne]
  rfl

/-- A word and the rest are the text, and the word has more than blanks. The rest begins with a word
of its own, and then there are blanks before it, at the end of this one. -/
theorem of_nextWord?_eq_some {cs word rest : List Char} (h : nextWord? cs = some (word, rest)) :
    word ++ rest = cs ∧ (∃ c ∈ word, Text.isBlank c = false) ∧
      (rest ≠ [] → (∃ c ∈ word.getLast?, Text.isBlank c = true) ∧
        ∃ c ∈ rest, Text.isBlank c = false) := by
  unfold nextWord? at h
  simp only at h
  split_ifs at h with hword
  obtain ⟨rfl, rfl⟩ := Prod.mk.inj (Option.some.inj h)
  refine ⟨?_, ?_, fun hrest => ⟨?_, _, List.head_mem hrest, List.head_dropWhile_not _ hrest⟩⟩
  · simp only [List.append_assoc, List.takeWhile_append_dropWhile]
  · have hhead := List.head_mem hword
    have hall := List.all_eq_true.1 List.all_takeWhile _ hhead
    rw [Bool.not_eq_eq_eq_not, Bool.not_true] at hall
    exact ⟨_, List.mem_append_left _ (List.mem_append_right _ hhead), hall⟩
  · have hbehind : (cs.dropWhile Text.isBlank).dropWhile (!Text.isBlank ·) ≠ [] := by
      intro hnil
      rw [hnil] at hrest
      exact hrest rfl
    have hblank := List.head_dropWhile_not (!Text.isBlank ·) hbehind
    rw [Bool.not_eq_eq_eq_not, Bool.not_false] at hblank
    exact exists_getLast?_append_takeWhile (List.head?_eq_some_head hbehind) hblank _

/-- A text has a word if it has a character that is not blank. -/
theorem exists_nextWord?_eq_some {cs : List Char} (h : ∃ c ∈ cs, Text.isBlank c = false) :
    ∃ word rest, nextWord? cs = some (word, rest) := by
  have hne : cs.dropWhile Text.isBlank ≠ [] := by
    obtain ⟨c, hc, hblank⟩ := h
    intro hnil
    have hall := List.dropWhile_eq_nil_iff.1 hnil c hc
    rw [hblank] at hall
    contradiction
  have hword : (cs.dropWhile Text.isBlank).takeWhile (!Text.isBlank ·) ≠ [] := by
    have hhead := List.head_dropWhile_not Text.isBlank hne
    obtain ⟨c, rest, hcons⟩ := List.exists_cons_of_ne_nil hne
    simp only [hcons, List.head_cons] at hhead
    rw [hcons, List.takeWhile_cons_of_pos (by rw [hhead]; rfl)]
    exact List.cons_ne_nil _ _
  unfold nextWord?
  simp only [if_neg hword]
  exact ⟨_, _, rfl⟩

/-- Without characters there are no words. -/
theorem words_nil (n : Nat) : words n [] = [] := by
  cases n <;> rfl

/-- The words of a text that has any are all of it. -/
theorem flatten_words {n : Nat} {cs : List Char} (hn : cs.length < n)
    (h : ∃ c ∈ cs, Text.isBlank c = false) : (words n cs).flatten = cs := by
  induction n generalizing cs with
  | zero => omega
  | succ n ih =>
    obtain ⟨word, rest, hword⟩ := exists_nextWord?_eq_some h
    obtain ⟨happend, ⟨c, hc, -⟩, hrest⟩ := of_nextWord?_eq_some hword
    rw [words, hword, List.flatten_cons, ← happend]
    congr 1
    by_cases hnil : rest = []
    · rw [hnil, words_nil]
      rfl
    · have hpos := List.length_pos_of_mem hc
      rw [← happend, List.length_append] at hn
      exact ih (by omega) (hrest hnil).2

/-- A text with words has more than blanks. -/
theorem exists_of_words_ne_nil {n : Nat} {cs : List Char} (h : words n cs ≠ []) :
    ∃ c ∈ cs, Text.isBlank c = false := by
  cases n with
  | zero => exact absurd rfl h
  | succ n =>
    cases hword : nextWord? cs with
    | none =>
      rw [words, hword] at h
      exact absurd rfl h
    | some found =>
      obtain ⟨happend, ⟨c, hc, hblank⟩, -⟩ := of_nextWord?_eq_some hword
      exact ⟨c, happend ▸ List.mem_append_left _ hc, hblank⟩

/-- Each word of a text but the last ends with a blank. -/
theorem exists_getLast?_of_mem_dropLast_words (n : Nat) (cs : List Char) :
    ∀ word ∈ (words n cs).dropLast, ∃ c ∈ word.getLast?, Text.isBlank c = true := by
  induction n generalizing cs with
  | zero => exact List.forall_mem_nil _
  | succ n ih =>
    rw [words]
    split
    · next word rest hword =>
      cases hnil : words n rest with
      | nil => exact List.forall_mem_nil _
      | cons next more =>
        have hrest : rest ≠ [] := by
          rintro rfl
          rw [words_nil] at hnil
          contradiction
        rw [List.dropLast_cons_of_ne_nil (List.cons_ne_nil _ _), ← hnil]
        exact List.forall_mem_cons.2 ⟨((of_nextWord?_eq_some hword).2.2 hrest).1, ih rest⟩
    · exact List.forall_mem_nil _

/-! ## Setting -/

/-- A part of a text at its start takes no more cells than the text. -/
theorem cells_mono {cs ds : List Char} (h : cs <+: ds) : cells cs ≤ cells ds := by
  obtain ⟨more, rfl⟩ := h
  exact cellsAfter_le_append cs more none

/-- What is left of a text without characters at its end is its start. -/
theorem isPrefix_dropEndWhile (p : Char → Bool) (cs : List Char) :
    Text.dropEndWhile p cs <+: cs := by
  have h := List.reverse_prefix.2 (List.dropWhile_suffix (l := cs.reverse) p)
  rwa [List.reverse_reverse] at h

/-- A text that ends with a blank does not end with a joiner. -/
theorem getLast?_ne_joiner_of_blank {word : List Char}
    (h : ∃ c ∈ word.getLast?, Text.isBlank c = true) : word.getLast? ≠ some joiner := by
  obtain ⟨c, hc, hblank⟩ := h
  intro hlast
  rw [Option.mem_def, hlast] at hc
  obtain rfl := Option.some.inj hc
  exact absurd hblank (by decide)

/-- Words that have room on the current line all go there. -/
theorem setWords_of_fits {layout : Layout} {ws : List (List Char)}
    (hlast : ∀ word ∈ ws.dropLast, word.getLast? ≠ some joiner) {line : List Char} {size : Nat}
    (hfits : size + cells ws.flatten ≤ layout.width) :
    setWords layout line size ws = [line ++ ws.flatten] := by
  induction ws generalizing line size with
  | nil => rw [setWords, List.flatten_nil, List.append_nil]
  | cons word rest ih =>
    have hword : cells (Text.dropEndWhile Text.isBlank word) ≤ cells (word ++ rest.flatten) :=
      cells_mono ((isPrefix_dropEndWhile _ _).trans (List.prefix_append _ _))
    rw [List.flatten_cons] at hfits ⊢
    rw [setWords, if_pos (by omega), ← List.append_assoc]
    -- The cells of a word and of the rest add up to those of both at most, for all words but the
    -- last end with no joiner.
    cases rest with
    | nil => rw [setWords, List.flatten_nil, List.append_nil]
    | cons next more =>
      rw [List.dropLast_cons_of_ne_nil (List.cons_ne_nil _ _), List.forall_mem_cons] at hlast
      have hadd := cells_add_le hlast.1 (next :: more).flatten
      exact ih hlast.2 (by omega)

/-- What a step of the setting can do: it closes some lines and goes on with another, which are part
of the current line and the word, and the first of which begins with the current line. -/
theorem setWords_cons (layout : Layout) (line : List Char) (size : Nat) (word : List Char)
    (rest : List (List Char)) :
    ∃ closed next n,
      setWords layout line size (word :: rest) = closed ++ setWords layout next n rest ∧
      (closed ++ [next]).flatten.Sublist (line ++ word) ∧
      ∃ first ∈ (closed ++ [next]).head?, line <+: first := by
  -- A line without characters is not closed, which changes neither its text nor how it begins.
  have hbefore (more : List (List Char)) (hmore : more ≠ []) :
      ((if line = [] then [] else [line]) ++ more).flatten = line ++ more.flatten ∧
        ∃ first ∈ ((if line = [] then [] else [line]) ++ more).head?, line <+: first := by
    by_cases hline : line = []
    · rw [if_pos hline, hline]
      exact ⟨rfl, more.head hmore, List.head?_eq_some_head hmore, List.nil_prefix⟩
    · rw [if_neg hline]
      exact ⟨rfl, line, rfl, List.prefix_rfl⟩
  rw [setWords]
  by_cases hfits : size + cells (Text.dropEndWhile Text.isBlank word) ≤ layout.width
  · rw [if_pos hfits]
    exact ⟨[], line ++ word, _, rfl, by simp, line ++ word, rfl, List.prefix_append _ _⟩
  · rw [if_neg hfits]
    by_cases hlong : (layout.width < cells (Text.dropEndWhile Text.isBlank word) &&
        layout.overflow = .fold) = true
    · rw [if_pos hlong]
      let parts := chop layout.width word
      obtain ⟨hflatten, hhead⟩ := hbefore (parts.dropLast ++ [parts.getLastD []])
        (List.append_ne_nil_of_right_ne_nil _ (List.cons_ne_nil _ _))
      have hparts : (parts.dropLast ++ [parts.getLastD []]).flatten = parts.flatten := by
        rcases List.eq_nil_or_concat parts with hnil | ⟨before, last, hconcat⟩
        · rw [hnil]
          rfl
        · rw [hconcat]
          simp
      refine ⟨_, _, _, rfl, ?_, ?_⟩
      · rw [List.append_assoc, hflatten, hparts]
        exact (List.append_sublist_append_left _).2 (isPrefix_flatten_chop _ _).sublist
      · rwa [List.append_assoc]
    · rw [if_neg hlong]
      obtain ⟨hflatten, hhead⟩ := hbefore [word] (List.cons_ne_nil _ _)
      refine ⟨_, _, _, rfl, ?_, hhead⟩
      simp only [hflatten, List.flatten_singleton, List.Sublist.refl]

/-- What is set is part of the current line and the words. -/
theorem flatten_setWords_sublist (layout : Layout) (line : List Char) (size : Nat)
    (ws : List (List Char)) :
    (setWords layout line size ws).flatten.Sublist (line ++ ws.flatten) := by
  induction ws generalizing line size with
  | nil => simp [setWords]
  | cons word rest ih =>
    obtain ⟨closed, next, n, hset, hpart, -⟩ := setWords_cons layout line size word rest
    rw [List.flatten_append, List.flatten_singleton] at hpart
    rw [hset, List.flatten_append, List.flatten_cons, ← List.append_assoc line]
    refine .trans ((List.append_sublist_append_left _).2 (ih next n)) ?_
    rw [← List.append_assoc]
    exact (List.append_sublist_append_right _).2 hpart

/-- The first line that is set begins with the current line. -/
theorem exists_head?_setWords (layout : Layout) (line : List Char) (size : Nat)
    (ws : List (List Char)) :
    ∃ first ∈ (setWords layout line size ws).head?, line <+: first := by
  induction ws generalizing line size with
  | nil => exact ⟨line, rfl, List.prefix_rfl⟩
  | cons word rest ih =>
    obtain ⟨closed, next, n, hset, -, first, hfirst, hprefix⟩ :=
      setWords_cons layout line size word rest
    rw [hset]
    cases closed with
    | nil =>
      obtain rfl : next = first := Option.some.inj hfirst
      obtain ⟨first', hfirst', hprefix'⟩ := ih next n
      exact ⟨first', hfirst', hprefix.trans hprefix'⟩
    | cons top more => exact ⟨first, hfirst, hprefix⟩

/-! ## Tabs -/

/-- The text before the place of the expansion is kept. -/
theorem prefix_expandTabs (place : Nat) (part cs : List Char) :
    part.reverse <+: expandTabs place part cs := by
  induction cs generalizing place part with
  | nil => exact List.prefix_rfl
  | cons c rest ih =>
    rw [expandTabs]
    split_ifs
    · rw [List.append_assoc]
      exact List.prefix_append _ _
    · have h := ih place (c :: part)
      rw [List.reverse_cons] at h
      exact (List.prefix_append _ _).trans h

/-- A text without tabs is put before the place of the expansion. -/
theorem expandTabs_append {label : List Char} (h : '\t' ∉ label) (place : Nat)
    (part rest : List Char) :
    expandTabs place part (label ++ rest) = expandTabs place (label.reverse ++ part) rest := by
  induction label generalizing part with
  | nil => rfl
  | cons c label ih =>
    obtain ⟨hc, hlabel⟩ := List.ne_and_not_mem_of_not_mem_cons h
    rw [List.cons_append, expandTabs, if_neg (Ne.symm hc), ih hlabel, List.reverse_cons,
      List.append_assoc]
    rfl

/-- Where tabs are expanded, there are blanks in their places and no tabs. -/
theorem eq_or_mem_of_mem_expandTabs {place : Nat} {part cs : List Char} {c : Char}
    (h : c ∈ expandTabs place part cs) : c = ' ' ∨ c ∈ part ∨ c ∈ cs ∧ c ≠ '\t' := by
  induction cs generalizing place part with
  | nil => exact Or.inr (Or.inl (List.mem_reverse.1 h))
  | cons d rest ih =>
    rw [expandTabs] at h
    split_ifs at h with htab
    · rcases List.mem_append.1 h with h | h
      · rcases List.mem_append.1 h with h | h
        · exact Or.inr (Or.inl (List.mem_reverse.1 h))
        · exact Or.inl (List.eq_of_mem_replicate h)
      · rcases ih h with h | h | ⟨h, hne⟩
        · exact Or.inl h
        · exact absurd h List.not_mem_nil
        · exact Or.inr (Or.inr ⟨List.mem_cons_of_mem _ h, hne⟩)
    · rcases ih h with h | h | ⟨h, hne⟩
      · exact Or.inl h
      · rcases List.mem_cons.1 h with rfl | h
        · exact Or.inr (Or.inr ⟨List.mem_cons_self, htab⟩)
        · exact Or.inr (Or.inl h)
      · exact Or.inr (Or.inr ⟨List.mem_cons_of_mem _ h, hne⟩)

/-- A line with blanks for tabs. -/
def withoutTabs (cs : List Char) : List Char := if cs.contains '\t' then expandTabs 0 [] cs else cs

/-- A line without tabs is left as it is. -/
theorem withoutTabs_of_not_mem {cs : List Char} (h : '\t' ∉ cs) : withoutTabs cs = cs := by
  rw [withoutTabs, if_neg (by simpa using h)]

/-- A start of a line that has no tab is left as it is. -/
theorem prefix_withoutTabs {start cs : List Char} (hstart : '\t' ∉ start) (h : start <+: cs) :
    start <+: withoutTabs cs := by
  obtain ⟨rest, rfl⟩ := h
  by_cases htab : '\t' ∈ start ++ rest
  · have hprefix := prefix_expandTabs 0 start.reverse rest
    rw [List.reverse_reverse] at hprefix
    rwa [withoutTabs, if_pos (by simpa using htab), expandTabs_append hstart, List.append_nil]
  · rw [withoutTabs_of_not_mem htab]
    exact List.prefix_append _ _

/-- There are blanks in the places of tabs and no tabs. -/
theorem eq_or_mem_of_mem_withoutTabs {cs : List Char} {c : Char} (h : c ∈ withoutTabs cs) :
    c = ' ' ∨ c ∈ cs ∧ c ≠ '\t' := by
  by_cases htab : '\t' ∈ cs
  · rw [withoutTabs, if_pos (by simpa using htab)] at h
    exact (eq_or_mem_of_mem_expandTabs h).imp_right (Or.resolve_left · List.not_mem_nil)
  · rw [withoutTabs_of_not_mem htab] at h
    exact Or.inr ⟨h, fun hc => htab (hc ▸ h)⟩

/-! ## Lines -/

/-- The lines of a line of text without tabs, before they are fitted to the width. -/
def wordLines (layout : Layout) (cs : List Char) : List (List Char) :=
  match words (cs.length + 1) cs with
  | [] => [cs]
  | ws => setWords layout [] 0 ws

/-- The lines of a line of text are those of its words, fitted to the width. -/
theorem breakLine_eq (layout : Layout) (cs : List Char) :
    breakLine layout cs = (wordLines layout (withoutTabs cs)).map fun line =>
      fitLine layout (dropExcess layout.width line) := rfl

/-- The lines of words are part of the text. -/
theorem flatten_wordLines_sublist (layout : Layout) (cs : List Char) :
    (wordLines layout cs).flatten.Sublist cs := by
  unfold wordLines
  split
  · simp only [List.flatten_singleton, List.Sublist.refl]
  · next hne =>
    have h := flatten_setWords_sublist layout [] 0 (words (cs.length + 1) cs)
    rwa [List.nil_append, flatten_words (Nat.lt_succ_self _) (exists_of_words_ne_nil hne)] at h

/-- There is a line of words in any case. -/
theorem wordLines_ne_nil (layout : Layout) (cs : List Char) : wordLines layout cs ≠ [] := by
  unfold wordLines
  split
  · exact List.cons_ne_nil _ _
  · obtain ⟨first, hfirst, -⟩ := exists_head?_setWords layout [] 0 (words (cs.length + 1) cs)
    exact List.ne_nil_of_mem (List.mem_of_head? hfirst)

/-- A text that takes no more cells than a line has is one line. -/
theorem wordLines_of_fits {layout : Layout} {cs : List Char} (h : cells cs ≤ layout.width) :
    wordLines layout cs = [cs] := by
  unfold wordLines
  split
  · rfl
  · next hne =>
    have hflatten := flatten_words (Nat.lt_succ_self _) (exists_of_words_ne_nil hne)
    rw [setWords_of_fits (fun word hword => getLast?_ne_joiner_of_blank
        (exists_getLast?_of_mem_dropLast_words _ cs word hword)) (by rwa [hflatten, Nat.zero_add]),
      hflatten, List.nil_append]

/-! ## The width -/

variable {width : Nat}

/-- Nothing is dropped exactly from the lines that have no more characters than the width, or do not
end with a blank. -/
theorem dropExcess_eq_self_iff (width : Nat) (cs : List Char) :
    dropExcess width cs = cs ↔
      cs.length ≤ width ∨ ∀ c ∈ cs.getLast?, Text.isBlank c = false := by
  have hblanks : (cs.reverse.takeWhile Text.isBlank).length = 0 ↔
      ∀ c ∈ cs.getLast?, Text.isBlank c = false := by
    rw [List.getLast?_eq_head?_reverse, List.length_eq_zero_iff]
    cases cs.reverse with
    | nil => exact ⟨fun _ => nofun, fun _ => rfl⟩
    | cons c rest => cases hc : Text.isBlank c <;> simp [hc]
  have hlength : (cs.reverse.takeWhile Text.isBlank).length ≤ cs.length := by
    have h := (List.takeWhile_prefix Text.isBlank (l := cs.reverse)).length_le
    rwa [List.length_reverse] at h
  rw [← hblanks]
  unfold dropExcess
  rw [List.take_eq_self_iff]
  omega

/-- A start of a line that has room is not dropped. -/
theorem prefix_dropExcess {start cs : List Char} (h : start <+: cs)
    (hwidth : start.length ≤ width) : start <+: dropExcess width cs := by
  have hle := h.length_le
  exact List.prefix_take_iff.2 ⟨h, by omega⟩

/-- A line that takes no more cells than the width is left as it is. -/
theorem fitLine_of_le {cs : List Char} (h : cells cs ≤ width) : fitLine { width } cs = cs := by
  simp only [fitLine, if_neg (Nat.not_lt.2 h)]
  rfl

/-- A line that takes more cells is cut. -/
theorem fitLine_of_lt {cs : List Char} (h : width < cells cs) :
    fitLine { width } cs = takeCells width (pieces cs) := by
  simp only [fitLine, if_pos h, fitCells, if_neg (Nat.not_le.2 h)]

/-- A line does not become longer. -/
theorem length_fitLine_le (width : Nat) (cs : List Char) :
    (fitLine { width } cs).length ≤ cs.length := by
  by_cases h : width < cells cs
  · rw [fitLine_of_lt h]
    conv => rhs; rw [← text_pieces cs]
    exact length_takeCells_le (forall_isSound_pieces cs) width
  · rw [fitLine_of_le (Nat.not_lt.1 h)]

/-- Only blanks are added to a line. -/
theorem eq_or_mem_of_mem_fitLine {cs : List Char} {c : Char} (h : c ∈ fitLine { width } cs) :
    c = ' ' ∨ c ∈ cs := by
  by_cases hlt : width < cells cs
  · rw [fitLine_of_lt hlt] at h
    conv => rhs; rw [← text_pieces cs]
    exact eq_or_mem_of_mem_takeCells h
  · rw [fitLine_of_le (Nat.not_lt.1 hlt)] at h
    exact Or.inr h

/-- A line that is left as it is takes no more cells than the width, unless it begins with a joiner.
-/
theorem cells_le_of_fitLine_eq_self {cs : List Char} (hjoiner : cs.head? ≠ some joiner)
    (h : fitLine { width } cs = cs) : cells cs ≤ width := by
  by_contra hlt
  rw [fitLine_of_lt (Nat.not_le.1 hlt)] at h
  conv at h => rhs; rw [← text_pieces cs]
  exact hlt ((cells_le_cellCount_pieces hjoiner).trans
    (cellCount_le_of_takeCells (forall_isSound_pieces cs) h))

/-! ## What is shown of a text -/

/-- The console leaves exactly the texts alone that have no character that moves the cursor. -/
theorem shown_eq_self_iff (cs : List Char) : shown cs = cs ↔ ∀ c ∈ cs, c ∉ controls := by
  simp only [shown, List.filter_eq_self, Bool.not_eq_true', List.contains_eq_mem,
    decide_eq_false_iff_not]

/-- A text without line feeds belongs to the first line of what it stands before. -/
theorem cutLines_append {label : List Char} (h : '\n' ∉ label) (rest : List Char) :
    cutLines (label ++ rest) =
      (label ++ (cutLines rest).headD []) :: (cutLines rest).drop 1 := by
  induction label with
  | nil =>
    cases rest with
    | nil => rfl
    | cons c rest =>
      rw [List.nil_append, cutLines]
      split_ifs <;> rfl
  | cons c label ih =>
    obtain ⟨hc, hlabel⟩ := List.ne_and_not_mem_of_not_mem_cons h
    rw [List.cons_append, cutLines, if_neg (Ne.symm hc), ih hlabel]
    rfl

/-- A text without line feeds is a line. -/
theorem cutLines_of_not_mem {cs : List Char} (h : '\n' ∉ cs) : cutLines cs = [cs] := by
  have happend := cutLines_append h []
  rw [List.append_nil] at happend
  simpa [cutLines] using happend

/-- Lines are parts of the text without line feeds. -/
theorem mem_and_ne_of_mem_cutLines {cs line : List Char} (hline : line ∈ cutLines cs) {c : Char}
    (hc : c ∈ line) : c ∈ cs ∧ c ≠ '\n' := by
  induction cs generalizing line with
  | nil =>
    rw [cutLines, List.mem_singleton] at hline
    exact absurd (hline ▸ hc) List.not_mem_nil
  | cons d rest ih =>
    have hrest {line' : List Char} (hline' : line' ∈ cutLines rest) (hc' : c ∈ line') :
        c ∈ d :: rest ∧ c ≠ '\n' := (ih hline' hc').imp_left (List.mem_cons_of_mem d)
    rw [cutLines] at hline
    split_ifs at hline with hd
    · rcases List.mem_cons.1 hline with rfl | hline
      · exact absurd hc List.not_mem_nil
      · exact hrest hline hc
    · rcases List.mem_cons.1 hline with rfl | hline
      · rcases List.mem_cons.1 hc with rfl | hc
        · exact ⟨List.mem_cons_self, hd⟩
        · cases hlines : cutLines rest with
          | nil =>
            rw [hlines] at hc
            exact absurd hc List.not_mem_nil
          | cons first more =>
            rw [hlines] at hc hrest
            exact hrest List.mem_cons_self hc
      · exact hrest (List.mem_of_mem_drop hline) hc

/-- Only blanks are added in the lines of a line of text, and no tab is left. -/
theorem eq_or_mem_of_mem_breakLine {cs line : List Char} (hline : line ∈ breakLine { width } cs)
    {c : Char} (hc : c ∈ line) : c = ' ' ∨ c ∈ cs ∧ c ≠ '\t' := by
  rw [breakLine_eq] at hline
  obtain ⟨raw, hraw, rfl⟩ := List.mem_map.1 hline
  rcases eq_or_mem_of_mem_fitLine hc with hc | hc
  · exact Or.inl hc
  · have hmem : c ∈ (wordLines { width } (withoutTabs cs)).flatten :=
      List.mem_flatten_of_mem hraw (List.mem_of_mem_take hc)
    exact eq_or_mem_of_mem_withoutTabs ((flatten_wordLines_sublist _ _).subset hmem)

/-- Only blanks are added in the lines of a text, and no character is left that moves the cursor, to
a tab stop or to another line among others. -/
theorem eq_or_mem_of_mem_setLines {cs line : List Char} (hline : line ∈ setLines { width } cs)
    {c : Char} (hc : c ∈ line) :
    c = ' ' ∨ c ∈ cs ∧ c ∉ controls ∧ c ≠ '\t' ∧ c ≠ '\n' := by
  obtain ⟨cut, hcut, hline⟩ := List.mem_flatMap.1 hline
  refine (eq_or_mem_of_mem_breakLine hline hc).imp_right fun ⟨hmem, htab⟩ => ?_
  obtain ⟨hshown, hfeed⟩ := mem_and_ne_of_mem_cutLines hcut hmem
  obtain ⟨hmem, hcontrols⟩ := List.mem_filter.1 hshown
  exact ⟨hmem, by simpa using hcontrols, htab, hfeed⟩

/-- There is a line of a text in any case. -/
theorem setLines_ne_nil (layout : Layout) (cs : List Char) : setLines layout cs ≠ [] := by
  have hcut : cutLines (shown cs) = _ := cutLines_append List.not_mem_nil (shown cs)
  rw [setLines, hcut, List.flatMap_cons, breakLine_eq]
  exact List.append_ne_nil_of_left_ne_nil (mt List.map_eq_nil_iff.1 (wordLines_ne_nil _ _)) _

/-- A text without line feeds of which all shows is set as a line. -/
theorem setLines_eq_breakLine (layout : Layout) {cs : List Char} (hfeed : '\n' ∉ cs)
    (hcontrols : ∀ c ∈ cs, c ∉ controls) : setLines layout cs = breakLine layout cs := by
  rw [setLines, (shown_eq_self_iff cs).2 hcontrols, cutLines_of_not_mem hfeed,
    List.flatMap_singleton]

/-! ## Texts that fit -/

/-- A text fits on a line of a width: it has no tab and no character that moves the cursor, it takes
no more cells than the width, and if it has more characters than that it does not end with a blank.
-/
def FitsLine (width : Nat) (cs : List Char) : Prop :=
  '\t' ∉ cs ∧ (∀ c ∈ cs, c ∉ controls) ∧ cells cs ≤ width ∧
    (cs.length ≤ width ∨ ∀ c ∈ cs.getLast?, Text.isBlank c = false)

-- The characters of the text are gone through, and not all characters that there are.
instance (width : Nat) (cs : List Char) : Decidable (FitsLine width cs) :=
  have : Decidable (∀ c ∈ cs, c ∉ controls) := List.decidableBAll _ _
  have : Decidable (∀ c ∈ cs.getLast?, Text.isBlank c = false) :=
    Option.decidableForallMem _
  inferInstanceAs (Decidable (_ ∧ _))

/-- A text that fits is set as one line, which is the text itself. -/
theorem setLines_of_fitsLine {cs : List Char} (hfeed : '\n' ∉ cs) (h : FitsLine width cs) :
    setLines { width } cs = [cs] := by
  obtain ⟨htab, hcontrols, hcells, hblank⟩ := h
  rw [setLines_eq_breakLine _ hfeed hcontrols, breakLine_eq, withoutTabs_of_not_mem htab,
    wordLines_of_fits hcells, List.map_singleton, (dropExcess_eq_self_iff width cs).2 hblank,
    fitLine_of_le hcells]

/-- A text that is set as one line, which is the text itself, fits, unless it begins with a joiner.
-/
theorem fitsLine_of_setLines_eq {cs : List Char} (hfeed : '\n' ∉ cs)
    (hjoiner : cs.head? ≠ some joiner) (h : setLines { width } cs = [cs]) : FitsLine width cs := by
  have hline : cs ∈ setLines { width } cs := h ▸ List.mem_singleton_self cs
  have hkept {c : Char} (hc : c ∈ cs) := eq_or_mem_of_mem_setLines hline hc
  have htab : '\t' ∉ cs := by
    intro hc
    rcases hkept hc with h | ⟨-, -, h, -⟩
    · exact absurd h (by decide)
    · exact h rfl
  have hcontrols : ∀ c ∈ cs, c ∉ controls := by
    intro c hc
    rcases hkept hc with rfl | ⟨-, h, -⟩
    · decide
    · exact h
  rw [setLines_eq_breakLine _ hfeed hcontrols, breakLine_eq, withoutTabs_of_not_mem htab] at h
  obtain ⟨line, hlines, hset⟩ := List.map_eq_singleton_iff.1 h
  -- No step makes the text longer, and it comes out as it was, so each step leaves it as it is.
  have hpart := flatten_wordLines_sublist { width } cs
  rw [hlines, List.flatten_singleton] at hpart
  have hlength := length_fitLine_le width (dropExcess width line)
  rw [hset] at hlength
  have hdropped : dropExcess width line <+: line := List.take_prefix _ _
  obtain rfl : line = cs := hpart.eq_of_length_le (hlength.trans hdropped.length_le)
  have hexcess : dropExcess width line = line := hdropped.eq_of_length_le hlength
  rw [hexcess] at hset
  exact ⟨htab, hcontrols, cells_le_of_fitLine_eq_self hjoiner hset,
    (dropExcess_eq_self_iff width line).1 hexcess⟩

/-! ## Texts one after the other -/

/-- What is shown of joined lists of lines is shown of one and then of the other. -/
theorem ofLines_append (lines lines' : List (List Char)) :
    ofLines (lines ++ lines') = ofLines lines ++ ofLines lines' := by
  rw [ofLines, List.flatMap_append, String.ofList_append]
  rfl

/-- Texts with a line feed behind each are shown as lines. -/
theorem join_map_append_eq_ofLines (texts : List String) :
    String.join (texts.map (· ++ "\n")) = ofLines (texts.map String.toList) := by
  rw [← String.toList_inj, String.toList_join, ofLines, String.toList_ofList, List.flatMap_map,
    List.flatMap_map]
  simp only [String.toList_append]
  rfl

/-- What is shown of lines can be cut into them again, and there is an empty line at the end. -/
theorem cutLines_flatMap {lines : List (List Char)} (h : ∀ line ∈ lines, '\n' ∉ line) :
    cutLines (lines.flatMap fun line => line ++ ['\n']) = lines ++ [[]] := by
  induction lines with
  | nil => rfl
  | cons line rest ih =>
    obtain ⟨hline, hrest⟩ := List.forall_mem_cons.1 h
    rw [List.flatMap_cons, List.append_assoc, cutLines_append hline, List.singleton_append,
      cutLines, if_pos rfl, ih hrest]
    simp

/-- Lines that show the same are the same. -/
theorem eq_of_ofLines_eq {lines lines' : List (List Char)} (h : ∀ line ∈ lines, '\n' ∉ line)
    (h' : ∀ line ∈ lines', '\n' ∉ line) (heq : ofLines lines = ofLines lines') :
    lines = lines' := by
  have hcut := congrArg cutLines (String.ofList_injective heq)
  rw [cutLines_flatMap h, cutLines_flatMap h'] at hcut
  exact List.append_cancel_right hcut

/-- Lists that take the places of the members of a list make up that list exactly if each holds its
member alone, where none is empty. -/
theorem flatMap_eq_self_iff {α : Type} {f : α → List α} {xs : List α} (h : ∀ x ∈ xs, f x ≠ []) :
    xs.flatMap f = xs ↔ ∀ x ∈ xs, f x = [x] := by
  have hlength (ys : List α) (hys : ∀ y ∈ ys, f y ≠ []) : ys.length ≤ (ys.flatMap f).length := by
    induction ys with
    | nil => exact Nat.le_refl _
    | cons y ys ih =>
      obtain ⟨hy, hys⟩ := List.forall_mem_cons.1 hys
      have hpos := List.length_pos_iff.2 hy
      have hle := ih hys
      rw [List.flatMap_cons, List.length_append, List.length_cons]
      omega
  induction xs with
  | nil => exact ⟨fun _ => List.forall_mem_nil _, fun _ => rfl⟩
  | cons x xs ih =>
    obtain ⟨hx, hxs⟩ := List.forall_mem_cons.1 h
    rw [List.flatMap_cons, List.forall_mem_cons]
    constructor
    · intro heq
      -- The list for the first member has no room for more than one.
      have htotal := congrArg List.length heq
      have hpos := List.length_pos_iff.2 hx
      have hle := hlength xs hxs
      rw [List.length_append, List.length_cons] at htotal
      obtain ⟨y, hy⟩ := List.length_eq_one_iff.1 (show (f x).length = 1 by omega)
      rw [hy, List.singleton_append] at heq
      obtain ⟨rfl, hrest⟩ := List.cons_eq_cons.1 heq
      exact ⟨hy, (ih hxs).1 hrest⟩
    · rintro ⟨hx, hrest⟩
      rw [hx, (ih hxs).2 hrest, List.singleton_append]

/-- Texts are shown as their own lines exactly if each of them is set as one line, which is the text
itself. -/
theorem ofLines_flatMap_setLines_eq_iff (width : Nat) {texts : List (List Char)}
    (hfeed : ∀ cs ∈ texts, '\n' ∉ cs) :
    ofLines (texts.flatMap (setLines { width })) = ofLines texts ↔
      ∀ cs ∈ texts, setLines { width } cs = [cs] := by
  rw [← flatMap_eq_self_iff fun cs _ => setLines_ne_nil { width } cs]
  refine ⟨eq_of_ofLines_eq (fun line hline hc => ?_) hfeed, congrArg ofLines⟩
  obtain ⟨cs, -, hline⟩ := List.mem_flatMap.1 hline
  rcases eq_or_mem_of_mem_setLines hline hc with h | ⟨-, -, -, h⟩
  · exact absurd h (by decide)
  · exact h rfl

/-! ## Labels -/

/-- A label is the first word of a text that goes on with a blank, with the blanks behind it. -/
theorem nextWord?_append {label : List Char} (h : ∀ c ∈ label, Text.isBlank c = false)
    (hne : label ≠ []) (rest : List Char) :
    nextWord? (label ++ ' ' :: rest) =
      some (label ++ ' ' :: rest.takeWhile Text.isBlank, rest.dropWhile Text.isBlank) := by
  have hblank : Text.isBlank ' ' = true := rfl
  have hstart : (label ++ ' ' :: rest).takeWhile Text.isBlank = [] ∧
      (label ++ ' ' :: rest).dropWhile Text.isBlank = label ++ ' ' :: rest := by
    obtain ⟨c, more, rfl⟩ := List.exists_cons_of_ne_nil hne
    have hc := h c List.mem_cons_self
    simp [hc]
  have hall : ∀ c ∈ label, (!Text.isBlank c) = true := by
    simpa using h
  unfold nextWord?
  simp only [hstart.1, hstart.2, List.takeWhile_append_of_pos hall,
    List.dropWhile_append_of_pos hall]
  simp [hne, hblank]

/-- A label with a blank behind it begins the first line of words, if there is room for it. -/
theorem exists_head?_wordLines {layout : Layout} {label : List Char}
    (h : ∀ c ∈ label, Text.isBlank c = false) (hne : label ≠ [])
    (hfits : cells label ≤ layout.width) (rest : List Char) :
    ∃ first ∈ (wordLines layout (label ++ ' ' :: rest)).head?, label ++ [' '] <+: first := by
  -- The label is the first word, with all blanks behind it, and it goes to the line that is still
  -- empty, since the blanks do not count for the room that it needs.
  let word := label ++ ' ' :: rest.takeWhile Text.isBlank
  let ws := words (label ++ ' ' :: rest).length (rest.dropWhile Text.isBlank)
  have hwords : words ((label ++ ' ' :: rest).length + 1) (label ++ ' ' :: rest) = word :: ws := by
    rw [words, nextWord?_append h hne]
  have hblanks : ∀ c ∈ ' ' :: rest.takeWhile Text.isBlank, Text.isBlank c = true :=
    List.forall_mem_cons.2 ⟨rfl, List.all_eq_true.1 List.all_takeWhile⟩
  have hroom : cells (Text.dropEndWhile Text.isBlank word) ≤ layout.width := by
    rw [Text.dropEndWhile_append_of_pos label hblanks]
    exact (cells_mono (isPrefix_dropEndWhile _ _)).trans hfits
  have hlines : wordLines layout (label ++ ' ' :: rest) =
      setWords layout word (0 + cells word) ws := by
    unfold wordLines
    rw [hwords]
    simp only [setWords, Nat.zero_add, if_pos hroom, List.nil_append]
  obtain ⟨first, hfirst, hprefix⟩ := exists_head?_setWords layout word (0 + cells word) ws
  refine ⟨first, hlines ▸ hfirst, .trans ?_ hprefix⟩
  exact (List.prefix_append_right_inj label).2 (List.prefix_append [' '] _)

/-- A label: some narrow characters, none of which is blank. -/
def IsLabel (label : List Char) : Prop :=
  label ≠ [] ∧ ∀ c ∈ label, IsNarrow c ∧ Text.isBlank c = false

instance (label : List Char) : Decidable (IsLabel label) :=
  @instDecidableAnd _ _ inferInstance (List.decidableBAll _ _)

section IsLabel

variable {label : List Char} (h : IsLabel label)

include h

/-- A label and a blank behind it are narrow. -/
theorem IsLabel.isNarrow_append : ∀ c ∈ label ++ [' '], IsNarrow c :=
  List.forall_mem_append.2
    ⟨fun c hc => (h.2 c hc).1, List.forall_mem_singleton.2 ⟨Nat.le_refl _, by decide⟩⟩

/-- A label with a blank behind it stays at the start of the first line of a line of text, if there
is room for both. -/
theorem exists_head?_breakLine (hlength : label.length < width) {line : List Char}
    (hline : label ++ [' '] <+: line) :
    ∃ first ∈ (breakLine { width } line).head?, label <+: first := by
  have hnarrow : ∀ c ∈ label, IsNarrow c := fun c hc => (h.2 c hc).1
  have hcells : cells label ≤ ({ width } : Layout).width := by
    rw [cells, cellsAfter_of_isNarrow hnarrow]
    exact hlength.le
  have htab : '\t' ∉ label ++ [' '] := fun hc => absurd (h.isNarrow_append _ hc) (by decide)
  have hroom : (label ++ [' ']).length ≤ width := by
    rw [List.length_append]
    exact hlength
  obtain ⟨rest, hrest⟩ := prefix_withoutTabs htab hline
  rw [List.append_assoc, List.singleton_append] at hrest
  obtain ⟨raw, hraw, hprefix⟩ :=
    exists_head?_wordLines (fun c hc => (h.2 c hc).2) h.1 hcells rest
  obtain ⟨rest', hrest'⟩ := prefix_dropExcess hprefix hroom
  refine ⟨fitLine { width } (dropExcess width raw), ?_, ?_⟩
  · rw [breakLine_eq, ← hrest, List.head?_map, hraw]
    rfl
  · -- The blank keeps the last character of the label from taking in others.
    rw [← hrest', List.append_assoc, List.singleton_append]
    by_cases hlt : width < cells (label ++ ' ' :: rest')
    · rw [fitLine_of_lt hlt]
      exact prefix_takeCells_pieces hnarrow (by decide) hlength.le rest'
    · rw [fitLine_of_le (Nat.not_lt.1 hlt)]
      exact List.prefix_append _ _

/-- A label stays at the start of what is shown of a text that goes on with a blank, if there is
room for it on a line. -/
theorem prefix_printed (hlength : label.length < consoleWidth) (rest : List Char) :
    label <+: (printed (label ++ ' ' :: rest)).toList := by
  have hcontrols : ∀ c ∈ controls, ¬ IsNarrow c := by simp [controls, IsNarrow]
  have hshown : shown (label ++ ' ' :: rest) = (label ++ [' ']) ++ shown rest := by
    rw [List.append_cons, shown, List.filter_append]
    exact congrArg (· ++ shown rest)
      ((shown_eq_self_iff _).2 fun c hc hcontrol =>
        hcontrols c hcontrol (h.isNarrow_append c hc))
  have hfeed : '\n' ∉ label ++ [' '] := fun hc => absurd (h.isNarrow_append _ hc) (by decide)
  obtain ⟨first, hfirst, hprefix⟩ := exists_head?_breakLine h hlength
    (List.prefix_append (label ++ [' ']) ((cutLines (shown rest)).headD []))
  obtain ⟨more, hmore⟩ := List.head?_eq_some_iff.1 hfirst
  rw [printed, ofLines, String.toList_ofList, setLines, hshown, cutLines_append hfeed,
    List.flatMap_cons, hmore, List.cons_append, List.flatMap_cons, List.append_assoc]
  exact hprefix.trans (List.prefix_append _ _)

end IsLabel

end ArgScan.Console
