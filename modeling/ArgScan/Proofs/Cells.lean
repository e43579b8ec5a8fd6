import ArgScan.Console.Cells
import Mathlib.Tactic.SplitIfs

/-!
# Cells and pieces

How many cells a text takes is counted in two ways. `cells` goes through the characters, and the
pieces that a text is cut into carry their own numbers. This module says what becomes of both counts
when texts are joined or cut. The joiner is what makes it delicate: it takes in the character behind
it, so the cells of joined texts are at least those of both, but only if the first does not end with
a joiner (`cells_add_le`). The pieces of a text are all of it (`text_pieces`), and they count no
fewer cells than its characters unless it begins with a joiner (`cells_le_cellCount_pieces`). So a
text that is cut to a room for cells and stays the same has that room (`cellCount_le_of_takeCells`).
-/

namespace ArgScan.Console

/-! ## Counting character by character -/

/-- A joiner at the end takes no cell. -/
theorem cellsAfter_joiner (last : Option Char) : cellsAfter last [joiner] = 0 := rfl

/-- A joiner takes in the character behind it. -/
theorem cellsAfter_joiner_cons (last : Option Char) (d : Char) (rest : List Char) :
    cellsAfter last (joiner :: d :: rest) = cellsAfter last rest := by
  rw [cellsAfter, if_pos rfl]

/-- The selector of the emoji form counts for the character before it. -/
theorem cellsAfter_selector (last : Option Char) (rest : List Char) :
    cellsAfter last (emojiSelector :: rest) =
      (last.filter hasEmojiForm).toList.length + cellsAfter none rest := by
  rw [cellsAfter.eq_def]
  exact (if_neg (by decide)).trans (if_pos rfl)

/-- Any other character takes its own cells. -/
theorem cellsAfter_cons {c : Char} (hjoiner : c ≠ joiner) (hselector : c ≠ emojiSelector)
    (last : Option Char) (rest : List Char) :
    cellsAfter last (c :: rest) =
      charCells c + cellsAfter (if charCells c = 0 then last else some c) rest := by
  rw [cellsAfter.eq_def]
  exact (if_neg hjoiner).trans (if_neg hselector)

/-- Induction along the count of the cells of a text: a joiner goes with the character behind it. -/
theorem cells_induction {motive : List Char → Prop} (nil : motive []) (joinerEnd : motive [joiner])
    (joinerCons : ∀ d rest, motive rest → motive (joiner :: d :: rest))
    (selector : ∀ rest, motive rest → motive (emojiSelector :: rest))
    (char : ∀ c rest, c ≠ joiner → c ≠ emojiSelector → motive rest → motive (c :: rest))
    (cs : List Char) : motive cs := by
  induction h : cs.length using Nat.strongRecOn generalizing cs with
  | ind n ih =>
    match cs, h with
    | [], _ => exact nil
    | c :: rest, h =>
      by_cases hjoiner : c = joiner
      · subst hjoiner
        match rest, h with
        | [], _ => exact joinerEnd
        | d :: rest, h => exact joinerCons d rest (ih _ (by simp at h; omega) rest rfl)
      · have hrest := ih _ (by simp at h; omega) rest rfl
        by_cases hselector : c = emojiSelector
        · subst hselector
          exact selector rest hrest
        · exact char c rest hjoiner hselector hrest

/-! ## Joined texts -/

/-- A text takes no fewer cells with more characters behind it. -/
theorem cellsAfter_le_append (cs more : List Char) (last : Option Char) :
    cellsAfter last cs ≤ cellsAfter last (cs ++ more) := by
  induction cs using cells_induction generalizing last with
  | nil => exact Nat.zero_le _
  | joinerEnd => exact Nat.zero_le _
  | joinerCons d rest ih =>
    rw [List.cons_append, List.cons_append, cellsAfter_joiner_cons, cellsAfter_joiner_cons]
    exact ih last
  | selector rest ih =>
    rw [List.cons_append, cellsAfter_selector, cellsAfter_selector]
    exact Nat.add_le_add_left (ih none) _
  | char c rest hjoiner hselector ih =>
    rw [List.cons_append, cellsAfter_cons hjoiner hselector, cellsAfter_cons hjoiner hselector]
    exact Nat.add_le_add_left (ih _) _

/-- A text takes no fewer cells behind a character than by itself. -/
theorem cellsAfter_none_le (cs : List Char) (last : Option Char) :
    cellsAfter none cs ≤ cellsAfter last cs := by
  induction cs using cells_induction generalizing last with
  | nil => exact Nat.le_refl _
  | joinerEnd => exact Nat.zero_le _
  | joinerCons d rest ih =>
    simp only [cellsAfter_joiner_cons]
    exact ih last
  | selector rest ih =>
    rw [cellsAfter_selector, cellsAfter_selector]
    exact Nat.add_le_add_right (Nat.zero_le _) _
  | char c rest hjoiner hselector ih =>
    rw [cellsAfter_cons hjoiner hselector, cellsAfter_cons hjoiner hselector]
    by_cases hzero : charCells c = 0
    · rw [if_pos hzero, if_pos hzero]
      exact Nat.add_le_add_left (ih last) _
    · exact Nat.le_of_eq (by rw [if_neg hzero, if_neg hzero])

/-- What does not end with a joiner does not do so either without its first character. -/
theorem getLast?_ne_of_cons {c : Char} {cs : List Char} (h : (c :: cs).getLast? ≠ some joiner) :
    cs.getLast? ≠ some joiner := by
  cases cs with
  | nil => exact nofun
  | cons d rest => rwa [List.getLast?_cons_cons] at h

/-- Joined texts take the cells of both at least, where the first does not end with a joiner. -/
theorem cellsAfter_add_le {cs : List Char} (h : cs.getLast? ≠ some joiner) (more : List Char)
    (last : Option Char) :
    cellsAfter last cs + cellsAfter none more ≤ cellsAfter last (cs ++ more) := by
  induction cs using cells_induction generalizing last with
  | nil =>
    rw [List.nil_append, cellsAfter, Nat.zero_add]
    exact cellsAfter_none_le more last
  | joinerEnd => exact absurd rfl h
  | joinerCons d rest ih =>
    rw [List.cons_append, List.cons_append, cellsAfter_joiner_cons, cellsAfter_joiner_cons]
    exact ih (getLast?_ne_of_cons (getLast?_ne_of_cons h)) last
  | selector rest ih =>
    rw [List.cons_append, cellsAfter_selector, cellsAfter_selector, Nat.add_assoc]
    exact Nat.add_le_add_left (ih (getLast?_ne_of_cons h) none) _
  | char c rest hjoiner hselector ih =>
    rw [List.cons_append, cellsAfter_cons hjoiner hselector, cellsAfter_cons hjoiner hselector,
      Nat.add_assoc]
    exact Nat.add_le_add_left (ih (getLast?_ne_of_cons h) _) _

/-- Joined texts take the cells of both at least, where the first does not end with a joiner. -/
theorem cells_add_le {cs : List Char} (h : cs.getLast? ≠ some joiner) (more : List Char) :
    cells cs + cells more ≤ cells (cs ++ more) := cellsAfter_add_le h more none

/-! ## The pieces of a text -/

/-- The text of pieces that are listed backwards. -/
def textBackwards (ps : List Piece) : List Char := ps.reverse.flatMap Piece.chars

/-- The number of cells that pieces count. -/
def cellCount : List Piece → Nat
  | [] => 0
  | p :: rest => p.cells + cellCount rest

/-- Pieces count cells wherever they stand. -/
theorem cellCount_append (ps qs : List Piece) :
    cellCount (ps ++ qs) = cellCount ps + cellCount qs := by
  induction ps with
  | nil => rw [List.nil_append, cellCount, Nat.zero_add]
  | cons p rest ih => rw [List.cons_append, cellCount, cellCount, ih, Nat.add_assoc]

/-- Characters added to the last piece stand at the end of the text. -/
theorem textBackwards_extendLast (more : List Char) (n : Nat) (ps : List Piece) :
    textBackwards (extendLast more n ps) = textBackwards ps ++ more := by
  cases ps with
  | nil => simp [textBackwards, extendLast]
  | cons p before => simp [textBackwards, extendLast]

/-- Cells added to the last piece are added to all. -/
theorem cellCount_extendLast (more : List Char) (n : Nat) (ps : List Piece) :
    cellCount (extendLast more n ps) = cellCount ps + n := by
  cases ps with
  | nil => simp [cellCount, extendLast]
  | cons p before =>
    simp only [cellCount, extendLast]
    omega

/-- There is a last piece once something was added to it. -/
theorem extendLast_ne_nil (more : List Char) (n : Nat) (ps : List Piece) :
    extendLast more n ps ≠ [] := by
  cases ps <;> exact nofun

/-- The pieces of a text are added to those before it, and nothing is lost. -/
theorem textBackwards_piecesAfter (last : Option Char) (soFar : List Piece) (cs : List Char) :
    textBackwards (piecesAfter last soFar cs) = textBackwards soFar ++ cs := by
  fun_induction piecesAfter last soFar cs with
  | case1 => exact (List.append_nil _).symm
  | case2 => exact textBackwards_extendLast _ _ _
  | case7 last soFar c rest _ _ n _ ih =>
    rw [ih]
    simp [textBackwards]
  | case3 _ _ _ _ _ _ ih | case4 _ _ _ _ _ _ _ _ ih | case5 _ _ _ _ _ _ _ ih
  | case6 _ _ _ _ _ _ _ _ ih =>
    rw [ih, textBackwards_extendLast, List.append_assoc]
    rfl

/-- The pieces of a text are all of it. -/
theorem text_pieces (cs : List Char) : (pieces cs).flatMap Piece.chars = cs :=
  textBackwards_piecesAfter none [] cs

/-- The cells that pieces count do not depend on their order. -/
theorem cellCount_reverse (ps : List Piece) : cellCount ps.reverse = cellCount ps := by
  induction ps with
  | nil => rfl
  | cons p rest ih =>
    rw [List.reverse_cons, cellCount_append, ih, Nat.add_comm]
    rfl

/-- Behind other pieces, the pieces of a text count no fewer cells than its characters. -/
theorem cellCount_add_cellsAfter_le {soFar : List Piece} (h : soFar ≠ []) (last : Option Char)
    (cs : List Char) :
    cellCount soFar + cellsAfter last cs ≤ cellCount (piecesAfter last soFar cs) := by
  fun_induction piecesAfter last soFar cs with
  | case1 => exact Nat.le_refl _
  | case2 last soFar c hc =>
    obtain ⟨rfl, -⟩ : c = joiner ∧ soFar ≠ [] := by simpa using hc
    exact Nat.le_of_eq (by rw [cellsAfter_joiner, cellCount_extendLast])
  | case3 last soFar c hc d rest ih =>
    obtain ⟨rfl, -⟩ : c = joiner ∧ soFar ≠ [] := by simpa using hc
    rw [cellsAfter_joiner_cons]
    simpa only [cellCount_extendLast, Nat.add_zero] using ih (extendLast_ne_nil _ _ _)
  | case4 last soFar c rest _ hc d hform ih =>
    obtain ⟨rfl, -⟩ : c = emojiSelector ∧ soFar ≠ [] := by simpa using hc
    have hle := ih (extendLast_ne_nil _ _ _)
    rw [cellCount_extendLast, Nat.add_assoc] at hle
    rw [cellsAfter_selector, hform]
    exact hle
  | case5 last soFar c rest _ hc hform ih =>
    obtain ⟨rfl, -⟩ : c = emojiSelector ∧ soFar ≠ [] := by simpa using hc
    -- The pieces go on from the last character here, and the characters do so from none.
    rw [cellsAfter_selector, hform]
    have hle := ih (extendLast_ne_nil _ _ _)
    rw [cellCount_extendLast] at hle
    have hnone := cellsAfter_none_le rest last
    simp only [Option.toList_none, List.length_nil]
    omega
  | case6 last soFar c rest hjoiner hselector n hzero ih =>
    have hne : c ≠ joiner ∧ c ≠ emojiSelector := by
      simpa [h] using And.intro hjoiner hselector
    rw [cellsAfter_cons hne.1 hne.2, if_pos hzero]
    have hle := ih (extendLast_ne_nil _ _ _)
    rw [cellCount_extendLast] at hle
    omega
  | case7 last soFar c rest hjoiner hselector n hzero ih =>
    have hne : c ≠ joiner ∧ c ≠ emojiSelector := by
      simpa [h] using And.intro hjoiner hselector
    rw [cellsAfter_cons hne.1 hne.2, if_neg hzero]
    have hle := ih (List.cons_ne_nil _ _)
    simp only [cellCount] at hle ⊢
    omega

/-- A first character is a piece, whatever it is. -/
theorem piecesAfter_nil_cons (last : Option Char) (c : Char) (rest : List Char) :
    piecesAfter last [] (c :: rest) =
      piecesAfter (if charCells c = 0 then last else some c)
        [{ chars := [c], cells := charCells c }] rest := by
  rw [piecesAfter.eq_def]
  by_cases hzero : charCells c = 0 <;> simp [extendLast, hzero]

/-- The selector of the emoji form takes no cell by itself. -/
theorem charCells_emojiSelector : charCells emojiSelector = 0 := by decide +kernel

/-- The pieces of a text count no fewer cells than its characters, unless it begins with a joiner:
that one would take in the character behind it, and as a piece of its own it does not. -/
theorem cells_le_cellCount_pieces {cs : List Char} (h : cs.head? ≠ some joiner) :
    cells cs ≤ cellCount (pieces cs) := by
  rw [pieces, cellCount_reverse]
  cases cs with
  | nil => exact Nat.zero_le _
  | cons c rest =>
    have hjoiner : c ≠ joiner := fun hc => h (congrArg some hc)
    have hle := cellCount_add_cellsAfter_le
      (List.cons_ne_nil { chars := [c], cells := charCells c } [])
      (if charCells c = 0 then none else some c) rest
    rw [piecesAfter_nil_cons]
    refine Nat.le_trans ?_ hle
    by_cases hselector : c = emojiSelector
    · subst hselector
      rw [cells, cellsAfter_selector, charCells_emojiSelector]
      simp [cellCount]
    · rw [cells, cellsAfter_cons hjoiner hselector]
      simp [cellCount]

/-! ## Cuts -/

/-- A piece has characters, and is no single blank of more than one cell. -/
def Piece.IsSound (p : Piece) : Prop := p.chars ≠ [] ∧ (p.chars = [' '] → p.cells ≤ 1)

/-- Adding to the last piece keeps the pieces sound. -/
theorem forall_isSound_extendLast {more : List Char} (hmore : more ≠ []) {n : Nat} (hn : n ≤ 1)
    {ps : List Piece} (h : ∀ p ∈ ps, p.IsSound) : ∀ p ∈ extendLast more n ps, p.IsSound := by
  cases ps with
  | nil => exact List.forall_mem_singleton.2 ⟨hmore, fun _ => hn⟩
  | cons p before =>
    obtain ⟨hp, hbefore⟩ := List.forall_mem_cons.1 h
    refine List.forall_mem_cons.2 ⟨⟨?_, fun hblank => ?_⟩, hbefore⟩
    · exact List.append_ne_nil_of_left_ne_nil hp.1 _
    · -- There are two characters at least, so that they are no single blank.
      have hlength := congrArg List.length hblank
      have hpos := List.length_pos_iff.2 hp.1
      have hpos' := List.length_pos_iff.2 hmore
      simp only [List.length_append, List.length_singleton] at hlength
      omega

/-- The pieces of a text are sound. -/
theorem forall_isSound_piecesAfter (last : Option Char) {soFar : List Piece}
    (h : ∀ p ∈ soFar, p.IsSound) (cs : List Char) :
    ∀ p ∈ piecesAfter last soFar cs, p.IsSound := by
  fun_induction piecesAfter last soFar cs with
  | case1 => exact h
  | case2 => exact forall_isSound_extendLast (List.cons_ne_nil _ _) (Nat.zero_le 1) h
  | case3 _ _ _ _ _ _ ih | case5 _ _ _ _ _ _ _ ih | case6 _ _ _ _ _ _ _ _ ih =>
    exact ih (forall_isSound_extendLast (List.cons_ne_nil _ _) (Nat.zero_le 1) h)
  | case4 _ _ _ _ _ _ _ _ ih =>
    exact ih (forall_isSound_extendLast (List.cons_ne_nil _ _) (Nat.le_refl 1) h)
  | case7 last soFar c rest _ _ n _ ih =>
    refine ih (List.forall_mem_cons.2 ⟨⟨List.cons_ne_nil _ _, fun hblank => ?_⟩, h⟩)
    obtain rfl : c = ' ' := List.head_eq_of_cons_eq hblank
    exact Nat.le_refl 1

/-- The pieces of a text are sound. -/
theorem forall_isSound_pieces (cs : List Char) : ∀ p ∈ pieces cs, p.IsSound := by
  simpa only [pieces, List.mem_reverse] using
    forall_isSound_piecesAfter none (List.forall_mem_nil _) cs

/-- What is taken of pieces is no longer than all of them. -/
theorem length_takeCells_le {ps : List Piece} (h : ∀ p ∈ ps, p.IsSound) (room : Nat) :
    (takeCells room ps).length ≤ (ps.flatMap Piece.chars).length := by
  induction ps generalizing room with
  | nil => exact Nat.le_refl _
  | cons p rest ih =>
    obtain ⟨hp, hrest⟩ := List.forall_mem_cons.1 h
    have hpos := List.length_pos_iff.2 hp.1
    have hle := ih hrest (room - p.cells)
    rw [takeCells, List.flatMap_cons, List.length_append]
    split_ifs
    · exact Nat.zero_le _
    · rw [List.length_append]
      omega
    · rw [List.length_singleton]
      omega

/-- Pieces of which nothing is cut off have the room that they need. -/
theorem cellCount_le_of_takeCells {ps : List Piece} (h : ∀ p ∈ ps, p.IsSound) {room : Nat}
    (htake : takeCells room ps = ps.flatMap Piece.chars) : cellCount ps ≤ room := by
  induction ps generalizing room with
  | nil => exact Nat.zero_le _
  | cons p rest ih =>
    obtain ⟨hp, hrest⟩ := List.forall_mem_cons.1 h
    rw [takeCells, List.flatMap_cons] at htake
    split_ifs at htake with hroom hfits
    · exact absurd (List.append_eq_nil_iff.1 htake.symm).1 hp.1
    · have hle := ih hrest (List.append_cancel_left htake)
      simp only [cellCount] at hle ⊢
      omega
    · -- A blank stands for the piece that is cut, and no piece looks like that.
      have hblank : p.chars = [' '] := by
        obtain ⟨c, chars, hchars⟩ := List.exists_cons_of_ne_nil hp.1
        rw [hchars, List.cons_append] at htake
        obtain ⟨rfl, hnil⟩ := List.cons_eq_cons.1 htake
        rw [hchars, (List.append_eq_nil_iff.1 hnil.symm).1]
      have hone := hp.2 hblank
      omega

/-- What is taken of pieces is part of them, or a blank. -/
theorem eq_or_mem_of_mem_takeCells {room : Nat} {ps : List Piece} {c : Char}
    (h : c ∈ takeCells room ps) : c = ' ' ∨ c ∈ ps.flatMap Piece.chars := by
  induction ps generalizing room with
  | nil => exact Or.inr h
  | cons p rest ih =>
    rw [takeCells] at h
    split_ifs at h
    · exact absurd h List.not_mem_nil
    · rw [List.flatMap_cons, List.mem_append]
      rcases List.mem_append.1 h with h | h
      · exact Or.inr (Or.inl h)
      · exact (ih h).imp_right Or.inr
    · exact Or.inl (List.mem_singleton.1 h)

/-- A text cut into lines loses at most characters without cells at its end. -/
theorem isPrefix_flatten_chopPieces (width : Nat) (line : List Piece) (size : Nat)
    (ps : List Piece) :
    (chopPieces width line size ps).flatten <+: textBackwards line ++ ps.flatMap Piece.chars := by
  fun_induction chopPieces width line size ps with
  | case1 => exact List.nil_prefix
  | case2 => simp [textBackwards]
  | case3 line size p rest hfull ih =>
    rw [List.flatten_cons]
    apply (List.prefix_append_right_inj _).2
    simpa [textBackwards] using ih
  | case4 line size p rest hfull ih => simpa [textBackwards] using ih

/-- A text cut into lines loses at most characters at its end. -/
theorem isPrefix_flatten_chop (width : Nat) (cs : List Char) : (chop width cs).flatten <+: cs := by
  have h := isPrefix_flatten_chopPieces width [] 0 (pieces cs)
  rwa [text_pieces] at h

/-! ## Labels -/

/-- A character that takes one cell and goes with no other: one of printable ASCII. -/
def IsNarrow (c : Char) : Prop := 0x20 ≤ c.toNat ∧ c.toNat < 0x7F

instance (c : Char) : Decidable (IsNarrow c) := inferInstanceAs (Decidable (_ ∧ _))

section IsNarrow

variable {c : Char} (h : IsNarrow c)

include h

/-- A narrow character takes one cell. -/
theorem IsNarrow.charCells : charCells c = 1 := by
  unfold Console.charCells
  simp only [h.1, h.2, decide_true, Bool.and_true, if_true]

/-- The joiner is not narrow. -/
theorem IsNarrow.ne_joiner : c ≠ joiner := by
  rintro rfl
  exact absurd h (by decide)

/-- The selector of the emoji form is not narrow. -/
theorem IsNarrow.ne_emojiSelector : c ≠ emojiSelector := by
  rintro rfl
  exact absurd h (by decide)

end IsNarrow

/-- The piece of a narrow character. -/
def narrowPiece (c : Char) : Piece := { chars := [c], cells := 1 }

/-- A text of narrow characters takes one cell for each. -/
theorem cellsAfter_of_isNarrow {label : List Char} (h : ∀ c ∈ label, IsNarrow c)
    (last : Option Char) : cellsAfter last label = label.length := by
  induction label generalizing last with
  | nil => rfl
  | cons c rest ih =>
    obtain ⟨hc, hrest⟩ := List.forall_mem_cons.1 h
    rw [cellsAfter_cons hc.ne_joiner hc.ne_emojiSelector, hc.charCells, ih hrest,
      List.length_cons, Nat.add_comm]

/-- Each narrow character is a piece. -/
theorem piecesAfter_append_of_isNarrow {label : List Char} (h : ∀ c ∈ label, IsNarrow c)
    (last : Option Char) (soFar : List Piece) (rest : List Char) :
    ∃ last', piecesAfter last soFar (label ++ rest) =
      piecesAfter last' ((label.map narrowPiece).reverse ++ soFar) rest := by
  induction label generalizing last soFar with
  | nil => exact ⟨last, rfl⟩
  | cons c label ih =>
    obtain ⟨hc, hlabel⟩ := List.forall_mem_cons.1 h
    obtain ⟨last', ih⟩ := ih hlabel (some c) (narrowPiece c :: soFar)
    refine ⟨last', ?_⟩
    rw [List.map_cons, List.reverse_cons, List.append_assoc, List.singleton_append, ← ih,
      List.cons_append, piecesAfter.eq_def]
    simp [hc.ne_joiner, hc.ne_emojiSelector, hc.charCells, narrowPiece]

/-- Adding to the last piece leaves the others. -/
theorem tail_extendLast (more : List Char) (n : Nat) (ps : List Piece) :
    (extendLast more n ps).tail = ps.tail := by
  cases ps <;> rfl

/-- Later characters belong to the last piece at most, and leave the others. -/
theorem exists_piecesAfter_eq_append_tail (last : Option Char) (soFar : List Piece)
    (cs : List Char) : ∃ more, piecesAfter last soFar cs = more ++ soFar.tail := by
  have hsplit (ps : List Piece) : ps = ps.take 1 ++ ps.tail := by
    cases ps <;> rfl
  fun_induction piecesAfter last soFar cs with
  | case1 last soFar => exact ⟨soFar.take 1, hsplit soFar⟩
  | case2 last soFar c =>
    refine ⟨(extendLast [c] 0 soFar).take 1, ?_⟩
    rw [← tail_extendLast [c] 0 soFar, ← hsplit]
  | case3 _ _ _ _ _ _ ih | case4 _ _ _ _ _ _ _ _ ih | case5 _ _ _ _ _ _ _ ih
  | case6 _ _ _ _ _ _ _ _ ih => rwa [tail_extendLast] at ih
  | case7 last soFar c rest _ _ n _ ih =>
    obtain ⟨more, hmore⟩ := ih
    refine ⟨more ++ soFar.take 1, ?_⟩
    rw [hmore, List.append_assoc, List.tail_cons, ← hsplit]

/-- Pieces that take cells are taken as long as there is room. -/
theorem takeCells_narrow_append (label : List Char) {room : Nat} (hroom : label.length ≤ room)
    (ps : List Piece) :
    takeCells room (label.map narrowPiece ++ ps) =
      label ++ takeCells (room - label.length) ps := by
  induction label generalizing room with
  | nil => rfl
  | cons c label ih =>
    rw [List.length_cons] at hroom
    have hne : room ≠ 0 := by omega
    have hone : (narrowPiece c).cells ≤ room := Nat.one_le_iff_ne_zero.2 hne
    rw [List.map_cons, List.cons_append, takeCells, if_neg hne, if_pos hone,
      ih (by simp only [narrowPiece]; omega)]
    simp only [narrowPiece, List.length_cons, List.cons_append, List.nil_append, Nat.sub_sub,
      Nat.add_comm 1]

/-- A cut keeps narrow characters at the start, but perhaps not the last of them: others may belong
to that. -/
theorem prefix_takeCells_pieces {label : List Char} (h : ∀ c ∈ label, IsNarrow c) {d : Char}
    (hd : IsNarrow d) {room : Nat} (hroom : label.length ≤ room) (rest : List Char) :
    label <+: takeCells room (pieces (label ++ d :: rest)) := by
  have hall : ∀ c ∈ label ++ [d], IsNarrow c :=
    List.forall_mem_append.2 ⟨h, List.forall_mem_singleton.2 hd⟩
  obtain ⟨last, hpieces⟩ := piecesAfter_append_of_isNarrow hall none [] rest
  obtain ⟨more, hmore⟩ := exists_piecesAfter_eq_append_tail last
    (((label ++ [d]).map narrowPiece).reverse ++ []) rest
  have hsplit : pieces (label ++ d :: rest) = label.map narrowPiece ++ more.reverse := by
    rw [pieces, List.append_cons, hpieces, hmore]
    simp
  rw [hsplit, takeCells_narrow_append label hroom]
  exact List.prefix_append _ _

end ArgScan.Console
