import ArgScan.Proofs.Markup

/-!
# Escaped texts always show

Escaping puts backslashes before the tags of a text, an odd number before each. Reading the escaped
text as markup goes along with the escaping: where the text has a tag, its escaped form has the same
tag behind more backslashes, and where it has none, neither has the escaped form
(`readEscapedTag?_cons_escapeTags`). So every part of an escaped text stands for itself
(`allPlain_parts_escape`), no style is opened or closed in it, and it shows behind any label
(`exists_render_labelled`).

Escaping may double the backslash at the end of the text, so the lemmas speak of an escaped text
with a number of backslashes behind it.
-/

namespace ArgScan.Console.Markup

/-! ## Tags behind backslashes -/

/-- A tag that is read from one text is read before any other rest. -/
theorem readTag?_append {cs tag rest : List Char} (h : readTag? cs = some (tag, rest))
    (rest' : List Char) : readTag? ('[' :: tag ++ ']' :: rest') = some (tag, rest') := by
  obtain ⟨c, inner, htag, hbegins, hinner, -⟩ := readTag?_eq_some_iff.1 h
  exact readTag?_eq_some_iff.2 ⟨c, inner, htag, hbegins, hinner, rfl⟩

/-- A text without a backslash at its start has no backslashes before a tag. -/
theorem readEscapedTag?_cons_of_ne {c : Char} (h : c ≠ '\\') (cs : List Char) :
    readEscapedTag? (c :: cs) = (readTag? (c :: cs)).map fun (tag, rest) => (0, tag, rest) := by
  have hnone : (c :: cs).takeWhile (· = '\\') = [] := List.takeWhile_cons_of_neg (by simpa using h)
  simp only [readEscapedTag?, hnone, List.length_nil, List.drop_zero]

/-- A backslash before a text counts as one more. -/
theorem readEscapedTag?_backslash (cs : List Char) :
    readEscapedTag? ('\\' :: cs) =
      (readEscapedTag? cs).map fun (slashes, tag, rest) => (slashes + 1, tag, rest) := by
  have hone : ('\\' :: cs).takeWhile (· = '\\') = '\\' :: cs.takeWhile (· = '\\') :=
    List.takeWhile_cons_of_pos (by decide)
  simp only [readEscapedTag?, hone, List.length_cons, List.drop_succ_cons, Option.map_map]
  rfl

/-- Backslashes before a tag are counted. -/
theorem readEscapedTag?_replicate {cs tag rest : List Char} (h : readTag? cs = some (tag, rest))
    (slashes : Nat) (rest' : List Char) :
    readEscapedTag? (List.replicate slashes '\\' ++ ('[' :: tag ++ ']' :: rest')) =
      some (slashes, tag, rest') := by
  induction slashes with
  | zero =>
    have htag := readTag?_append h rest'
    rw [List.cons_append] at htag
    rw [List.replicate_zero, List.nil_append, List.cons_append,
      readEscapedTag?_cons_of_ne (by decide), htag]
    rfl
  | succ slashes ih =>
    rw [List.replicate_succ, List.cons_append, readEscapedTag?_backslash, ih]
    rfl

/-- Backslashes alone are no tag. -/
theorem readEscapedTag?_backslashes (k : Nat) : readEscapedTag? (List.replicate k '\\') = none := by
  induction k with
  | zero => rfl
  | succ k ih => rw [List.replicate_succ, readEscapedTag?_backslash, ih]; rfl

/-! ## Escaped tags -/

/-- A text that goes from backslashes to an opening bracket does not come to a closing bracket
before any other. -/
theorem false_of_backslashes_append {k : Nat} {x inner after : List Char} (hinner : '[' ∉ inner)
    (h : List.replicate k '\\' ++ '[' :: x = inner ++ ']' :: after) : False := by
  rcases List.append_eq_append_iff.1 h with ⟨middle, hleft, hright⟩ | ⟨middle, hleft, hright⟩
  · cases middle with
    | nil => exact absurd (List.cons.inj hright).1 (by decide)
    | cons c middle =>
      obtain ⟨rfl, -⟩ := List.cons.inj hright
      exact hinner (by simp [hleft])
  · cases middle with
    | nil => exact absurd (List.cons.inj hright).1 (by decide)
    | cons c middle =>
      obtain ⟨rfl, -⟩ := List.cons.inj hright
      have hmem : ']' ∈ List.replicate k '\\' := by simp [hleft]
      exact absurd (List.eq_of_mem_replicate hmem) (by decide)

/-- What an escaped text has up to a closing bracket, the text has too, if no bracket opens in it.
-/
theorem exists_eq_of_escapeTags_eq {n k : Nat} {cs inner after : List Char} (hinner : '[' ∉ inner)
    (h : escapeTags n cs ++ List.replicate k '\\' = inner ++ ']' :: after) :
    ∃ after', cs = inner ++ ']' :: after' := by
  -- The backslashes at the end have no closing bracket.
  have hend : ∀ inner, ¬ List.replicate k '\\' = inner ++ ']' :: after := by
    intro inner h
    have hmem : ']' ∈ List.replicate k '\\' := by simp [h]
    exact absurd (List.eq_of_mem_replicate hmem) (by decide)
  induction n generalizing cs inner with
  | zero => exact absurd h (hend inner)
  | succ n ih =>
    cases cs with
    | nil => exact absurd h (hend inner)
    | cons c rest =>
      cases htag : readEscapedTag? (c :: rest) with
      | none =>
        simp only [escapeTags, htag, List.cons_append] at h
        cases inner with
        | nil =>
          obtain ⟨rfl, -⟩ := List.cons.inj h
          exact ⟨rest, rfl⟩
        | cons d inner =>
          obtain ⟨rfl, hrest⟩ := List.cons.inj h
          obtain ⟨after', rfl⟩ := ih (fun hmem => hinner (List.mem_cons_of_mem _ hmem)) hrest
          exact ⟨after', rfl⟩
      | some found =>
        -- An escaped tag begins with backslashes and an opening bracket.
        obtain ⟨slashes, tag, rest'⟩ := found
        simp only [escapeTags, htag, List.append_assoc, List.cons_append] at h
        exact (false_of_backslashes_append hinner h).elim

/-- Where a text has no tag right behind an opening bracket, its escaped form has none either. -/
theorem readTag?_cons_escapeTags {n k : Nat} {c : Char} {rest : List Char}
    (h : readTag? (c :: rest) = none) :
    readTag? (c :: (escapeTags n rest ++ List.replicate k '\\')) = none := by
  rw [Option.eq_none_iff_forall_ne_some]
  rintro ⟨tag, after⟩ htag
  obtain ⟨first, inner, rfl, hbegins, hinner, heq⟩ := readTag?_eq_some_iff.1 htag
  obtain ⟨rfl, hrest⟩ := List.cons.inj heq
  -- The tag holds no bracket, so nothing was escaped in it: the text itself begins with it.
  have hopen : '[' ∉ first :: inner := by
    rw [List.mem_cons, not_or]
    exact ⟨fun hfirst => absurd (hfirst ▸ hbegins) (by decide), fun hmem => (hinner _ hmem).1 rfl⟩
  obtain ⟨after', rfl⟩ := exists_eq_of_escapeTags_eq hopen hrest
  have hsome := readTag?_append htag after'
  exact absurd (h.symm.trans hsome) (by simp)

/-- Where a text has no tag, its escaped form has none either. -/
theorem readEscapedTag?_cons_escapeTags {n k : Nat} {c : Char} {rest : List Char}
    (h : readEscapedTag? (c :: rest) = none) :
    readEscapedTag? (c :: (escapeTags n rest ++ List.replicate k '\\')) = none := by
  induction n generalizing c rest with
  | zero =>
    by_cases hc : c = '\\'
    · subst hc
      exact readEscapedTag?_backslashes (k + 1)
    · rw [readEscapedTag?_cons_of_ne hc, Option.map_eq_none_iff] at h ⊢
      exact readTag?_cons_escapeTags h
  | succ n ih =>
    by_cases hc : c = '\\'
    · -- A tag behind the backslash would be one behind the characters after it.
      subst hc
      rw [readEscapedTag?_backslash, Option.map_eq_none_iff] at h ⊢
      cases rest with
      | nil => exact readEscapedTag?_backslashes k
      | cons d rest =>
        simp only [escapeTags, h]
        exact ih h
    · rw [readEscapedTag?_cons_of_ne hc, Option.map_eq_none_iff] at h ⊢
      exact readTag?_cons_escapeTags h

/-! ## Parts -/

/-- Every part stands for itself. -/
def AllPlain (ps : List Part) : Prop := ∀ part ∈ ps, ∃ cs, part = .plain cs

/-- A character before parts leaves them standing for themselves. -/
theorem AllPlain.putBefore {ps : List Part} (h : AllPlain ps) (c : Char) :
    AllPlain (putBefore c ps) := by
  unfold AllPlain at h ⊢
  rw [Markup.putBefore.eq_def]
  split
  · rw [List.forall_mem_cons] at h ⊢
    exact ⟨⟨_, rfl⟩, h.2⟩
  · rw [List.forall_mem_cons]
    exact ⟨⟨_, rfl⟩, h⟩

/-- The part of a character that begins no tag. -/
theorem parts_of_readEscapedTag?_eq_none {c : Char} {rest : List Char}
    (h : readEscapedTag? (c :: rest) = none) (n : Nat) :
    parts (n + 1) (c :: rest) = putBefore c (parts n rest) := by
  simp only [parts, h]

/-- The parts of a text that begins with an escaped tag: half of the backslashes before the one
that escapes it, and the tag, stand for themselves. -/
theorem parts_of_escaped_tag {cs tag rest : List Char} {slashes : Nat}
    (h : readEscapedTag? cs = some (2 * slashes + 1, tag, rest)) (n : Nat) :
    parts (n + 1) cs =
      (if slashes = 0 then [] else [.plain (List.replicate slashes '\\')]) ++
        .plain ('[' :: tag ++ [']']) :: parts n rest := by
  cases cs with
  | nil => contradiction
  | cons c cs =>
    have hhalf : (2 * slashes + 1) / 2 = slashes := by omega
    have hodd : (2 * slashes + 1) % 2 = 1 := by omega
    have hfew : 2 * slashes + 1 < 2 ↔ slashes = 0 := by omega
    simp only [parts, h, hhalf, hodd, hfew, if_true]

/-- Backslashes alone stand for themselves. -/
theorem allPlain_parts_backslashes (n k : Nat) : AllPlain (parts n (List.replicate k '\\')) := by
  induction n generalizing k with
  | zero => exact List.forall_mem_nil _
  | succ n ih =>
    cases k with
    | zero => exact List.forall_mem_nil _
    | succ k =>
      have hnone := readEscapedTag?_backslashes (k + 1)
      rw [List.replicate_succ] at hnone ⊢
      rw [parts_of_readEscapedTag?_eq_none hnone]
      exact (ih k).putBefore _

/-- Every part of an escaped text stands for itself. -/
theorem allPlain_parts_escapeTags (m n k : Nat) (cs : List Char) :
    AllPlain (parts n (escapeTags m cs ++ List.replicate k '\\')) := by
  induction m generalizing n cs with
  | zero => exact allPlain_parts_backslashes n k
  | succ m ih =>
    cases cs with
    | nil => exact allPlain_parts_backslashes n k
    | cons c rest =>
      cases n with
      | zero => exact List.forall_mem_nil _
      | succ n =>
        cases htag : readEscapedTag? (c :: rest) with
        | none =>
          simp only [escapeTags, htag, List.cons_append]
          rw [parts_of_readEscapedTag?_eq_none (readEscapedTag?_cons_escapeTags htag)]
          exact (ih n rest).putBefore c
        | some found =>
          -- The tag is read again behind an odd number of backslashes, and what follows it is the
          -- escaped rest.
          obtain ⟨slashes, tag, rest'⟩ := found
          obtain ⟨⟨tag', after⟩, hread, heq⟩ := Option.map_eq_some_iff.1 htag
          obtain ⟨-, rfl, rfl⟩ : _ ∧ tag' = tag ∧ after = rest' := by simpa using heq
          have hescaped := readEscapedTag?_replicate hread (2 * slashes + 1)
            (escapeTags m after ++ List.replicate k '\\')
          simp only [escapeTags, htag, List.append_assoc, List.cons_append] at hescaped ⊢
          rw [parts_of_escaped_tag hescaped]
          refine List.forall_mem_append.2 ⟨?_, List.forall_mem_cons.2 ⟨⟨_, rfl⟩, ih n after⟩⟩
          split_ifs
          · exact List.forall_mem_nil _
          · exact List.forall_mem_singleton.2 ⟨_, rfl⟩

/-- Every part of an escaped text stands for itself, with the backslash at its end doubled or not.
-/
theorem allPlain_parts_escape (n : Nat) (cs : List Char) : AllPlain (parts n (escape cs)) := by
  have hsingle := allPlain_parts_escapeTags cs.length n 0 cs
  have hdoubled := allPlain_parts_escapeTags cs.length n 1 cs
  rw [List.replicate_zero, List.append_nil] at hsingle
  rw [List.replicate_one] at hdoubled
  rw [escape]
  split
  · exact hdoubled
  · split_ifs
    · exact hsingle
    · exact hdoubled
  · exact hsingle

/-! ## What shows -/

/-- Parts that stand for themselves show, whatever is open. -/
theorem AllPlain.exists_showParts (dialect : Dialect) {ps : List Part} (h : AllPlain ps)
    (opened : List Opened) : ∃ shown, showParts dialect opened ps = .ok shown := by
  induction ps with
  | nil => exact ⟨[], rfl⟩
  | cons part rest ih =>
    obtain ⟨⟨cs, rfl⟩, hrest⟩ := List.forall_mem_cons.1 h
    obtain ⟨shown, hshown⟩ := ih hrest
    exact ⟨dialect.replace (dropSlashes cs) ++ shown, by rw [showParts, hshown]; rfl⟩

/-- Characters that are neither opening brackets nor backslashes are put before the parts of what is
behind them. -/
theorem parts_append {label : List Char} (hbracket : '[' ∉ label) (hslash : '\\' ∉ label)
    (n : Nat) (cs : List Char) :
    parts (label.length + n) (label ++ cs) = label.foldr putBefore (parts n cs) := by
  induction label with
  | nil => rw [List.length_nil, Nat.zero_add, List.nil_append, List.foldr_nil]
  | cons c label ih =>
    rw [List.mem_cons, not_or] at hbracket hslash
    have hnone : readEscapedTag? (c :: (label ++ cs)) = none := by
      rw [readEscapedTag?_cons_of_ne (Ne.symm hslash.1), Option.map_eq_none_iff, readTag?.eq_2]
      rintro d rest heq
      exact hbracket.1 (List.cons.inj heq).1.symm
    rw [List.length_cons, Nat.add_right_comm, List.cons_append,
      parts_of_readEscapedTag?_eq_none hnone, ih hbracket.2 hslash.2, List.foldr_cons]

/-- Characters before a tag make up one part. -/
theorem foldr_putBefore_tag {label : List Char} (hne : label ≠ []) (tag : List Char)
    (ps : List Part) : label.foldr putBefore (.tag tag :: ps) = .plain label :: .tag tag :: ps := by
  induction label with
  | nil => contradiction
  | cons c label ih =>
    cases label with
    | nil => rfl
    | cons d label => rw [List.foldr_cons, ih (List.cons_ne_nil _ _)]; rfl

/-- The parts of a text that begins with a tag. -/
theorem parts_of_tag {cs tag rest : List Char} (h : readEscapedTag? cs = some (0, tag, rest))
    (n : Nat) : parts (n + 1) cs = .tag tag :: parts n rest := by
  cases cs with
  | nil => contradiction
  | cons c cs => simp only [parts, h]; rfl

/-- No character but a backslash is dropped. -/
theorem dropSlashes_cons_of_ne {c : Char} (h : c ≠ '\\') (cs : List Char) :
    dropSlashes (c :: cs) = c :: dropSlashes cs := by
  rw [dropSlashes.eq_2]
  rintro rest rfl
  contradiction

/-- A blank before parts shows before them. -/
theorem showParts_putBefore_blank (dialect : Dialect) (opened : List Opened) (ps : List Part) :
    showParts dialect opened (putBefore ' ' ps) =
      (showParts dialect opened ps).map (' ' :: ·) := by
  have hcons (cs : List Char) :
      dialect.replace (dropSlashes (' ' :: cs)) = ' ' :: dialect.replace (dropSlashes cs) := by
    rw [dropSlashes_cons_of_ne (by decide), dialect.replace_cons_of_ne (by decide)]
  rw [putBefore.eq_def]
  split
  · rw [showParts, showParts, hcons]
    cases showParts dialect opened _ <;> rfl
  · rw [showParts, hcons]
    rfl

/-- A red label with an escaped text behind it always shows, on any console. -/
theorem exists_render_labelled (dialect : Dialect) {label : List Char} (hne : label ≠ [])
    (hbracket : '[' ∉ label) (hslash : '\\' ∉ label) (hcode : HoldsNoCode label) (cs : List Char) :
    ∃ shown, render ("[red]".toList ++ (label ++ ("[/] ".toList ++ escape cs))) dialect =
      .ok (label ++ ' ' :: shown) := by
  obtain ⟨shown, hshown⟩ :=
    (allPlain_parts_escape ((escape cs).length + 6) cs).exists_showParts dialect []
  refine ⟨shown, ?_⟩
  -- The first tag opens a style, the label shows, the second tag closes the style again, and the
  -- blank and the escaped text show with nothing open.
  let closing := "[/] ".toList ++ escape cs
  have hlength : ("[red]".toList ++ (label ++ closing)).length =
      label.length + ((escape cs).length + 6 + 1 + 1) + 1 := by
    simp only [closing, List.length_append, String.length_toList]
    have hred : "[red]".length = 5 := rfl
    have hclose : "[/] ".length = 4 := rfl
    omega
  have hparts : parts ("[red]".toList ++ (label ++ closing)).length
      ("[red]".toList ++ (label ++ closing)) =
        .tag "red".toList :: .plain label :: .tag ['/'] ::
          putBefore ' ' (parts ((escape cs).length + 6) (escape cs)) := by
    have hred : readEscapedTag? ("[red]".toList ++ (label ++ closing)) =
        some (0, "red".toList, label ++ closing) := rfl
    have hclosing : readEscapedTag? closing = some (0, ['/'], ' ' :: escape cs) := rfl
    have hblank : readEscapedTag? (' ' :: escape cs) = none :=
      readEscapedTag?_cons_of_ne (by decide) (escape cs)
    rw [hlength, parts_of_tag hred, parts_append hbracket hslash, parts_of_tag hclosing,
      foldr_putBefore_tag hne, parts_of_readEscapedTag?_eq_none hblank]
  have hlabel : dialect.replace (dropSlashes label) = label := by
    rw [(isPlain_of_not_mem hbracket).2.dropSlashes_eq, dialect.replace_of_holdsNoCode hcode]
  have hcontains : ("[red]".toList ++ (label ++ closing)).contains '[' = true := rfl
  have hopened : showParts dialect [openTag dialect "red".toList] (.tag ['/'] ::
      putBefore ' ' (parts ((escape cs).length + 6) (escape cs))) = .ok (' ' :: shown) := by
    have hclosed : openAfter dialect [openTag dialect "red".toList] ['/'] = .ok [] := rfl
    rw [showParts, hclosed]
    refine (showParts_putBefore_blank dialect [] _).trans ?_
    rw [hshown]
    rfl
  calc render ("[red]".toList ++ (label ++ closing)) dialect
      = showParts dialect [openTag dialect "red".toList] (.plain label :: .tag ['/'] ::
          putBefore ' ' (parts ((escape cs).length + 6) (escape cs))) := by
        rw [render, if_pos hcontains, hparts]
        rfl
    _ = .ok (label ++ ' ' :: shown) := by
        rw [showParts, hopened, hlabel]
        rfl

end ArgScan.Console.Markup
