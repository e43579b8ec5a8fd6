import ArgScan.Console.Markup
import ArgScan.Proofs.Codes
import Mathlib.Data.List.Infix
import Mathlib.Data.List.TakeWhile

/-!
# Texts that markup leaves alone

Markup takes tags out of a text, and the backslash out of an escaped bracket, and adds nothing but
emoji. So on a console without these a text shows as it is exactly if there is nothing to take out:
no tag begins anywhere in it, and no backslash stands before an opening bracket (`IsPlain`,
`render_eq_self_iff`). A text without codes shows the same there as on any other console
(`render_of_holdsNoCode`), because its parts have none either: they have its marks, and taking out
backslashes and brackets leaves these in their order (`partMarks_parts_isPrefix`).

The proof counts characters. A tag that is read costs the text at least its two brackets, so the
plain parts are as long as the text only if no tag was read (`holdsNoTag_of_plainLength_eq`), and
then they are the text itself (`parts_of_holdsNoTag`). What shows is no longer than the plain parts,
and as long only if no bracket was escaped in them.
-/

namespace ArgScan.Console.Markup

/-- No tag begins anywhere in the text. -/
def HoldsNoTag (cs : List Char) : Prop := ∀ rest ∈ cs.tails, readTag? rest = none

/-- No backslash stands before an opening bracket. -/
def HoldsNoEscape (cs : List Char) : Prop := ∀ rest ∈ cs.tails, ¬ ['\\', '['] <+: rest

/-- There is nothing in the text that markup takes out. -/
def IsPlain (cs : List Char) : Prop := HoldsNoTag cs ∧ HoldsNoEscape cs

instance (cs : List Char) : Decidable (HoldsNoTag cs) :=
  inferInstanceAs (Decidable (∀ rest ∈ cs.tails, _))

instance (cs : List Char) : Decidable (HoldsNoEscape cs) :=
  inferInstanceAs (Decidable (∀ rest ∈ cs.tails, _))

instance (cs : List Char) : Decidable (IsPlain cs) :=
  inferInstanceAs (Decidable (_ ∧ _))

/-! ## Tags -/

/-- A tag is what stands between an opening bracket at the start of a text and the next bracket, if
that is a closing one, and if its first character may begin a tag. -/
theorem readTag?_eq_some_iff {cs tag rest : List Char} :
    readTag? cs = some (tag, rest) ↔ ∃ c inner, tag = c :: inner ∧ beginsTag c = true ∧
      (∀ x ∈ inner, x ≠ '[' ∧ x ≠ ']') ∧ cs = '[' :: tag ++ ']' :: rest := by
  constructor
  · intro h
    unfold readTag? at h
    split at h
    · rename_i c after
      dsimp only at h
      have hinner : ∀ x ∈ after.takeWhile (fun c => c ≠ '[' && c ≠ ']'), x ≠ '[' ∧ x ≠ ']' := by
        intro x hx
        simpa using List.mem_takeWhile_imp hx
      have hafter : after = after.takeWhile (fun c => c ≠ '[' && c ≠ ']') ++
          after.drop (after.takeWhile (fun c => c ≠ '[' && c ≠ ']')).length :=
        List.prefix_append_drop (List.takeWhile_prefix _)
      split at h
      · rename_i rest' hrest
        by_cases hbegins : beginsTag c = true
        · rw [if_pos hbegins] at h
          obtain ⟨rfl, rfl⟩ := Prod.mk.inj (Option.some.inj h)
          refine ⟨c, _, rfl, hbegins, hinner, ?_⟩
          rw [hrest] at hafter
          rw [List.cons_append, List.cons_append, ← hafter]
        · rw [if_neg hbegins] at h
          contradiction
      · contradiction
    · contradiction
  · rintro ⟨c, inner, rfl, hbegins, hinner, rfl⟩
    have htake : (inner ++ ']' :: rest).takeWhile (fun c => c ≠ '[' && c ≠ ']') = inner := by
      rw [List.takeWhile_append_of_pos (by simpa using hinner)]
      simp
    simp only [List.cons_append, readTag?, htake, List.drop_left, if_pos hbegins]

/-- The backslashes, the tag and the rest that are read from a text make it up. -/
theorem eq_of_readEscapedTag?_eq_some {cs tag rest : List Char} {slashes : Nat}
    (h : readEscapedTag? cs = some (slashes, tag, rest)) :
    cs = List.replicate slashes '\\' ++ ('[' :: tag ++ ']' :: rest) := by
  unfold readEscapedTag? at h
  obtain ⟨⟨tag', rest'⟩, htag, heq⟩ := Option.map_eq_some_iff.1 h
  obtain ⟨rfl, rfl, rfl⟩ :
      (cs.takeWhile (· = '\\')).length = slashes ∧ tag' = tag ∧ rest' = rest := by
    simpa using heq
  obtain ⟨c, inner, -, -, -, hdrop⟩ := readTag?_eq_some_iff.1 htag
  have hslashes : cs.takeWhile (· = '\\') =
      List.replicate (cs.takeWhile (· = '\\')).length '\\' := by
    rw [List.eq_replicate_iff]
    exact ⟨rfl, fun x hx => by simpa using List.mem_takeWhile_imp hx⟩
  rw [← hslashes, ← hdrop]
  exact List.prefix_append_drop (List.takeWhile_prefix _)

/-- A text in which no tag begins has none behind backslashes either. -/
theorem HoldsNoTag.readEscapedTag?_eq_none {cs : List Char} (h : HoldsNoTag cs) :
    readEscapedTag? cs = none := by
  have htag := h _ ((List.mem_tails _ _).2 (List.drop_suffix (cs.takeWhile (· = '\\')).length cs))
  simp only [readEscapedTag?, htag, Option.map_none]

/-- A text whose first character begins no tag behind backslashes begins with none. -/
theorem readTag?_eq_none_of_readEscapedTag? {cs : List Char} (h : readEscapedTag? cs = none) :
    readTag? cs = none := by
  unfold readEscapedTag? at h
  rw [Option.map_eq_none_iff] at h
  cases htag : readTag? cs with
  | none => rfl
  | some found =>
    -- It would begin with a bracket, so that no backslash is dropped.
    obtain ⟨tag, rest⟩ := found
    obtain ⟨c, inner, rfl, -, -, rfl⟩ := readTag?_eq_some_iff.1 htag
    have hnone : ('[' :: c :: inner ++ ']' :: rest).takeWhile (· = '\\') = [] := rfl
    rw [hnone, List.length_nil, List.drop_zero] at h
    exact htag.symm.trans h

/-- There is nothing to take out behind the first character either. -/
theorem HoldsNoTag.tail {c : Char} {cs : List Char} (h : HoldsNoTag (c :: cs)) : HoldsNoTag cs :=
  fun rest hrest => h rest (by rw [List.tails_cons]; exact List.mem_cons_of_mem _ hrest)

/-! ## Parts -/

/-- The number of characters that stand for themselves in some parts. -/
def plainLength : List Part → Nat
  | [] => 0
  | .plain cs :: rest => cs.length + plainLength rest
  | .tag _ :: rest => plainLength rest

/-- A character before parts counts as one. -/
theorem plainLength_putBefore (c : Char) (ps : List Part) :
    plainLength (putBefore c ps) = plainLength ps + 1 := by
  cases ps with
  | nil => rfl
  | cons part rest =>
    cases part with
    | plain cs =>
      simp only [putBefore, plainLength, List.length_cons]
      omega
    | tag cs =>
      simp only [putBefore, plainLength, List.length_cons, List.length_nil]
      omega

/-- Where a tag is read, its brackets and the backslashes before it leave fewer characters. -/
theorem plainLength_parts_lt {n : Nat} {c : Char} {cs tag rest : List Char} {slashes : Nat}
    (h : readEscapedTag? (c :: cs) = some (slashes, tag, rest))
    (hrest : plainLength (parts n rest) ≤ rest.length) :
    plainLength (parts (n + 1) (c :: cs)) < (c :: cs).length := by
  have hlength : (c :: cs).length = slashes + (tag.length + 2 + rest.length) := by
    rw [eq_of_readEscapedTag?_eq_some h]
    simp only [List.length_append, List.length_replicate, List.length_cons]
    omega
  rw [hlength]
  simp only [parts, h]
  split_ifs <;>
    simp only [List.nil_append, List.cons_append, plainLength, List.length_append,
      List.length_replicate, List.length_cons, List.length_nil] <;>
    omega

/-- The plain parts of a text are no longer than the text. -/
theorem plainLength_parts_le (n : Nat) (cs : List Char) : plainLength (parts n cs) ≤ cs.length := by
  induction n generalizing cs with
  | zero => exact Nat.zero_le _
  | succ n ih =>
    cases cs with
    | nil => exact Nat.zero_le _
    | cons c cs =>
      cases htag : readEscapedTag? (c :: cs) with
      | some found =>
        obtain ⟨slashes, tag, rest⟩ := found
        exact Nat.le_of_lt (plainLength_parts_lt htag (ih rest))
      | none =>
        simp only [parts, htag, plainLength_putBefore, List.length_cons]
        exact Nat.succ_le_succ (ih cs)

/-- If the plain parts are as long as the text, no tag begins in it. -/
theorem holdsNoTag_of_plainLength_eq {n : Nat} {cs : List Char}
    (h : plainLength (parts n cs) = cs.length) : HoldsNoTag cs := by
  induction n generalizing cs with
  | zero =>
    obtain rfl : cs = [] := List.length_eq_zero_iff.1 h.symm
    decide
  | succ n ih =>
    cases cs with
    | nil => decide
    | cons c cs =>
      cases htag : readEscapedTag? (c :: cs) with
      | some found =>
        obtain ⟨slashes, tag, rest⟩ := found
        have hlt := plainLength_parts_lt htag (plainLength_parts_le n rest)
        omega
      | none =>
        simp only [parts, htag, plainLength_putBefore, List.length_cons] at h
        have hrest := ih (Nat.succ.inj h)
        intro rest hmem
        rw [List.tails_cons, List.mem_cons] at hmem
        rcases hmem with rfl | hmem
        · exact readTag?_eq_none_of_readEscapedTag? htag
        · exact hrest rest hmem

/-- A text in which no tag begins is a single part, if it is not empty. -/
theorem parts_of_holdsNoTag {n : Nat} {cs : List Char} (h : HoldsNoTag cs) (hn : cs.length ≤ n)
    (hne : cs ≠ []) : parts n cs = [.plain cs] := by
  induction n generalizing cs with
  | zero => exact absurd (List.length_eq_zero_iff.1 (Nat.le_zero.1 hn)) hne
  | succ n ih =>
    cases cs with
    | nil => contradiction
    | cons c cs =>
      simp only [parts, h.readEscapedTag?_eq_none]
      cases cs with
      | nil => cases n <;> rfl
      | cons d cs => rw [ih h.tail (Nat.le_of_succ_le_succ hn) (by simp)]; rfl

/-! ## What shows -/

/-- Dropping backslashes leaves no more characters. -/
theorem length_dropSlashes_le (cs : List Char) : (dropSlashes cs).length ≤ cs.length := by
  fun_induction dropSlashes cs with
  | case1 rest ih =>
    simp only [List.length_cons]
    omega
  | case2 c rest _ ih =>
    simp only [List.length_cons]
    omega
  | case3 => exact Nat.le_refl _

/-- If dropping backslashes leaves as many characters, no bracket was escaped. -/
theorem holdsNoEscape_of_length_eq {cs : List Char} (h : (dropSlashes cs).length = cs.length) :
    HoldsNoEscape cs := by
  fun_induction dropSlashes cs with
  | case1 rest ih =>
    have hle := length_dropSlashes_le rest
    simp only [List.length_cons] at h
    omega
  | case2 c rest hne ih =>
    have hrest := ih (Nat.succ.inj h)
    intro suffix hmem
    rw [List.tails_cons, List.mem_cons] at hmem
    rcases hmem with rfl | hmem
    · rintro ⟨after, hafter⟩
      obtain ⟨rfl, rfl⟩ := List.cons.inj hafter
      exact hne after rfl rfl
    · exact hrest suffix hmem
  | case3 => decide

/-- Where no bracket is escaped, no backslash is dropped. -/
theorem HoldsNoEscape.dropSlashes_eq {cs : List Char} (h : HoldsNoEscape cs) :
    dropSlashes cs = cs := by
  fun_induction dropSlashes cs with
  | case1 rest ih =>
    exact absurd ⟨rest, rfl⟩ (h _ (by rw [List.tails_cons]; exact List.mem_cons_self))
  | case2 c rest hne ih =>
    rw [ih fun suffix hmem => h suffix (by rw [List.tails_cons]; exact List.mem_cons_of_mem _ hmem)]
  | case3 => rfl

/-- What shows of parts without emoji is no longer than the plain ones, whatever is open. -/
theorem length_le_of_showParts {dialect : Dialect} {ps : List Part} {opened : List Opened}
    {out : List Char} (h : showParts dialect.withoutEmoji opened ps = .ok out) :
    out.length ≤ plainLength ps := by
  induction ps generalizing opened out with
  | nil =>
    cases h
    exact Nat.le_refl _
  | cons part rest ih =>
    cases part with
    | plain cs =>
      cases hrest : showParts dialect.withoutEmoji opened rest with
      | error e =>
        rw [showParts, hrest] at h
        cases h
      | ok shown =>
        rw [showParts, hrest, dialect.replace_withoutEmoji] at h
        cases h
        have hle := length_dropSlashes_le cs
        have hshown := ih hrest
        simp only [plainLength, List.length_append]
        omega
    | tag cs =>
      cases hopen : openAfter dialect.withoutEmoji opened cs with
      | error e =>
        rw [showParts, hopen] at h
        cases h
      | ok after =>
        rw [showParts, hopen] at h
        exact ih h

/-- A text without an opening bracket is plain. -/
theorem isPlain_of_not_mem {cs : List Char} (h : '[' ∉ cs) : IsPlain cs := by
  have hsuffix : ∀ rest ∈ cs.tails, '[' ∉ rest := fun rest hrest hmem =>
    h (((List.mem_tails _ _).1 hrest).mem hmem)
  constructor
  · intro rest hrest
    rw [Option.eq_none_iff_forall_ne_some]
    rintro ⟨tag, after⟩ htag
    obtain ⟨c, inner, rfl, -, -, rfl⟩ := readTag?_eq_some_iff.1 htag
    exact hsuffix _ hrest (by simp)
  · rintro rest hrest ⟨after, rfl⟩
    exact hsuffix _ hrest (by simp)

section Render

variable (dialect : Dialect)

/-- A plain text shows with the emoji for its codes. -/
theorem IsPlain.render_eq {cs : List Char} (h : IsPlain cs) :
    render cs dialect = .ok (dialect.replace cs) := by
  unfold render
  split_ifs with hbracket
  · have hne : cs ≠ [] := by
      rintro rfl
      contradiction
    rw [parts_of_holdsNoTag h.1 (Nat.le_refl _) hne, showParts, h.2.dropSlashes_eq, showParts]
    exact congrArg Except.ok (List.append_nil _)
  · rfl

variable {dialect}

/-- What shows of a text without emoji is no longer than the text. -/
theorem length_le_of_render {cs out : List Char}
    (h : render cs dialect.withoutEmoji = .ok out) : out.length ≤ cs.length := by
  unfold render at h
  split_ifs at h
  · exact (length_le_of_showParts h).trans (plainLength_parts_le _ cs)
  · rw [dialect.replace_withoutEmoji] at h
    cases h
    exact Nat.le_refl _

/-- If as many characters show without emoji as the text has, the text is plain. -/
theorem isPlain_of_render {cs out : List Char}
    (h : render cs dialect.withoutEmoji = .ok out) (hlength : out.length = cs.length) :
    IsPlain cs := by
  unfold render at h
  split_ifs at h with hbracket
  · -- All characters are in plain parts, so there is one part, the text itself.
    have hshown := length_le_of_showParts h
    have hle := plainLength_parts_le cs.length cs
    have hnotag : HoldsNoTag cs := holdsNoTag_of_plainLength_eq (n := cs.length) (by omega)
    refine ⟨hnotag, holdsNoEscape_of_length_eq ?_⟩
    have hne : cs ≠ [] := by
      rintro rfl
      contradiction
    have hparts := parts_of_holdsNoTag hnotag (Nat.le_refl _) hne
    rw [hparts, showParts, showParts, dialect.replace_withoutEmoji, Except.map] at h
    obtain rfl : dropSlashes cs ++ [] = out := Except.ok.inj h
    rwa [List.append_nil] at hlength
  · exact isPlain_of_not_mem (by simpa using hbracket)

/-- Without emoji markup leaves exactly the plain texts alone. -/
theorem render_eq_self_iff (cs : List Char) :
    render cs dialect.withoutEmoji = .ok cs ↔ IsPlain cs := by
  refine ⟨fun h => isPlain_of_render h rfl, fun h => ?_⟩
  rw [h.render_eq, dialect.replace_withoutEmoji]

end Render

/-! ## Markup without codes -/

/-- The characters of a part. -/
def Part.chars : Part → List Char
  | plain cs | tag cs => cs

/-- The marks of parts. -/
def partMarks (ps : List Part) : List Char := ps.flatMap fun part => marks part.chars

/-- Backslashes have no marks. -/
theorem marks_replicate (n : Nat) : marks (List.replicate n '\\') = [] :=
  List.filter_eq_nil_iff.2 fun c hc => by
    obtain rfl := List.eq_of_mem_replicate hc
    decide

/-- Brackets have no marks. -/
theorem marks_bracketed (cs : List Char) : marks ('[' :: cs ++ [']']) = marks cs := by
  have hopen : marks ['['] = [] := rfl
  have hclose : marks [']'] = [] := rfl
  rw [List.cons_append, marks_cons, marks_append, hopen, hclose, List.nil_append, List.append_nil]

/-- A character before parts adds its mark. -/
theorem partMarks_putBefore (c : Char) (ps : List Part) :
    partMarks (putBefore c ps) = marks [c] ++ partMarks ps := by
  rw [putBefore.eq_def]
  split
  · rw [partMarks, partMarks, List.flatMap_cons, List.flatMap_cons, Part.chars, Part.chars,
      marks_cons, List.append_assoc]
  · rfl

/-- The parts of a text have its marks, in their order. -/
theorem partMarks_parts_isPrefix (n : Nat) (cs : List Char) :
    partMarks (parts n cs) <+: marks cs := by
  induction n generalizing cs with
  | zero => exact List.nil_prefix
  | succ n ih =>
    cases cs with
    | nil => exact List.nil_prefix
    | cons c rest =>
      cases htag : readEscapedTag? (c :: rest) with
      | none =>
        simp only [parts, htag, partMarks_putBefore]
        rw [marks_cons c rest]
        exact (List.prefix_append_right_inj _).2 (ih rest)
      | some found =>
        -- The backslashes before a tag and its brackets have no marks.
        obtain ⟨slashes, tag, rest'⟩ := found
        have hsplit : c :: rest =
            List.replicate slashes '\\' ++ (('[' :: tag ++ [']']) ++ rest') := by
          rw [eq_of_readEscapedTag?_eq_some htag, List.append_assoc]
          rfl
        have hmarks : partMarks (parts (n + 1) (c :: rest)) =
            marks tag ++ partMarks (parts n rest') := by
          simp only [parts, htag]
          split_ifs <;>
            simp only [partMarks, List.flatMap_append, List.flatMap_cons, List.flatMap_nil,
              Part.chars, marks_replicate, marks_bracketed, List.nil_append]
        rw [hmarks, hsplit, marks_append, marks_replicate, List.nil_append, marks_append,
          marks_bracketed]
        exact (List.prefix_append_right_inj _).2 (ih rest')

/-- The parts of a text without codes have none. -/
theorem holdsNoCode_of_mem_parts {cs : List Char} (h : HoldsNoCode cs) {n : Nat} {part : Part}
    (hpart : part ∈ parts n cs) : HoldsNoCode part.chars := by
  have htogether : marks part.chars <:+: partMarks (parts n cs) :=
    List.infix_of_mem_flatten (List.mem_map_of_mem hpart)
  exact h.of_isInfix (htogether.trans (partMarks_parts_isPrefix n cs).isInfix)

/-- Dropping backslashes leaves the marks. -/
theorem marks_dropSlashes (cs : List Char) : marks (dropSlashes cs) = marks cs := by
  fun_induction dropSlashes cs with
  | case1 rest ih =>
    rw [marks_cons, ih, marks_cons '\\', marks_cons '[' rest]
    rfl
  | case2 c rest _ ih => rw [marks_cons, ih, ← marks_cons]
  | case3 => rfl

/-- Parts without codes show the same without emoji. -/
theorem showParts_of_holdsNoCode (dialect : Dialect) {ps : List Part}
    (h : ∀ part ∈ ps, HoldsNoCode part.chars) (opened : List Opened) :
    showParts dialect opened ps = showParts dialect.withoutEmoji opened ps := by
  induction ps generalizing opened with
  | nil => rfl
  | cons part rest ih =>
    obtain ⟨hpart, hrest⟩ := List.forall_mem_cons.1 h
    cases part with
    | plain cs =>
      have hdropped : HoldsNoCode (dropSlashes cs) :=
        HoldsNoCode.of_isInfix hpart (marks_dropSlashes cs ▸ List.infix_rfl)
      rw [showParts, showParts, ih hrest, dialect.replace_of_holdsNoCode hdropped,
        dialect.replace_withoutEmoji]
    | tag cs =>
      -- What a tag opens or closes has nothing to do with emoji.
      have hopen : openAfter dialect opened cs = openAfter dialect.withoutEmoji opened cs := rfl
      rw [showParts, showParts, hopen]
      cases openAfter dialect.withoutEmoji opened cs with
      | error error => rfl
      | ok after => exact ih hrest after

/-- A text without codes shows the same without emoji. -/
theorem render_of_holdsNoCode (dialect : Dialect) {cs : List Char} (h : HoldsNoCode cs) :
    render cs dialect = render cs dialect.withoutEmoji := by
  unfold render
  rw [showParts_of_holdsNoCode dialect fun part hpart => holdsNoCode_of_mem_parts h hpart,
    dialect.replace_of_holdsNoCode h, dialect.replace_withoutEmoji]

end ArgScan.Console.Markup
