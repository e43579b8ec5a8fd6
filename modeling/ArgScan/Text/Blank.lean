/-!
# Blank characters

The characters that a reader of names and settings trims from both ends of a text: the Unicode
white space and the four information separators. Trimming is stated on lists of characters, where it
is two `dropWhile`s, and lifted to strings.
-/

namespace ArgScan.Text

/-- A blank character: Unicode white space, or one of the separators U+001C to U+001F. -/
def isBlank (c : Char) : Bool :=
  let n := c.toNat
  (9 ≤ n && n ≤ 13) || (28 ≤ n && n ≤ 32) || n == 0x85 || n == 0xA0 || n == 0x1680 ||
    (0x2000 ≤ n && n ≤ 0x200A) || n == 0x2028 || n == 0x2029 || n == 0x202F || n == 0x205F ||
    n == 0x3000

/-- The characters without the trailing ones that satisfy `p`. -/
def dropEndWhile (p : Char → Bool) (cs : List Char) : List Char :=
  (cs.reverse.dropWhile p).reverse

/-- The characters without the blanks at either end. -/
def trim (cs : List Char) : List Char :=
  dropEndWhile isBlank (cs.dropWhile isBlank)

/-- Characters that satisfy `p` go from the end with those before them that do. -/
theorem dropEndWhile_append_of_pos {p : Char → Bool} (cs : List Char) {back : List Char}
    (h : ∀ c ∈ back, p c = true) : dropEndWhile p (cs ++ back) = dropEndWhile p cs := by
  unfold dropEndWhile
  rw [List.reverse_append, List.dropWhile_append_of_pos fun c hc => h c (List.mem_reverse.1 hc)]

/-- Blanks at either end do not count. -/
theorem trim_append_append {front back : List Char} (hfront : ∀ c ∈ front, isBlank c = true)
    (hback : ∀ c ∈ back, isBlank c = true) (cs : List Char) :
    trim (front ++ cs ++ back) = trim cs := by
  unfold trim
  rw [List.append_assoc, List.dropWhile_append_of_pos hfront, List.dropWhile_append]
  split
  · -- All of the text is blank.
    rename_i hnil
    have hnone : (back ++ []).dropWhile isBlank = [].dropWhile isBlank :=
      List.dropWhile_append_of_pos hback
    rw [List.append_nil, List.dropWhile_nil] at hnone
    rw [hnone, List.isEmpty_iff.1 hnil]
  · exact dropEndWhile_append_of_pos _ hback

/-- Exchanging characters for others that are as blank may come before or after the trimming. -/
theorem map_trim {f : Char → Char} (hf : ∀ c, isBlank (f c) = isBlank c) (cs : List Char) :
    (trim cs).map f = trim (cs.map f) := by
  have hblank : isBlank ∘ f = isBlank := funext hf
  unfold trim dropEndWhile
  rw [List.dropWhile_map, hblank, ← List.map_reverse, List.dropWhile_map, hblank, List.map_reverse]

/-- The visible ASCII characters are not blank. -/
theorem isBlank_eq_false_of_visible {c : Char} (hlow : 33 ≤ c.toNat) (hhigh : c.toNat ≤ 126) :
    isBlank c = false := by
  simp only [isBlank, Bool.or_eq_false_iff, Bool.and_eq_false_iff, beq_eq_false_iff_ne,
    decide_eq_false_iff_not]
  omega

end ArgScan.Text
