/-!
# Letters without case

Names of kinds and facets are ASCII words that may be written in any case. Unicode folds exactly
one character from outside ASCII onto an ASCII small letter, the Kelvin sign, and raises exactly two
to a single ASCII capital, the long s and the dotless i. Whatever else a text holds keeps a
character that no ASCII word has, so these rules settle every comparison with an ASCII word.
-/

namespace ArgScan.Text

/-- The small form of a letter, as far as an ASCII word can tell. -/
def lowerLetter (c : Char) : Char :=
  if c = '\u212a' then 'k' else c.toLower

/-- The capital form of a letter, as far as an ASCII word can tell. -/
def upperLetter (c : Char) : Char :=
  if c = '\u017f' then 'S' else if c = '\u0131' then 'I' else c.toUpper

/-- An ASCII capital has a small form further on, and any other character is its own. -/
theorem toLower_eq_self_or (c : Char) :
    c.toLower = c ∨ 65 ≤ c.toNat ∧ c.toNat ≤ 90 ∧ c.toLower.toNat = c.toNat + 32 := by
  unfold Char.toLower
  split
  · rename_i hupper
    have hlow : 65 ≤ c.toNat := UInt32.le_iff_toNat_le.1 hupper.1
    have hhigh : c.toNat ≤ 90 := UInt32.le_iff_toNat_le.1 hupper.2
    have hsmall : (c.val + ('a'.val - 'A'.val)).toNat = c.toNat + 32 := by
      rw [UInt32.toNat_add]
      exact Nat.mod_eq_of_lt (by change c.toNat + 32 < _; omega)
    exact .inr ⟨hlow, hhigh, hsmall⟩
  · exact .inl rfl

end ArgScan.Text
