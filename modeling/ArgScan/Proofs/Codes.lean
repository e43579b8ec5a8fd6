import ArgScan.Console.Dialect
import Mathlib.Data.List.Infix
import Mathlib.Data.List.TakeWhile

/-!
# Texts without codes

A console may know an emoji for any name, and shows it where the name stands between colons. A text
has no such place if there is a blank between any two colons of it (`HoldsNoCode`), and then no
console changes it (`Dialect.replace_of_holdsNoCode`). A console without emoji changes no text at
all (`Dialect.replace_withoutEmoji`).

The condition is about the colons and blanks of a text alone, its marks. So it is left as it is when
other characters are taken out.
-/

namespace ArgScan.Console

/-- The colons and blanks of a text, in their order. -/
def marks (cs : List Char) : List Char := cs.filter fun c => c = ':' || Text.isBlank c

/-- There is a blank between any two colons of the text. -/
def HoldsNoCode (cs : List Char) : Prop := ¬ [':', ':'] <:+: marks cs

instance (cs : List Char) : Decidable (HoldsNoCode cs) := inferInstanceAs (Decidable (¬ _))

/-! ## Codes in a text -/

/-- The marks of two texts, one after the other. -/
theorem marks_append (xs ys : List Char) : marks (xs ++ ys) = marks xs ++ marks ys :=
  List.filter_append xs ys

/-- The marks of a text come behind that of a character before it. -/
theorem marks_cons (c : Char) (cs : List Char) : marks (c :: cs) = marks [c] ++ marks cs :=
  marks_append [c] cs

/-- A text whose marks are together in a text without codes has none either. -/
theorem HoldsNoCode.of_isInfix {xs ys : List Char} (h : HoldsNoCode ys)
    (hmarks : marks xs <:+: marks ys) : HoldsNoCode xs := fun hcode => h (hcode.trans hmarks)

/-- There is no code behind the first character either. -/
theorem HoldsNoCode.tail {c : Char} {cs : List Char} (h : HoldsNoCode (c :: cs)) :
    HoldsNoCode cs :=
  h.of_isInfix (marks_cons c cs ▸ (List.suffix_append _ _).isInfix)

/-- The code that a text begins with has no marks but its two colons. -/
theorem of_readCode?_eq_some {cs name rest : List Char} (h : readCode? cs = some (name, rest)) :
    cs = ':' :: name ++ ':' :: rest ∧ marks name = [] := by
  unfold readCode? at h
  split at h
  next after =>
    have hafter : after = after.takeWhile (fun c => c ≠ ':' && !Text.isBlank c) ++
        after.drop (after.takeWhile (fun c => c ≠ ':' && !Text.isBlank c)).length :=
      List.prefix_append_drop (List.takeWhile_prefix _)
    have hname : marks (after.takeWhile fun c => c ≠ ':' && !Text.isBlank c) = [] := by
      refine List.filter_eq_nil_iff.2 fun c hc => ?_
      simpa using List.mem_takeWhile_imp hc
    dsimp only at h
    split at h
    next rest' hrest =>
      obtain ⟨rfl, rfl⟩ := Prod.mk.inj (Option.some.inj h)
      rw [hrest] at hafter
      exact ⟨congrArg (':' :: ·) hafter, hname⟩
    next => contradiction
  next => contradiction

/-- A text without codes begins with none. -/
theorem HoldsNoCode.readCode?_eq_none {cs : List Char} (h : HoldsNoCode cs) :
    readCode? cs = none := by
  rw [Option.eq_none_iff_forall_ne_some]
  rintro ⟨name, rest⟩ hcode
  obtain ⟨rfl, hname⟩ := of_readCode?_eq_some hcode
  have hcolon : marks [':'] = [':'] := rfl
  apply h
  rw [List.cons_append, marks_cons, marks_append, marks_cons ':' rest, hname, hcolon]
  exact (List.prefix_append [':', ':'] (marks rest)).isInfix

/-- Only a colon begins a code. -/
theorem readCode?_cons_of_ne {c : Char} (h : c ≠ ':') (cs : List Char) :
    readCode? (c :: cs) = none := by
  unfold readCode?
  split
  · next heq => exact absurd (List.cons.inj heq).1 h
  · rfl

namespace Dialect

variable (dialect : Dialect)

/-- The dialect without its emoji. -/
def withoutEmoji : Dialect := { dialect with emoji? := fun _ => none }

/-- A text without codes stays as it is. -/
theorem replace_of_holdsNoCode {cs : List Char} (h : HoldsNoCode cs) : dialect.replace cs = cs := by
  have hall (n : Nat) : dialect.replaceCodes n cs = cs := by
    induction n generalizing cs with
    | zero => rfl
    | succ n ih =>
      cases cs with
      | nil => rfl
      | cons c rest => simp only [replaceCodes, h.readCode?_eq_none, ih h.tail]
  exact hall cs.length

/-- Without emoji a code stands for itself. -/
theorem codeText_withoutEmoji (name : List Char) :
    dialect.withoutEmoji.codeText name = ':' :: name ++ [':'] := by
  unfold codeText
  cases forms.find? fun form => form.1.isSuffixOf name <;> rfl

/-- Without emoji every text stays as it is. -/
theorem replace_withoutEmoji (cs : List Char) : dialect.withoutEmoji.replace cs = cs := by
  have hall (n : Nat) : dialect.withoutEmoji.replaceCodes n cs = cs := by
    induction n generalizing cs with
    | zero => rfl
    | succ n ih =>
      cases cs with
      | nil => rfl
      | cons c rest =>
        cases hcode : readCode? (c :: rest) with
        | none => simp only [replaceCodes, hcode, ih]
        | some found =>
          obtain ⟨name, rest'⟩ := found
          simp only [replaceCodes, hcode, ih, codeText_withoutEmoji]
          rw [(of_readCode?_eq_some hcode).1, List.append_assoc]
          rfl
  exact hall cs.length

/-- In the plain dialect every text stays as it is. -/
theorem replace_plain (cs : List Char) : plain.replace cs = cs := plain.replace_withoutEmoji cs

/-- A character that is no colon stays where it is. -/
theorem replace_cons_of_ne {c : Char} (h : c ≠ ':') (cs : List Char) :
    dialect.replace (c :: cs) = c :: dialect.replace cs := by
  simp only [replace, List.length_cons, replaceCodes, readCode?_cons_of_ne h]

end Dialect

end ArgScan.Console
