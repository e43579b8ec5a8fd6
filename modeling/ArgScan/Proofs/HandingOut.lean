import ArgScan.Proofs.Runs
import ArgScan.Rendering

/-!
# Handing out a rendering

A rendering hands out its tokens in three ways: one at a time with nothing at the end, one at a time
with a refusal at the end, and all that remain at once. It can also be looked at. This module shows
that over any run of such uses every token is handed out once, in order, and that only the uses that
hand out tokens change anything (`run_hands_out_once`).

What a run keeps is that the tokens handed out so far, followed by those that remain, are the first
ones. One use keeps it (`handedOut_append_use`), and so does a run (`run_continues`). The end is
told by `none` or by a refusal, so that an empty token is a token like any other.
-/

namespace ArgScan.Rendering

/-! ## Uses and what they tell -/

/-- A use of a rendering. -/
inductive Use where
  /-- To take the next token, or nothing. -/
  | takeNext
  /-- To take the next token, or to be refused. -/
  | next
  /-- To take all that remain. -/
  | takeAll
  /-- To look at the tokens that remain. -/
  | tokens
  /-- To ask for the form. -/
  | form
  /-- To ask for the number of tokens. -/
  | size
  /-- To ask for the tokens joined. -/
  | joined
  /-- To ask for the literal. -/
  | literal
  /-- To compare it with a rendering, or with anything else. -/
  | equals (other : Option Rendering)

namespace Use

/-- What a use gives. -/
abbrev Reply : Use → Type
  | takeNext => Option String
  | next => Except Exhausted String
  | takeAll | tokens => List String
  | form => Form
  | size => Nat
  | joined | literal => String
  | equals _ => Bool

/-- Whether a use hands out tokens. -/
def handsOut : Use → Bool
  | takeNext | next | takeAll => true
  | _ => false

/-- The tokens that a reply hands out. -/
def handedOut : (u : Use) → u.Reply → List String
  | takeNext, token => token.toList
  | next, .ok token => [token]
  | next, .error _ => []
  | takeAll, all => all
  | tokens, _ | form, _ | size, _ | joined, _ | literal, _ | equals _, _ => []

/-- A reply that tells the end: nothing, the refusal, or no tokens at all. -/
def TellsEnd : (u : Use) → u.Reply → Prop
  | takeNext, token => token = Option.none
  | next, outcome => outcome = .error ⟨⟩
  | takeAll, all => all = []
  | tokens, _ | form, _ | size, _ | joined, _ | literal, _ | equals _, _ => False

end Use

/-- Uses a rendering: the reply, and what remains. Anything that is no rendering is not equal to
one. -/
def use (r : Rendering) : (u : Use) → u.Reply × Rendering
  | .takeNext => r.takeNext
  | .next => r.next
  | .takeAll => r.takeAll
  | .tokens => (r.tokens, r)
  | .form => (r.form, r)
  | .size => (r.size, r)
  | .joined => (r.joined, r)
  | .literal => (r.literal, r)
  | .equals other => (decide (other = some r), r)

/-- A use that was made of a rendering. -/
structure Turn where
  /-- The use. -/
  use : Use
  /-- What it gave. -/
  reply : use.Reply
  /-- The rendering before. -/
  before : Rendering
  /-- The rendering after. -/
  after : Rendering

namespace Turn

/-- The tokens that were handed out. -/
def handedOut (x : Turn) : List String := x.use.handedOut x.reply

/-- The end was told. -/
def TellsEnd (x : Turn) : Prop := x.use.TellsEnd x.reply

end Turn

/-- The turn of a use. -/
def turn (r : Rendering) (u : Use) : Turn :=
  { use := u, reply := (r.use u).1, before := r, after := (r.use u).2 }

/-- Uses a rendering again and again. -/
def run (r : Rendering) : List Use → List Turn
  | [] => []
  | u :: later => r.turn u :: (r.turn u).after.run later

/-- Asking for one token after the other gives these tokens until it is refused, and then leaves the
last rendering. -/
inductive Drains : Rendering → List String → Rendering → Prop
  /-- Nothing remains. -/
  | refused {r last : Rendering} (h : r.next = (.error ⟨⟩, last)) : Drains r [] last
  /-- A token is given, and then the others. -/
  | given {r rest last : Rendering} {token : String} {tokens : List String}
      (h : r.next = (.ok token, rest)) (hrest : Drains rest tokens last) :
      Drains r (token :: tokens) last

/-- What a reply tells of the rendering before, beyond the tokens that it hands out: all tokens at
once are those that are given one by one, and every look sees what remains. -/
def Tells (before after : Rendering) : (u : Use) → u.Reply → Prop
  | .takeNext, _ | .next, _ => True
  | .takeAll, tokens => before.Drains tokens after
  | .tokens, tokens => tokens = before.tokens
  | .form, form => form.count = before.tokens.length
  | .size, n => n = before.tokens.length
  | .joined, text => text.toList = before.tokens.flatMap String.toList
  | .literal, text => text = before.literal
  | .equals other, isEqual => isEqual = true ↔ ∃ r, other = some r ∧ r.tokens = before.tokens

/-- A turn goes on with a rendering after earlier turns: what was handed out so far and what remains
are the first tokens, nothing is given back, the end is told when none remain and always thereafter,
and looks are true and change nothing. -/
structure Turn.Continues (x : Turn) (start : Rendering) (earlier : List Turn) : Prop where
  /-- It finds what the last turn left. -/
  before_eq : x.before = earlier.foldl (fun _ y => y.after) start
  /-- The tokens handed out so far and those that remain are the first ones, in order. -/
  handedOut_append : (earlier ++ [x]).flatMap Turn.handedOut ++ x.after.tokens = start.tokens
  /-- The form has as many tokens as remain. -/
  count_form : x.after.form.count = x.after.tokens.length
  /-- The size is the number of tokens that remain. -/
  size_eq : x.after.size = x.after.tokens.length
  /-- There are no more tokens than before it. -/
  after_le : x.after.size ≤ x.before.size
  /-- Before it there are no more than at first. -/
  before_le : x.before.size ≤ start.size
  /-- Before it there are no more than after an earlier turn. -/
  before_le_earlier : ∀ y ∈ earlier, x.before.size ≤ y.after.size
  /-- A use that hands out tokens tells the end exactly if none remain. -/
  tellsEnd_iff : x.use.handsOut = true → (x.TellsEnd ↔ x.before.tokens = [])
  /-- Once the end was told, it is told again by every such use. -/
  tellsEnd_of_earlier : ∀ y ∈ earlier, y.TellsEnd → x.use.handsOut = true → x.TellsEnd
  /-- The other uses change nothing. -/
  after_eq : x.use.handsOut = false → x.after = x.before
  /-- The reply is true of what remained. -/
  tells : Tells x.before x.after x.use x.reply

/-! ## One use -/

variable {r : Rendering}

/-- What a rendering can do when it is asked for a token. -/
theorem takeNext_cases (r : Rendering) :
    (r.tokens = [] ∧ r.takeNext = (Option.none, r)) ∨
      ∃ token rest, r.tokens = token :: rest.tokens ∧ r.takeNext = (some token, rest) := by
  obtain ⟨tokens, hle⟩ := r
  cases tokens with
  | nil => exact .inl ⟨rfl, rfl⟩
  | cons token rest => exact .inr ⟨token, ⟨rest, Nat.le_of_succ_le hle⟩, rfl, rfl⟩

/-- What a rendering can do when it may refuse. -/
theorem next_cases (r : Rendering) :
    (r.tokens = [] ∧ r.next = (.error ⟨⟩, r)) ∨
      ∃ token rest, r.tokens = token :: rest.tokens ∧ r.next = (.ok token, rest) := by
  unfold next
  obtain ⟨htokens, htake⟩ | ⟨token, rest, htokens, htake⟩ := r.takeNext_cases
  · rw [htake]
    exact .inl ⟨htokens, rfl⟩
  · rw [htake]
    exact .inr ⟨token, rest, htokens, rfl⟩

/-- All tokens at once are those that are given one after another. -/
theorem drains_takeAll (r : Rendering) : r.Drains r.takeAll.1 r.takeAll.2 := by
  obtain ⟨tokens, hle⟩ := r
  induction tokens with
  | nil => exact .refused rfl
  | cons token rest ih => exact .given rfl (ih (Nat.le_of_succ_le hle))

/-- The form has as many tokens as remain. -/
theorem count_form (r : Rendering) : r.form.count = r.tokens.length := by
  obtain ⟨tokens, hle⟩ := r
  match tokens, hle with
  | [], _ => rfl
  | [_], _ => rfl
  | [_, _], _ => rfl

/-- The tokens that a use hands out, followed by those that it leaves, are those that remained. -/
theorem handedOut_append_use (r : Rendering) (u : Use) :
    u.handedOut (r.use u).1 ++ (r.use u).2.tokens = r.tokens := by
  cases u with
  | takeNext =>
    obtain ⟨-, htake⟩ | ⟨token, rest, htokens, htake⟩ := r.takeNext_cases
    · rw [use, htake]
      rfl
    · rw [use, htake, htokens]
      rfl
  | next =>
    obtain ⟨-, hnext⟩ | ⟨token, rest, htokens, hnext⟩ := r.next_cases
    · rw [use, hnext]
      rfl
    · rw [use, hnext, htokens]
      rfl
  | takeAll => exact List.append_nil _
  | _ => rfl

/-- A use that hands out tokens tells the end exactly if none remain. -/
theorem tellsEnd_use_iff (r : Rendering) {u : Use} (h : u.handsOut = true) :
    u.TellsEnd (r.use u).1 ↔ r.tokens = [] := by
  cases u with
  | takeNext =>
    obtain ⟨htokens, htake⟩ | ⟨token, rest, htokens, htake⟩ := r.takeNext_cases
    · rw [use, htake]
      exact iff_of_true rfl htokens
    · rw [use, htake, htokens]
      exact iff_of_false nofun nofun
  | next =>
    obtain ⟨htokens, hnext⟩ | ⟨token, rest, htokens, hnext⟩ := r.next_cases
    · rw [use, hnext]
      exact iff_of_true rfl htokens
    · rw [use, hnext, htokens]
      exact iff_of_false nofun nofun
  | takeAll => exact Iff.rfl
  | _ => exact nomatch h

/-- A use that hands out no tokens leaves the rendering as it is. -/
theorem use_of_not_handsOut (r : Rendering) {u : Use} (h : u.handsOut = false) :
    (r.use u).2 = r := by
  cases u with
  | takeNext => exact nomatch h
  | next => exact nomatch h
  | takeAll => exact nomatch h
  | _ => rfl

/-- Replies are true of what remained. -/
theorem tells_use (r : Rendering) (u : Use) : Tells r (r.use u).2 u (r.use u).1 := by
  cases u with
  | takeNext => trivial
  | next => trivial
  | takeAll => exact r.drains_takeAll
  | tokens => rfl
  | form => exact r.count_form
  | size => rfl
  | joined => exact String.toList_join
  | literal => rfl
  | equals other =>
    calc decide (other = some r) = true ↔ other = some r := decide_eq_true_iff
      _ ↔ ∃ r', other = some r' ∧ r' = r := by simp
      _ ↔ ∃ r', other = some r' ∧ r'.tokens = r.tokens := by simp only [Rendering.ext_iff]

/-! ## A run -/

/-- A use leaves no more tokens than remained. -/
theorem size_use_le (r : Rendering) (u : Use) : (r.use u).2.size ≤ r.size := by
  have hlength := congrArg List.length (r.handedOut_append_use u)
  rw [List.length_append] at hlength
  unfold size
  omega

/-- A use that tells the end leaves no tokens. -/
theorem size_use_of_tellsEnd {u : Use} (h : u.TellsEnd (r.use u).1) : (r.use u).2.size = 0 := by
  -- Only a use that hands out tokens can tell the end.
  have hout : u.handsOut = true := by
    cases u with
    | takeNext => rfl
    | next => rfl
    | takeAll => rfl
    | _ => exact h.elim
  have hle := r.size_use_le u
  unfold size at hle ⊢
  rw [(r.tellsEnd_use_iff hout).1 h] at hle
  exact Nat.le_zero.1 hle

/-- The first turn of a run goes on with the rendering. -/
theorem continues_turn (r : Rendering) (u : Use) : (r.turn u).Continues r [] where
  before_eq := rfl
  handedOut_append := by
    rw [List.nil_append, List.flatMap_singleton]
    exact r.handedOut_append_use u
  count_form := count_form _
  size_eq := rfl
  after_le := r.size_use_le u
  before_le := Nat.le_refl _
  before_le_earlier := nofun
  tellsEnd_iff := r.tellsEnd_use_iff
  tellsEnd_of_earlier := nofun
  after_eq := r.use_of_not_handsOut
  tells := r.tells_use u

/-- A turn that goes on with what a first turn left goes on with the rendering as it was before. -/
theorem Turn.Continues.cons {x : Turn} {u : Use} {earlier : List Turn}
    (h : x.Continues (r.turn u).after earlier) : x.Continues r (r.turn u :: earlier) where
  before_eq := h.before_eq
  handedOut_append :=
    calc ((r.turn u :: earlier) ++ [x]).flatMap Turn.handedOut ++ x.after.tokens
        = (r.turn u).handedOut ++ ((earlier ++ [x]).flatMap Turn.handedOut ++ x.after.tokens) := by
          rw [List.cons_append, List.flatMap_cons, List.append_assoc]
      _ = (r.turn u).handedOut ++ (r.turn u).after.tokens := by rw [h.handedOut_append]
      _ = r.tokens := r.handedOut_append_use u
  count_form := h.count_form
  size_eq := h.size_eq
  after_le := h.after_le
  before_le := Nat.le_trans h.before_le (r.size_use_le u)
  before_le_earlier := List.forall_mem_cons.2 ⟨h.before_le, h.before_le_earlier⟩
  tellsEnd_iff := h.tellsEnd_iff
  tellsEnd_of_earlier := by
    -- If the first turn told the end, then nothing was left for this one.
    refine List.forall_mem_cons.2 ⟨fun hfirst hout => ?_, h.tellsEnd_of_earlier⟩
    have hle : x.before.size ≤ 0 := size_use_of_tellsEnd hfirst ▸ h.before_le
    exact (h.tellsEnd_iff hout).2 (List.length_eq_zero_iff.1 (Nat.le_zero.1 hle))
  after_eq := h.after_eq
  tells := h.tells

/-- Every turn of a run goes on with the rendering after the turns before it. -/
theorem run_continues (r : Rendering) (uses : List Use) :
    (r.run uses).map Turn.use = uses ∧
      ∀ earlier x later, r.run uses = earlier ++ x :: later → x.Continues r earlier := by
  induction uses generalizing r with
  | nil => exact ⟨rfl, forall_split_nil⟩
  | cons u uses ih =>
    -- A turn after the first one is a turn of the run on what the first one left.
    obtain ⟨huses, hrest⟩ := ih (r.turn u).after
    exact ⟨congrArg (u :: ·) huses, forall_split_cons (r.continues_turn u)
      fun earlier x later hsplit => (hrest earlier x later hsplit).cons⟩

/-- A list of tokens makes a rendering of them exactly if there are no more than two. -/
theorem exists_ofTokens_iff (tokens : List String) :
    (∃ r, ofTokens tokens = .ok r ∧ r.tokens = tokens) ↔ tokens.length ≤ 2 := by
  constructor
  · rintro ⟨r, -, rfl⟩
    exact r.length_le
  · intro hle
    exact ⟨⟨tokens, hle⟩, dif_pos hle, rfl⟩

/-- A rendering hands out its tokens once and in order, whatever it is made of and however it is
used. Every list of at most two tokens makes one, and what a definition renders to is one. -/
theorem run_hands_out_once :
    (∀ tokens : List String, (∃ r, ofTokens tokens = .ok r ∧ r.tokens = tokens) ↔
      tokens.length ≤ 2) ∧
    ∀ (r : Rendering) (uses : List Use), (r.run uses).map Turn.use = uses ∧
      ∀ earlier x later, r.run uses = earlier ++ x :: later → x.Continues r earlier :=
  ⟨exists_ofTokens_iff, run_continues⟩

/-- An empty token is handed out like any other, and the end is told after it. -/
example : ((two "--name" "").run [.takeNext, .form, .next, .takeNext]).map Turn.handedOut =
    [["--name"], [], [""], []] := rfl

end ArgScan.Rendering
