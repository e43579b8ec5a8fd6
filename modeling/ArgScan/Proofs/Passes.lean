import ArgScan.Proofs.Fitting
import ArgScan.Proofs.Simulation

/-!
# The passes of a scan

A scan shortens the list that it walks over, and its position stays where tokens were taken. This
module shows that it never leaves the list and always ends. The argument carries one bound: the
position is at most the number of tokens. Where it holds, a state is the progress of a scan with the
tokens that are still to be read (`Scan.exists_eq_scan`), and from the steps of a progress it
follows that a pass succeeds, keeps the bound and leaves fewer tokens unread (`Scan.exists_step`).
Along passes one after another the bound then holds in every state that they lead to
(`Scan.Leads.unread_le`), and a run takes as many passes as it needs (`Scan.exists_leads_run`).

The value in a token is cut out behind a separator, and there is a separator without a width, the
one for the next token. It is never met there (`Definition.exists_width_of_claim?`).
-/

namespace ArgScan

/-! ## The value in a token -/

namespace Definition

variable {d : Definition}

/-- An ending that holds a value begins with a separator that has a width, and the value is all that
stands behind it. -/
theorem Reads.exists_width {ending : List Char} {value : String}
    (h : d.Reads ending (.inline value)) :
    ∃ separator width, d.facets.separatorFor ending = some separator ∧
      separator.width? = some width ∧ value.toList = ending.drop width := by
  cases h with
  | equals cs _ he =>
    exact ⟨.equals, 1, Facets.separatorFor_equals he cs, rfl, String.toList_ofList⟩
  | attached cs _ ha hequals hnext =>
    rw [← Facets.allowsNextToken_eq_true_iff] at hnext
    exact ⟨.attached, 0, Facets.separatorFor_of_attached ha hequals hnext, rfl,
      String.toList_ofList⟩

/-- The value in a token is what stands behind its hyphens, one of the names, and a separator that
has a width. -/
theorem exists_width_of_claim? {token value : String}
    (h : d.claim? token = some (.inline value)) :
    ∃ name ∈ d.names, ∃ separator width,
      d.facets.separatorFor (token.toList.drop (hyphenCount token + name.length)) =
        some separator ∧
      separator.width? = some width ∧
      value.toList = token.toList.drop (hyphenCount token + name.length + width) := by
  obtain ⟨name, ending, hfits, hreads⟩ := claim?_eq_some_iff_firstFits.1 h
  obtain ⟨separator, width, hseparator, hwidth, hvalue⟩ := hreads.exists_width
  have hending : token.toList.drop (hyphenCount token + name.length) = ending := by
    rw [← List.drop_drop, hfits.fits.body, ← String.length_toList, List.drop_left]
  refine ⟨name, hfits.mem_names, separator, width, ?_, hwidth, ?_⟩
  · rw [hending, hseparator]
  · rw [← List.drop_drop, hending, hvalue]

end Definition

namespace Scan

variable {s s' : Scan} {passes : Nat}

/-! ## One pass -/

/-- The number of tokens that no pass has looked at. -/
def unread (s : Scan) : Nat := s.tokens.length - s.position

/-- A state whose position is not beyond the tokens is the progress of a scan, with the tokens that
are still to be read. -/
theorem exists_eq_scan (h : s.position ≤ s.tokens.length) :
    ∃ (p : Progress) (rest : List String), s = p.scan rest ∧ rest.length = s.unread := by
  refine ⟨{ tallies := s.tallies, kept := s.tokens.take s.position, notices := s.notices },
    s.tokens.drop s.position, ?_, List.length_drop⟩
  unfold Progress.scan
  rw [List.take_append_drop, List.length_take_of_le h]

/-- The tokens that a progress has still to read are unread. -/
theorem unread_scan (p : Progress) (rest : List String) : (p.scan rest).unread = rest.length := by
  show (p.kept ++ rest).length - p.kept.length = rest.length
  rw [List.length_append, Nat.add_sub_cancel_left]

/-- The position of a progress is not beyond its tokens. -/
theorem position_scan_le (p : Progress) (rest : List String) :
    (p.scan rest).position ≤ (p.scan rest).tokens.length := by
  show p.kept.length ≤ (p.kept ++ rest).length
  rw [List.length_append]
  exact Nat.le_add_right _ _

/-- A definition can be tried at every position of the tokens. -/
theorem exists_takeAt (d : Definition) (h : s.position < s.tokens.length) :
    ∃ probe, d.takeAt s.position s.tokens = .ok probe := by
  obtain ⟨p, rest, hs, hlength⟩ := exists_eq_scan (Nat.le_of_lt h)
  cases rest with
  | nil =>
    rw [List.length_nil, unread] at hlength
    omega
  | cons t rest =>
    have htake := d.takeAt_append p.kept t rest
    rw [hs]
    cases hc : d.claim? t with
    | none =>
      rw [hc] at htake
      exact ⟨_, htake⟩
    | some c =>
      rw [hc] at htake
      exact ⟨_, htake⟩

/-- While there are unread tokens a pass succeeds. It keeps the position within the tokens, and
leaves fewer of them unread. -/
theorem exists_step (h : s.position < s.tokens.length) :
    ∃ next, s.step = .ok (some next) ∧ next.position ≤ next.tokens.length ∧
      next.unread < s.unread := by
  obtain ⟨p, rest, rfl, hlength⟩ := exists_eq_scan (Nat.le_of_lt h)
  cases rest with
  | nil =>
    rw [List.length_nil, unread] at hlength
    omega
  | cons t rest =>
    cases hc : claimant? p.definitions t with
    | none =>
      refine ⟨_, Progress.step_scan_of_none hc rest, position_scan_le _ _, ?_⟩
      rw [unread_scan, unread_scan, List.length_cons]
      exact Nat.lt_succ_self _
    | some found =>
      -- What an occurrence leaves is the end of what followed its head.
      obtain ⟨i, c⟩ := found
      have hle := (c.taking_isSuffix rest).length_le
      refine ⟨_, Progress.step_scan_of_some hc rest, position_scan_le _ _, ?_⟩
      rw [unread_scan, unread_scan, List.length_cons]
      exact Nat.lt_succ_of_le hle

/-- There is no pass where the position is behind the last token. -/
theorem step_of_not_lt (h : ¬ s.position < s.tokens.length) : s.step = .ok none := if_neg h

/-! ## Passes one after another -/

/-- A number of passes leads from one state to another. -/
inductive Leads : Nat → Scan → Scan → Prop
  /-- No pass leads to the state itself. -/
  | zero (s : Scan) : Leads 0 s s
  /-- A first pass, and passes from the state that it leads to. -/
  | succ {passes : Nat} {s next s' : Scan} :
    s.step = .ok (some next) → Leads passes next s' → Leads (passes + 1) s s'

/-- Passes keep the position within the tokens, and each of them leaves fewer tokens unread. -/
theorem Leads.unread_le (h : Leads passes s s') (hs : s.position ≤ s.tokens.length) :
    s'.position ≤ s'.tokens.length ∧ passes + s'.unread ≤ s.unread := by
  induction h with
  | zero s => exact ⟨hs, Nat.le_of_eq (Nat.zero_add _)⟩
  | @succ passes s next s' hstep _ ih =>
    have hlt : s.position < s.tokens.length := by
      by_contra hge
      rw [step_of_not_lt hge] at hstep
      exact nomatch hstep
    obtain ⟨next', hstep', hnext, hless⟩ := exists_step hlt
    obtain rfl : next' = next := Option.some.inj (Except.ok.inj (hstep'.symm.trans hstep))
    obtain ⟨hs', hle⟩ := ih hnext
    exact ⟨hs', by omega⟩

/-- A run that may take as many passes as there are unread tokens reads all of them. -/
theorem exists_leads_run (passes : Nat) (hs : s.position ≤ s.tokens.length)
    (hle : s.unread ≤ passes) :
    ∃ n s', Leads n s s' ∧ s'.position = s'.tokens.length ∧ run passes s = .ok s' := by
  induction passes generalizing s with
  | zero =>
    have hend : s.position = s.tokens.length := by
      unfold unread at hle
      omega
    exact ⟨0, s, .zero s, hend, rfl⟩
  | succ passes ih =>
    by_cases hlt : s.position < s.tokens.length
    · obtain ⟨next, hstep, hnext, hless⟩ := exists_step hlt
      obtain ⟨n, s', hleads, hend, hrun⟩ := ih hnext (by omega)
      exact ⟨n + 1, s', .succ hstep hleads, hend, by rw [run_of_step_some hstep, hrun]⟩
    · exact ⟨0, s, .zero s, by omega, run_of_step_none (step_of_not_lt hlt) _⟩

end Scan

/-- A scan never fails and always ends. In every state that passes lead to, the position is within
the tokens, and there have been no more passes than there were tokens less those still unread. While
a token is unread, every definition can be tried at the position, and a pass succeeds and leaves
fewer tokens unread. A value that is taken out of a token stands behind a separator that has a
width. So no more passes than there are tokens lead to a state in which all are read, and that is
the state that the scan gives. -/
theorem scan_ends (definitions : List Definition) (tokens : List String) :
    (∀ passes s, Scan.Leads passes (.start definitions tokens) s →
      s.position ≤ s.tokens.length ∧ passes + s.unread ≤ tokens.length ∧
      (s.position < s.tokens.length →
        (∀ d : Definition, ∃ probe, d.takeAt s.position s.tokens = .ok probe) ∧
        ∃ next, s.step = .ok (some next) ∧ next.unread < s.unread)) ∧
    (∀ (d : Definition) (token value : String), d.claim? token = some (.inline value) →
      ∃ name ∈ d.names, ∃ separator width,
        d.facets.separatorFor (token.toList.drop (hyphenCount token + name.length)) =
          some separator ∧
        separator.width? = some width ∧
        value.toList = token.toList.drop (hyphenCount token + name.length + width)) ∧
    ∃ passes s, passes ≤ tokens.length ∧ Scan.Leads passes (.start definitions tokens) s ∧
      s.position = s.tokens.length ∧ scan definitions tokens = .ok s := by
  have hstart : (Scan.start definitions tokens).position ≤
      (Scan.start definitions tokens).tokens.length := Nat.zero_le _
  refine ⟨fun passes s hleads => ?_, fun d token value => d.exists_width_of_claim?, ?_⟩
  · obtain ⟨hs, hle⟩ := hleads.unread_le hstart
    refine ⟨hs, hle, fun hlt => ⟨fun d => Scan.exists_takeAt d hlt, ?_⟩⟩
    obtain ⟨next, hstep, -, hless⟩ := Scan.exists_step hlt
    exact ⟨next, hstep, hless⟩
  · obtain ⟨passes, s, hleads, hend, hrun⟩ :=
      Scan.exists_leads_run tokens.length hstart (Nat.le_refl _)
    obtain ⟨-, hle⟩ := hleads.unread_le hstart
    have hunread : (Scan.start definitions tokens).unread = tokens.length := rfl
    exact ⟨passes, s, by omega, hleads, hend, hrun⟩

end ArgScan
