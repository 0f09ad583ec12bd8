import LineShell.Text.Numeral
import LineShell.Proofs.Text.Ends
import Mathlib.Data.List.Induction
import Mathlib.Data.Nat.Digits.Defs

/-!
Which texts are numerals, without the reader: `SpellsDigits`, `Natural` and
`Signed` build a numeral up from its digits, and `Spells` puts blanks around it.

Main statement: the reader takes exactly these texts, each for the integer that
it spells (`parse?_eq_some_iff`).  One of them is the usual way to write an
integer, with a sign or zeros before its digits (`IsDecimal.spells`).
-/
namespace LineShell.Text.Numeral

/-- Digits of any script, one right after the other or parted by single
underscores, and what they stand for. -/
inductive SpellsDigits : Text → List Nat → Prop
  | last {c : Char} {d : Nat} (hd : digitValue? c = some d) :
      SpellsDigits [c] [d]
  | next {c : Char} {d : Nat} {text : Text} {digits : List Nat}
      (hd : digitValue? c = some d)
      (hrest : SpellsDigits text digits) :
      SpellsDigits (c :: text) (d :: digits)
  | parted {c : Char} {d : Nat} {text : Text} {digits : List Nat}
      (hd : digitValue? c = some d)
      (hrest : SpellsDigits text digits) :
      SpellsDigits (c :: '_' :: text) (d :: digits)

/-- A numeral without sign. -/
def Natural (text : Text) (n : Nat) : Prop :=
  ∃ digits, SpellsDigits text digits ∧ digits.length ≤ digitLimit ∧
    n = Nat.ofDigits 10 digits.reverse

/-- A numeral with an optional sign. -/
inductive Signed : Text → Int → Prop
  | plain {text : Text} {n : Nat} (h : Natural text n) : Signed text n
  | plus {text : Text} {n : Nat} (h : Natural text n) : Signed ('+' :: text) n
  | minus {text : Text} {n : Nat} (h : Natural text n) :
      Signed ('-' :: text) (-n)

/-- A numeral, with any number of blanks at both ends. -/
def Spells (text : Text) (n : Int) : Prop :=
  ∃ before numeral after, text = before ++ numeral ++ after ∧ Signed numeral n ∧
    (∀ c ∈ before, surrounds c = true) ∧ ∀ c ∈ after, surrounds c = true

/-- The usual ways to write an integer: an optional sign, zeros, and the digits
of the absolute value, at most `digitLimit` digits in all. -/
inductive IsDecimal : Text → Int → Prop
  | plain {zeros n : Nat}
      (h : zeros + (Nat.toDigits 10 n).length ≤ digitLimit) :
      IsDecimal (List.replicate zeros '0' ++ Nat.toDigits 10 n) n
  | plus {zeros n : Nat} (h : zeros + (Nat.toDigits 10 n).length ≤ digitLimit) :
      IsDecimal ('+' :: (List.replicate zeros '0' ++ Nat.toDigits 10 n)) n
  | minus {zeros n : Nat}
      (h : zeros + (Nat.toDigits 10 n).length ≤ digitLimit) :
      IsDecimal ('-' :: (List.replicate zeros '0' ++ Nat.toDigits 10 n)) (-n)

theorem ne_underscore {c : Char} {d : Nat} (h : digitValue? c = some d) :
    c ≠ '_' := by
  rintro rfl
  have hnone : digitValue? '_' = none := by decide
  rw [hnone] at h
  cases h

theorem value_eq_ofDigits (digits : List Nat) :
    value digits = Nat.ofDigits 10 digits.reverse := by
  rw [value, Nat.ofDigits_eq_foldr, List.foldr_reverse]
  congr 1
  funext n digit
  simp [Nat.add_comm]

theorem mapM_cons_eq_some_iff {c : Char} {text : Text} {digits : List Nat} :
    (c :: text).mapM digitValue? = some digits ↔
      ∃ d rest, digitValue? c = some d ∧ text.mapM digitValue? = some rest ∧
        digits = d :: rest := by
  simp [List.mapM_cons, Option.bind_eq_some_iff, eq_comm (b := digits)]

theorem splitOn_parted {c : Char} (hc : c ≠ '_') (text : Text) :
    splitOn '_' (c :: '_' :: text) = [c] :: splitOn '_' text :=
  @splitOn_append '_' [c] (by simpa using Ne.symm hc) text

theorem splitOn_next {c : Char} (hc : c ≠ '_') (text : Text) :
    ∃ piece pieces, splitOn '_' text = piece :: pieces ∧
      splitOn '_' (c :: text) = (c :: piece) :: pieces := by
  cases hpieces : splitOn '_' text with
  | nil => exact absurd hpieces (splitOn_ne_nil '_' text)
  | cons piece pieces =>
      exact ⟨piece, pieces, rfl, by simp [splitOn, hc, hpieces]⟩

/-- Cut at the underscores, digits that stand for something leave no empty
group. -/
theorem spellsDigits_iff {text : Text} {digits : List Nat} :
    SpellsDigits text digits ↔ (∀ group ∈ splitOn '_' text, group ≠ []) ∧
      (splitOn '_' text).flatten.mapM digitValue? = some digits := by
  constructor
  · intro h
    induction h with
    | @last c d hd =>
        have hc := ne_underscore hd
        simp [splitOn, hc, hd]
    | @next c d text digits hd hrest ih =>
        obtain ⟨piece, pieces, htext, hsplit⟩ :=
          splitOn_next (ne_underscore hd) text
        rw [htext] at ih
        rw [hsplit]
        have hgroups := fun group hgroup =>
          ih.1 group (List.mem_cons_of_mem _ hgroup)
        refine ⟨by simpa using hgroups, ?_⟩
        exact mapM_cons_eq_some_iff.2 ⟨d, digits, hd, ih.2, rfl⟩
    | @parted c d text digits hd hrest ih =>
        rw [splitOn_parted (ne_underscore hd)]
        exact ⟨by
          simpa using ih.1, mapM_cons_eq_some_iff.2 ⟨d, digits, hd, ih.2, rfl⟩⟩
  · rintro ⟨hgroups, hdigits⟩
    -- An underscore takes the character after it along, so the induction goes
    -- by two of them.
    induction text using List.twoStepInduction generalizing digits with
    | nil => exact absurd rfl (hgroups [] List.mem_cons_self)
    | singleton c =>
        have hc : c ≠ '_' := by
          rintro rfl
          exact hgroups [] List.mem_cons_self rfl
        rw [splitOn_of_not_mem (by simpa using Ne.symm hc)] at hdigits
        obtain ⟨d, rest, hd, hrest, rfl⟩ := mapM_cons_eq_some_iff.1 hdigits
        cases hrest
        exact .last hd
    | cons_cons c next rest ihrest ihnext =>
        have hc : c ≠ '_' := by
          rintro rfl
          exact hgroups [] (by simp) rfl
        by_cases hnext : next = '_'
        · subst hnext
          rw [splitOn_parted hc] at hgroups hdigits
          obtain ⟨d, others, hd, hothers, rfl⟩ :=
            mapM_cons_eq_some_iff.1 hdigits
          have hrest := fun group hgroup =>
            hgroups group (List.mem_cons_of_mem _ hgroup)
          exact .parted hd (ihrest hrest hothers)
        · obtain ⟨piece, pieces, htext, hsplit⟩ :=
            splitOn_next hc (next :: rest)
          rw [hsplit] at hgroups hdigits
          obtain ⟨d, others, hd, hothers, rfl⟩ :=
            mapM_cons_eq_some_iff.1 hdigits
          refine .next hd
            (ihnext next (fun group hgroup => ?_) (htext ▸ hothers))
          obtain ⟨first, _, -, hpieces⟩ := splitOn_next hnext rest
          rw [htext, List.mem_cons] at hgroup
          rcases hgroup with rfl | hgroup
          · rw [htext] at hpieces
            rw [(List.cons.inj hpieces).1]
            simp
          · exact hgroups group (List.mem_cons_of_mem _ hgroup)

theorem length_of_mapM {text : Text}
    {digits : List Nat} (h : text.mapM digitValue? = some digits) :
    digits.length = text.length := by
  induction text generalizing digits with
  | nil =>
      cases h
      rfl
  | cons c rest ih =>
      obtain ⟨d, others, -, hothers, rfl⟩ := mapM_cons_eq_some_iff.1 h
      rw [List.length_cons, List.length_cons, ih hothers]

theorem natural?_eq_some_iff {text : Text} {n : Nat} :
    natural? text = some n ↔ Natural text n := by
  have hempty : ((splitOn '_' text).any List.isEmpty = false) ↔
      ∀ group ∈ splitOn '_' text, group ≠ [] := by
    simp
  constructor
  · intro h
    simp only [natural?] at h
    split at h
    · cases h
    · rename_i hfine
      rw [Bool.or_eq_true, not_or, Bool.not_eq_true, hempty, decide_eq_true_eq,
        Nat.not_lt] at hfine
      obtain ⟨digits, hdigits, rfl⟩ := Option.map_eq_some_iff.1 h
      refine ⟨digits, spellsDigits_iff.2 ⟨hfine.1, hdigits⟩, ?_,
        value_eq_ofDigits digits⟩
      exact length_of_mapM hdigits ▸ hfine.2
  · rintro ⟨digits, hspells, hlength, rfl⟩
    obtain ⟨hgroups, hdigits⟩ := spellsDigits_iff.1 hspells
    rw [length_of_mapM hdigits] at hlength
    rw [natural?, if_neg, hdigits, Option.map_some, value_eq_ofDigits]
    rw [Bool.or_eq_true, not_or, Bool.not_eq_true, hempty, decide_eq_true_eq,
      Nat.not_lt]
    exact ⟨hgroups, hlength⟩

theorem SpellsDigits.mem {text : Text} {digits : List Nat}
    (h : SpellsDigits text digits) :
    ∀ c ∈ text, c = '_' ∨ ∃ d, digitValue? c = some d := by
  induction h with
  | last hd => simpa using Or.inr ⟨_, hd⟩
  | next hd hrest ih => exact List.forall_mem_cons.2 ⟨Or.inr ⟨_, hd⟩, ih⟩
  | parted hd hrest ih =>
      exact List.forall_mem_cons.2 ⟨Or.inr ⟨_, hd⟩,
        List.forall_mem_cons.2 ⟨Or.inl rfl, ih⟩⟩

theorem not_natural_of_sign {c : Char} {rest : Text} {n : Nat}
    (hc : c = '+' ∨ c = '-') :
    ¬ Natural (c :: rest) n := by
  rintro ⟨digits, hspells, -⟩
  have hnone : c ≠ '_' ∧ digitValue? c = none := by
    rcases hc with rfl | rfl <;> decide
  rcases hspells.mem c List.mem_cons_self with hunderscore | ⟨d, hd⟩
  · exact hnone.1 hunderscore
  · rw [hnone.2] at hd
    cases hd

theorem signed?_eq_some_iff {text : Text} {n : Int} :
    signed? text = some n ↔ Signed text n := by
  have hlift : ∀ {rest : Text} {m : Int},
      (do let k ← natural? rest; pure (k : Int)) = some m →
      ∃ k : Nat, Natural rest k ∧ m = k := by
    intro rest m hm
    obtain ⟨k, hk, hcast⟩ := Option.bind_eq_some_iff.1 hm
    cases hcast
    exact ⟨k, natural?_eq_some_iff.1 hk, rfl⟩
  constructor
  · intro h
    unfold signed? at h
    split at h <;> obtain ⟨m, hm, rfl⟩ := Option.map_eq_some_iff.1 h <;>
      obtain ⟨k, hk, rfl⟩ := hlift hm
    · exact .minus hk
    · exact .plus hk
    · exact .plain hk
  · intro h
    cases h with
    | plus h => simp [signed?, natural?_eq_some_iff.2 h]
    | minus h => simp [signed?, natural?_eq_some_iff.2 h]
    | plain h =>
        unfold signed?
        split
        · exact absurd h (not_natural_of_sign (Or.inr rfl))
        · exact absurd h (not_natural_of_sign (Or.inl rfl))
        · rw [natural?_eq_some_iff.2 h]
          rfl

theorem isBlank_of_surrounds {c : Char} (h : surrounds c = true) :
    isBlank c = true := by
  unfold surrounds at h
  split at h
  · simp only [Bool.or_eq_true, decide_eq_true_eq] at h
    rcases h with rfl | h
    · decide
    · exact List.any_eq_true.2
        ⟨(0x9, 0xD), by decide, by simpa [inRanges] using h⟩
  · exact h

/-- No decimal digit is a blank. -/
theorem surrounds_of_digitValue? {c : Char} {d : Nat}
    (h : digitValue? c = some d) :
    surrounds c = false := by
  have hapart : ∀ start ∈ digitZeros, ∀ range ∈ blankRanges,
      range.2 < start ∨ start + 10 ≤ range.1 := by decide
  obtain ⟨start, hstart, -⟩ := Option.map_eq_some_iff.1 h
  have hdigit := List.find?_some hstart
  rw [decide_eq_true_eq] at hdigit
  by_contra hblank
  rw [Bool.not_eq_false] at hblank
  obtain ⟨range, hrange, hin⟩ :=
    List.any_eq_true.1 (isBlank_of_surrounds hblank)
  rw [decide_eq_true_eq] at hin
  have := hapart start (List.mem_of_find?_eq_some hstart) range hrange
  omega

theorem Natural.surrounds_of_mem {text : Text} {n : Nat} (h : Natural text n) :
    ∀ c ∈ text, surrounds c = false := by
  obtain ⟨digits, hspells, -⟩ := h
  intro c hc
  rcases hspells.mem c hc with rfl | ⟨d, hd⟩
  · decide
  · exact surrounds_of_digitValue? hd

theorem Signed.surrounds_of_mem {text : Text} {n : Int} (h : Signed text n) :
    ∀ c ∈ text, surrounds c = false := by
  cases h with
  | plain h => exact h.surrounds_of_mem
  | plus h => exact List.forall_mem_cons.2 ⟨by decide, h.surrounds_of_mem⟩
  | minus h => exact List.forall_mem_cons.2 ⟨by decide, h.surrounds_of_mem⟩

/-- The reader takes exactly the numerals. -/
theorem parse?_eq_some_iff {text : Text} {n : Int} :
    parse? text = some n ↔ Spells text n := by
  rw [parse?, signed?_eq_some_iff]
  constructor
  · intro h
    obtain ⟨before, after, htext, hbefore, hafter⟩ :=
      exists_append_dropAround surrounds text
    exact ⟨before, _, after, htext, h, hbefore, hafter⟩
  · rintro ⟨before, numeral, after, rfl, h, hbefore, hafter⟩
    rwa [dropAround_append hbefore hafter
      (fun c hc => h.surrounds_of_mem c (List.mem_of_mem_head? hc))
      fun c hc => h.surrounds_of_mem c (List.mem_of_getLast? hc)]

theorem digitValue?_of_isDigit {c : Char} (h : c.isDigit = true) :
    digitValue? c = some (c.toNat - '0'.toNat) := by
  have hrange := Char.isDigit_iff_toNat.1 h
  simp only [Char.reduceToNat] at hrange
  have hfirst : 0x30 ≤ c.toNat ∧ c.toNat < 0x30 + 10 := by omega
  rw [digitValue?, digitZeros, List.find?_cons_of_pos (by simpa using hfirst)]
  rfl

theorem spellsDigits_of_isDigit {text : Text} (hne : text ≠ [])
    (h : ∀ c ∈ text, c.isDigit = true) :
    SpellsDigits text (text.map fun c => c.toNat - '0'.toNat) := by
  induction text with
  | nil => exact absurd rfl hne
  | cons c rest ih =>
      have hc := digitValue?_of_isDigit (h c List.mem_cons_self)
      cases rest with
      | nil => exact .last hc
      | cons next others =>
          exact .next hc (ih (by simp) fun e he =>
            h e (List.mem_cons_of_mem c he))

theorem natural_zeros_append {zeros n : Nat}
    (h : zeros + (Nat.toDigits 10 n).length ≤ digitLimit) :
    Natural (List.replicate zeros '0' ++ Nat.toDigits 10 n) n := by
  have hdigits : ∀ c ∈ List.replicate zeros '0' ++ Nat.toDigits 10 n,
      c.isDigit = true := by
    intro c hc
    rcases List.mem_append.1 hc with hc | hc
    · rw [List.eq_of_mem_replicate hc]
      rfl
    · exact Nat.isDigit_of_mem_toDigits (by decide) (by decide) hc
  refine ⟨_, spellsDigits_of_isDigit (by simp [Nat.toDigits_ne_nil]) hdigits, by
    simpa using h, ?_⟩
  rw [← value_eq_ofDigits, value, List.foldl_map]
  have hvalue :=
    Nat.ofDigitChars_append (b := 10) 0 (l := List.replicate zeros '0')
    (m := Nat.toDigits 10 n)
  rw [Nat.ofDigitChars_replicate_zero, Nat.mul_zero,
    Nat.ofDigitChars_ten_toDigits] at hvalue
  exact hvalue.symm

theorem IsDecimal.spells {text : Text} {n : Int} (h : IsDecimal text n) :
    Spells text n := by
  refine ⟨[], text, [], by simp, ?_, by simp, by simp⟩
  cases h with
  | plain h => exact .plain (natural_zeros_append h)
  | plus h => exact .plus (natural_zeros_append h)
  | minus h => exact .minus (natural_zeros_append h)

end LineShell.Text.Numeral
