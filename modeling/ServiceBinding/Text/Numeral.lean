/-!
# Unsigned decimal numerals

A numeral is an optional plus sign and at least one ASCII digit; leading zeros are allowed. Main
statements: `numeralBelow?_toString` and `numeralBelow?_eq_some_iff`.
-/

namespace ServiceBinding.Text

/-- The value of a run of ASCII digits, continuing from `acc`; `none` at any other character. -/
def digitsValue? (acc : Nat) : List Char → Option Nat
  | [] => some acc
  | c :: rest => if c.isDigit then digitsValue? (acc * 10 + (c.toNat - 48)) rest else none

/-- The number written by a numeral. -/
def numeralValue? (cs : List Char) : Option Nat :=
  match cs with
  | [] => none
  | c :: rest =>
    if c = '+' then (if rest.isEmpty then none else digitsValue? 0 rest)
    else digitsValue? 0 cs

/-- The number written by a numeral, if it is below `bound`. -/
def numeralBelow? (bound : Nat) (cs : List Char) : Option Nat :=
  (numeralValue? cs).filter (· < bound)

/-! ## Numbers as they are shown -/

/-- Digits read as the number that they write. -/
theorem digitsValue?_eq_some {cs : List Char} (h : ∀ c ∈ cs, c.isDigit = true) (acc : Nat) :
    digitsValue? acc cs = some (Nat.ofDigitChars 10 cs acc) := by
  induction cs generalizing acc with
  | nil => rfl
  | cons c rest ih =>
    have hc : c.isDigit = true := h c List.mem_cons_self
    have hrest := ih fun c' hc' => h c' (List.mem_cons_of_mem c hc')
    rw [digitsValue?, if_pos hc, hrest, Nat.ofDigitChars_cons, Nat.mul_comm 10 acc]
    rfl

theorem numeralValue?_toString (n : Nat) : numeralValue? (toString n).toList = some n := by
  have hdigit : ∀ c ∈ (toString n).toList, c.isDigit = true := by
    intro c hc
    rw [Nat.toString_eq_repr, Nat.toList_repr] at hc
    exact Nat.isDigit_of_mem_toDigits (Nat.succ_pos 9) (Nat.le_refl 10) hc
  have hvalue : digitsValue? 0 (toString n).toList = some n := by
    rw [digitsValue?_eq_some hdigit, Nat.toString_eq_repr, Nat.toList_repr,
      Nat.ofDigitChars_ten_toDigits]
  have hsome : (toString n).toList ≠ [] := by
    rw [Nat.toString_eq_repr, Nat.toList_repr]
    exact Nat.toDigits_ne_nil
  cases hcs : (toString n).toList with
  | nil => exact absurd hcs hsome
  | cons c rest =>
    -- a numeral without a sign begins with a digit
    have hc : c ≠ '+' := by
      rintro rfl
      have hplus : ('+').isDigit = true := hdigit '+' (by rw [hcs]; exact List.mem_cons_self)
      exact absurd hplus (by decide)
    rw [numeralValue?, if_neg hc, ← hcs, hvalue]

/-- A number reads as itself from the text that shows it. -/
theorem numeralBelow?_toString {bound n : Nat} (h : n < bound) :
    numeralBelow? bound (toString n).toList = some n := by
  rw [numeralBelow?, numeralValue?_toString, Option.filter_some, if_pos (by simpa using h)]

/-! ## What reads as a number -/

private theorem isDigit_of_digitsValue? {acc n : Nat} {cs : List Char}
    (h : digitsValue? acc cs = some n) : ∀ c ∈ cs, c.isDigit = true := by
  induction cs generalizing acc with
  | nil => nofun
  | cons c rest ih =>
    rw [digitsValue?] at h
    split at h
    · rename_i hc
      exact List.forall_mem_cons.2 ⟨hc, ih h⟩
    · cases h

theorem digitsValue?_eq_some_iff {n : Nat} {cs : List Char} :
    digitsValue? 0 cs = some n ↔
      (∀ c ∈ cs, c.isDigit = true) ∧ Nat.ofDigitChars 10 cs 0 = n := by
  constructor
  · intro h
    have hdigits := isDigit_of_digitsValue? h
    rw [digitsValue?_eq_some hdigits] at h
    exact ⟨hdigits, Option.some.inj h⟩
  · rintro ⟨hdigits, rfl⟩
    exact digitsValue?_eq_some hdigits 0

/-- The characters write `n`: a plus sign or none, and then digits, at least one. -/
def IsNumeral (n : Nat) (cs : List Char) : Prop :=
  ∃ sign digits, cs = sign ++ digits ∧ (sign = [] ∨ sign = ['+']) ∧ digits ≠ [] ∧
    (∀ c ∈ digits, c.isDigit = true) ∧ Nat.ofDigitChars 10 digits 0 = n

theorem numeralValue?_eq_some_iff {n : Nat} {cs : List Char} :
    numeralValue? cs = some n ↔ IsNumeral n cs := by
  constructor
  · intro h
    unfold numeralValue? at h
    split at h
    · cases h
    · rename_i c rest
      split at h
      · rename_i hplus
        split at h
        · cases h
        · rename_i hrest
          exact ⟨['+'], rest, by rw [hplus]; rfl, .inr rfl, by simpa using hrest,
            digitsValue?_eq_some_iff.1 h⟩
      · exact ⟨[], c :: rest, rfl, .inl rfl, List.cons_ne_nil _ _, digitsValue?_eq_some_iff.1 h⟩
  · rintro ⟨sign, digits, rfl, hsign, hsome, hdigits, hn⟩
    have hvalue := digitsValue?_eq_some_iff.2 ⟨hdigits, hn⟩
    rcases hsign with rfl | rfl
    · cases digits with
      | nil => exact absurd rfl hsome
      | cons c rest =>
        -- a digit is no plus sign
        have hc : c ≠ '+' := by
          rintro rfl
          exact absurd (hdigits '+' List.mem_cons_self) (by decide)
        simpa [numeralValue?, hc] using hvalue
    · simpa [numeralValue?, hsome] using hvalue

theorem numeralBelow?_eq_some_iff {bound n : Nat} {cs : List Char} :
    numeralBelow? bound cs = some n ↔ IsNumeral n cs ∧ n < bound := by
  rw [numeralBelow?, Option.filter_eq_some_iff, numeralValue?_eq_some_iff, decide_eq_true_iff]

end ServiceBinding.Text
