import Mathlib
import Concord.Proofs.Json.Numbers

/-!
# The text of a float is a numeral

A float is written in one of two layouts. Both are numerals as JSON writes them because the decimal
that is laid out has no leading zero: it is zero only for the number zero, and then it is `0.0`.
-/

namespace Concord.Binary64

open Raw (Spelling)

/-! ### The decimal is not zero -/

theorem compareScaled_zero {i j : Int} {n : Nat} (hn : n ≠ 0) : compareScaled 0 i n j = .lt := by
  have hpos : 0 < n * Nat.pow 2 j.toNat * Nat.pow 10 (-i).toNat := by
    have htwo : 0 < Nat.pow 2 j.toNat := Nat.pow_pos (by decide)
    have hten : 0 < Nat.pow 10 (-i).toNat := Nat.pow_pos (by decide)
    have hn' : 0 < n := Nat.pos_of_ne_zero hn
    positivity
  simp only [compareScaled, Nat.zero_mul]
  exact Nat.compare_eq_lt.2 hpos

theorem readsBack_zero {x : Binary64} (hx : x.significand ≠ 0) (exponent : Int) :
    x.readsBack ⟨0, exponent⟩ = false := by
  have hlow : (if x.narrowBelow then 4 * x.significand - 1 else 4 * x.significand - 2) ≠ 0 := by
    split <;> omega
  simp [readsBack, compareScaled_zero hlow]

theorem nearer_eq (x : Binary64) (exponent : Int) (low high : Nat) :
    x.nearer exponent low high = low ∨ x.nearer exponent low high = high := by
  unfold nearer
  split
  · exact Or.inl rfl
  · exact Or.inr rfl
  · split
    · exact Or.inl rfl
    · exact Or.inr rfl

theorem digits_ne_zero_of_readsBack {x : Binary64} (hx : x.significand ≠ 0) {d : Decimal}
    (h : x.readsBack d = true) : d.digits ≠ 0 := by
  obtain ⟨digits, exponent⟩ := d
  rintro rfl
  rw [readsBack_zero hx] at h
  cases h

theorem readsBack_of_candidate? {x : Binary64} {exponent : Int} {d : Decimal}
    (h : x.candidate? exponent = some d) : x.readsBack d = true := by
  simp only [candidate?] at h
  split at h
  · next hlow hhigh =>
      cases h
      rcases x.nearer_eq exponent (x.neighbours exponent).1 (x.neighbours exponent).2 with heq | heq
      · rwa [heq]
      · rwa [heq]
  · next hlow _ => cases h; exact hlow
  · next _ hhigh => cases h; exact hhigh
  · cases h

theorem digits_strip_ne_zero (fuel : Nat) {d : Decimal} (hd : d.digits ≠ 0) :
    (d.strip fuel).digits ≠ 0 := by
  induction fuel generalizing d with
  | zero => exact hd
  | succ fuel ih =>
      rw [Decimal.strip]
      split
      · next h => exact ih (show d.digits / 10 ≠ 0 by omega)
      · exact hd

theorem digits_exact_ne_zero {x : Binary64} (hx : x.significand ≠ 0) : x.exact.digits ≠ 0 := by
  have htwo : Nat.pow 2 x.exponent.toNat ≠ 0 := (Nat.pow_pos (by decide)).ne'
  have hfive : Nat.pow 5 (-x.exponent).toNat ≠ 0 := (Nat.pow_pos (by decide)).ne'
  exact Nat.mul_ne_zero (Nat.mul_ne_zero hx htwo) hfive

/-- A decimal without digits is zero in its plainest form. -/
def Decimal.Proper (d : Decimal) : Prop :=
  d.digits = 0 → d.exponent = 0

theorem shortest_proper (x : Binary64) : x.shortest.Proper := by
  unfold shortest
  split
  · exact fun _ => rfl
  · next hx =>
      simp only
      split
      · next d hd =>
          obtain ⟨n, -, hn⟩ := List.exists_of_findSome?_eq_some hd
          have hne := digits_ne_zero_of_readsBack hx (readsBack_of_candidate? hn)
          exact fun h => absurd h (digits_strip_ne_zero 20 hne)
      · exact fun h => absurd h (digits_exact_ne_zero hx)

/-! ### Layouts -/

theorem isDigit_of_mem_zeros {count : Nat} {c : Char} (h : c ∈ List.replicate count '0') :
    c.isDigit := by
  rw [List.eq_of_mem_replicate h]
  decide

/-- Digits with a point inside are a numeral if only a digit alone may be a leading zero. -/
theorem exists_spelling_pointInside {digits : List Char} {places : Nat}
    (hplaces : places < digits.length) (hdigits : ∀ c ∈ digits, c.isDigit)
    (hlead : digits.head? = some '0' → digits.length = places + 1) :
    ∃ spelling : Spelling, spelling.Proper ∧ pointInside digits places = spelling.text := by
  refine ⟨⟨digits.take (digits.length - places),
    some (if places = 0 then ['0'] else digits.drop (digits.length - places)), none⟩, ?_, ?_⟩
  · refine ⟨?_, ?_, ?_, ?_, ?_, ?_, ?_⟩
    · intro hnil
      have hlength := congrArg List.length hnil
      simp only [List.length_take, List.length_nil] at hlength
      omega
    · exact fun c hc => hdigits c (List.mem_of_mem_take hc)
    · intro hhead
      rw [List.head?_take, if_neg (by omega)] at hhead
      simp only [List.length_take, hlead hhead]
      omega
    · rintro _ ⟨⟩
      split
      · simp
      · intro hnil
        have hlength := congrArg List.length hnil
        simp only [List.length_drop, List.length_nil] at hlength
        omega
    · rintro _ ⟨⟩ c hc
      split at hc
      · rw [List.mem_singleton.1 hc]
        decide
      · exact hdigits c (List.mem_of_mem_drop hc)
    · rintro _ ⟨⟩
    · rintro _ ⟨⟩
  · simp [pointInside, Spelling.text, Spelling.fractionText, Spelling.exponentText]

/-- Digits with zeros behind them; a leading zero means that there are none. -/
theorem exists_spelling_padRight {digits : Nat} (count : Nat) (hzero : digits = 0 → count = 0) :
    ∃ spelling : Spelling, spelling.Proper ∧
      pointInside (Nat.toDigits 10 digits ++ List.replicate count '0') 0 = spelling.text := by
  have hlength : 0 < (Nat.toDigits 10 digits).length := Nat.length_toDigits_pos
  apply exists_spelling_pointInside
  · rw [List.length_append]
    omega
  · intro c hc
    rcases List.mem_append.1 hc with hc | hc
    · exact Raw.isDigit_of_mem_decimal hc
    · exact isDigit_of_mem_zeros hc
  · intro hhead
    rw [List.head?_append_of_ne_nil _ Nat.toDigits_ne_nil] at hhead
    have hdigits := Raw.eq_zero_of_toDigits_head _ hhead
    simp [hdigits, hzero hdigits]

/-- Digits with as many zeros before them as it takes for one to stand before the point. -/
theorem exists_spelling_padLeft {digits : Nat} (places : Nat) (hne : digits ≠ 0) :
    ∃ spelling : Spelling, spelling.Proper ∧
      pointInside (List.replicate (places + 1 - (Nat.toDigits 10 digits).length) '0' ++
        Nat.toDigits 10 digits) places = spelling.text := by
  have hlength : 0 < (Nat.toDigits 10 digits).length := Nat.length_toDigits_pos
  apply exists_spelling_pointInside
  · simp only [List.length_append, List.length_replicate]
    omega
  · intro c hc
    rcases List.mem_append.1 hc with hc | hc
    · exact isDigit_of_mem_zeros hc
    · exact Raw.isDigit_of_mem_decimal hc
  · intro hhead
    by_cases hpad : (Nat.toDigits 10 digits).length ≤ places
    · simp only [List.length_append, List.length_replicate]
      omega
    · -- without zeros the leading digit is the number's own, which is not zero
      have hcount : places + 1 - (Nat.toDigits 10 digits).length = 0 := by omega
      rw [hcount, List.replicate_zero, List.nil_append] at hhead
      exact absurd (Raw.eq_zero_of_toDigits_head _ hhead) hne

theorem exists_spelling_positional {d : Decimal} (hd : d.Proper) :
    ∃ spelling : Spelling, spelling.Proper ∧ positional d = spelling.text := by
  unfold positional
  simp only
  split
  · next hnonneg =>
      apply exists_spelling_padRight
      intro hzero
      rw [hd hzero]
      rfl
  · next hneg =>
      apply exists_spelling_padLeft
      intro hzero
      rw [hd hzero] at hneg
      exact hneg (Int.le_refl 0)

theorem exists_spelling_scientific (d : Decimal) (leading : Int) :
    ∃ spelling : Spelling, spelling.Proper ∧ scientific d leading = spelling.text := by
  have hdigits : ∀ c ∈ Nat.toDigits 10 d.digits, c.isDigit :=
    fun _ hc => Raw.isDigit_of_mem_decimal hc
  obtain ⟨first, others, hcons⟩ :=
    List.exists_cons_of_ne_nil (Nat.toDigits_ne_nil (n := d.digits) (b := 10))
  refine ⟨⟨[first], if others = [] then none else some others,
    some (decide (leading < 0), Nat.toDigits 10 leading.natAbs)⟩, ?_, ?_⟩
  · refine ⟨by simp, ?_, fun _ => rfl, ?_, ?_, ?_, ?_⟩
    · intro c hc
      rw [List.mem_singleton.1 hc]
      exact hdigits first (by simp [hcons])
    · intro digits hmem
      split at hmem
      · cases hmem
      · next hne => cases hmem; exact hne
    · intro digits hmem c hc
      split at hmem
      · cases hmem
      · cases hmem
        exact hdigits c (by simp [hcons, hc])
    · rintro _ ⟨⟩
      exact Nat.toDigits_ne_nil
    · rintro _ ⟨⟩ c hc
      exact Raw.isDigit_of_mem_decimal hc
  · simp only [scientific, hcons, Spelling.text, Spelling.fractionText, Spelling.exponentText]
    by_cases hothers : others = [] <;> simp [hothers]

/-- The text of a float is a numeral with the sign of the float. -/
theorem exists_spelling_text (x : Binary64) :
    ∃ spelling : Spelling, spelling.Proper ∧
      x.text = (if x.negative then ['-'] else []) ++ spelling.text := by
  have hmagnitude : ∃ spelling : Spelling, spelling.Proper ∧ x.magnitudeText = spelling.text := by
    unfold magnitudeText
    simp only
    split
    · exact exists_spelling_positional x.shortest_proper
    · exact exists_spelling_scientific _ _
  obtain ⟨spelling, hproper, htext⟩ := hmagnitude
  exact ⟨spelling, hproper, by rw [text, sign, htext]⟩

end Concord.Binary64
