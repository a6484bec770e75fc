import Mathlib
import Concord.Json.Reader
import Concord.Json.Writer

/-!
# A number is written as one numeral

Whatever follows the text of a number, as long as it cannot be a part of the numeral, the reader
takes that text and no more. An integer in range comes back as it was; what a float comes back as is
left to the reader, which scales a decimal in several rounded steps.
-/

namespace Concord

namespace Raw

/-! ### Runs of digits -/

def digitValues (digits : List Char) : List Nat :=
  digits.map fun c => c.toNat - 48

/-- A run of digits ends in front of the text. -/
def EndsDigits (rest : List Char) : Prop :=
  ∀ c ∈ rest.head?, digit? c = none

/-- A numeral of any shape ends in front of the text. -/
def EndsNumber (rest : List Char) : Prop :=
  ∀ c ∈ rest.head?, digit? c = none ∧ c ≠ '.' ∧ c ≠ 'e' ∧ c ≠ 'E'

theorem EndsNumber.endsDigits {rest : List Char} (h : EndsNumber rest) : EndsDigits rest :=
  fun c hc => (h c hc).1

theorem endsNumber_nil : EndsNumber [] := by
  intro c hc
  cases hc

theorem digit?_of_isDigit {c : Char} (h : c.isDigit) : digit? c = some (c.toNat - 48) := by
  have hle : '0' ≤ c ∧ c ≤ '9' := by
    simpa [Char.isDigit, Char.le_def] using h
  simp [digit?, hle]

theorem takeDigits_append {digits rest : List Char} (hdigits : ∀ c ∈ digits, c.isDigit)
    (hrest : EndsDigits rest) : takeDigits (digits ++ rest) = (digitValues digits, rest) := by
  induction digits with
  | nil =>
      cases rest with
      | nil => rfl
      | cons c rest => simp [takeDigits, digitValues, hrest c rfl]
  | cons c digits ih =>
      have hc := digit?_of_isDigit (hdigits c List.mem_cons_self)
      have htail := ih fun d hd => hdigits d (List.mem_cons_of_mem c hd)
      simp [takeDigits, hc, htail, digitValues]

/-! ### Numerals as texts -/

/-- The characters of a numeral behind its sign, in the parts that the reader tells apart. -/
structure Spelling where
  whole : List Char
  fraction : Option (List Char) := none
  exponent : Option (Bool × List Char) := none

namespace Spelling

def fractionText (spelling : Spelling) : List Char :=
  match spelling.fraction with
  | some digits => '.' :: digits
  | none => []

def exponentText (spelling : Spelling) : List Char :=
  match spelling.exponent with
  | some (below, digits) => 'e' :: (if below then '-' else '+') :: digits
  | none => []

def text (spelling : Spelling) : List Char :=
  spelling.whole ++ (spelling.fractionText ++ spelling.exponentText)

def numeral (spelling : Spelling) (negative : Bool) : Numeral :=
  ⟨negative, digitValues spelling.whole, spelling.fraction.map digitValues,
    spelling.exponent.map fun exponent => (exponent.1, digitValues exponent.2)⟩

/-- Every part has digits only and one at least, and a leading zero stands alone. -/
structure Proper (spelling : Spelling) : Prop where
  whole_ne : spelling.whole ≠ []
  whole_digits : ∀ c ∈ spelling.whole, c.isDigit
  whole_lead : spelling.whole.head? = some '0' → spelling.whole.length = 1
  fraction_ne : ∀ digits ∈ spelling.fraction, digits ≠ []
  fraction_digits : ∀ digits ∈ spelling.fraction, ∀ c ∈ digits, c.isDigit
  exponent_ne : ∀ exponent ∈ spelling.exponent, exponent.2 ≠ []
  exponent_digits : ∀ exponent ∈ spelling.exponent, ∀ c ∈ exponent.2, c.isDigit

end Spelling

theorem digitValues_ne_nil {digits : List Char} (h : digits ≠ []) : digitValues digits ≠ [] := by
  simpa [digitValues] using h

/-- The value of a digit is zero for the character zero only. -/
theorem eq_zero_of_value {c : Char} (hdigit : c.isDigit) (hvalue : c.toNat - 48 = 0) : c = '0' := by
  have hlow : (48 : UInt32) ≤ c.val := by
    simp only [Char.isDigit, Bool.and_eq_true, decide_eq_true_eq] at hdigit
    exact hdigit.1
  have hcode : 48 ≤ c.toNat := UInt32.le_iff_toNat_le.1 hlow
  exact Char.toNat_inj.1 (show c.toNat = 48 by omega)

theorem takeInteger_append {digits rest : List Char} (hne : digits ≠ [])
    (hdigits : ∀ c ∈ digits, c.isDigit) (hlead : digits.head? = some '0' → digits.length = 1)
    (hrest : EndsDigits rest) :
    takeInteger (digits ++ rest) = some (digitValues digits, rest) := by
  rw [takeInteger, takeDigits_append hdigits hrest]
  match digits with
  | [] => exact absurd rfl hne
  | [c] => rcases h : c.toNat - 48 with _ | n <;> simp [digitValues, h]
  | c :: d :: digits =>
      have hc : c.toNat - 48 ≠ 0 := by
        intro hzero
        have := hlead (by simp [eq_zero_of_value (hdigits c List.mem_cons_self) hzero])
        simp at this
      obtain ⟨n, hn⟩ := Nat.exists_eq_succ_of_ne_zero hc
      simp [digitValues, hn]

theorem takeFraction_append {spelling : Spelling} (hproper : spelling.Proper) {rest : List Char}
    (hrest : EndsDigits rest) (hpoint : ∀ c ∈ rest.head?, c ≠ '.') :
    takeFraction (spelling.fractionText ++ rest) =
      some (spelling.fraction.map digitValues, rest) := by
  unfold Spelling.fractionText
  cases hfraction : spelling.fraction with
  | none =>
      cases rest with
      | nil => rfl
      | cons c rest =>
          have hc : c ≠ '.' := hpoint c rfl
          simp only [List.nil_append, Option.map_none]
          unfold takeFraction
          split
          · next heq => cases heq; exact absurd rfl hc
          · rfl
  | some digits =>
      have hne := digitValues_ne_nil (hproper.fraction_ne digits hfraction)
      have htake := takeDigits_append (hproper.fraction_digits digits hfraction) hrest
      simp only [List.cons_append, takeFraction, htake, Option.map_some]

theorem takeExponent_append {spelling : Spelling} (hproper : spelling.Proper) {rest : List Char}
    (hrest : EndsNumber rest) :
    takeExponent (spelling.exponentText ++ rest) =
      some (spelling.exponent.map fun exponent => (exponent.1, digitValues exponent.2), rest) := by
  unfold Spelling.exponentText
  cases hexponent : spelling.exponent with
  | none =>
      cases rest with
      | nil => rfl
      | cons c rest =>
          obtain ⟨-, -, hlower, hupper⟩ := hrest c rfl
          simp [takeExponent, hlower, hupper]
  | some exponent =>
      obtain ⟨below, digits⟩ := exponent
      have hne := digitValues_ne_nil (hproper.exponent_ne _ hexponent)
      have htake := takeDigits_append (hproper.exponent_digits _ hexponent) hrest.endsDigits
      have hsign : takeSign ((if below then '-' else '+') :: (digits ++ rest)) =
          (below, digits ++ rest) := by cases below <;> rfl
      simp only [List.cons_append, takeExponent, true_or, if_true, hsign, htake, Option.map_some]

theorem takeNumeral_text {spelling : Spelling} (hproper : spelling.Proper) (negative : Bool)
    {rest : List Char} (hrest : EndsNumber rest) :
    takeNumeral negative (spelling.text ++ rest) = some (spelling.numeral negative, rest) := by
  have hexponent := takeExponent_append hproper hrest
  have hexponentHead : ∀ c ∈ (spelling.exponentText ++ rest).head?,
      digit? c = none ∧ c ≠ '.' := by
    unfold Spelling.exponentText
    cases spelling.exponent with
    | none => exact fun c hc => ⟨(hrest c hc).1, (hrest c hc).2.1⟩
    | some exponent =>
        rintro c hc
        cases hc
        decide
  have hfraction := takeFraction_append hproper (fun c hc => (hexponentHead c hc).1)
    (fun c hc => (hexponentHead c hc).2)
  have hfractionHead : EndsDigits (spelling.fractionText ++ (spelling.exponentText ++ rest)) := by
    unfold Spelling.fractionText
    cases spelling.fraction with
    | none => exact fun c hc => (hexponentHead c hc).1
    | some digits =>
        rintro c hc
        cases hc
        decide
  have hwhole := takeInteger_append hproper.whole_ne hproper.whole_digits hproper.whole_lead
    hfractionHead
  simp [takeNumeral, Spelling.text, List.append_assoc, hwhole, hfraction, hexponent,
    Spelling.numeral]

theorem takeNumber_text {spelling : Spelling} (hproper : spelling.Proper) (negative : Bool)
    {rest : List Char} (hrest : EndsNumber rest) :
    takeNumber ((if negative then ['-'] else []) ++ (spelling.text ++ rest)) =
      some (.number (spelling.numeral negative).value?, rest) := by
  have htake := takeNumeral_text hproper negative hrest
  cases negative with
  | true => simp [takeNumber, htake]
  | false =>
      obtain ⟨c, whole, hwhole⟩ := List.exists_cons_of_ne_nil hproper.whole_ne
      have hc : c ≠ '-' := by
        rintro rfl
        exact absurd (hproper.whole_digits '-' (by simp [hwhole])) (by decide)
      simp only [Spelling.text, hwhole, List.cons_append, List.append_assoc] at htake
      simp [takeNumber, Spelling.text, hwhole, hc, htake]

/-! ### Integers -/

theorem digitChar_eq_zero : ∀ d < 10, Nat.digitChar d = '0' → d = 0 := by
  decide

theorem eq_zero_of_toDigits_head (n : Nat) (h : (Nat.toDigits 10 n).head? = some '0') : n = 0 := by
  induction n using Nat.strongRecOn with
  | ind n ih =>
      by_cases hlt : n < 10
      · rw [Nat.toDigits_of_lt_base hlt] at h
        exact digitChar_eq_zero n hlt (Option.some.inj h)
      · rw [Nat.toDigits_of_base_le (by decide) (by omega),
          List.head?_append_of_ne_nil _ Nat.toDigits_ne_nil] at h
        have := ih (n / 10) (by omega) h
        omega

theorem isDigit_of_mem_decimal {n : Nat} {c : Char} (h : c ∈ Nat.toDigits 10 n) : c.isDigit :=
  Nat.isDigit_of_mem_toDigits (by decide) (by decide) h

def naturalSpelling (n : Nat) : Spelling where
  whole := Nat.toDigits 10 n

theorem naturalSpelling_proper (n : Nat) : (naturalSpelling n).Proper where
  whole_ne := Nat.toDigits_ne_nil
  whole_digits := fun _ hc => isDigit_of_mem_decimal hc
  whole_lead := by
    intro h
    rw [naturalSpelling, eq_zero_of_toDigits_head n h, Nat.toDigits_zero]
    rfl
  fraction_ne := by rintro _ ⟨⟩
  fraction_digits := by rintro _ ⟨⟩
  exponent_ne := by rintro _ ⟨⟩
  exponent_digits := by rintro _ ⟨⟩

theorem text_int (value : Int) :
    (Number.int value).text =
      (if decide (value < 0) then ['-'] else []) ++ (naturalSpelling value.natAbs).text := by
  have hplain : (naturalSpelling value.natAbs).text = Nat.toDigits 10 value.natAbs := by
    simp [naturalSpelling, Spelling.text, Spelling.fractionText, Spelling.exponentText]
  rw [hplain, Number.text, Int.toString_eq_repr, Int.repr_eq_if]
  by_cases hneg : value < 0
  · have habs : (-value).toNat = value.natAbs := by omega
    simp [hneg, habs, Int.not_le.2 hneg]
  · have habs : value.toNat = value.natAbs := by omega
    simp [hneg, show 0 ≤ value by omega, habs]

end Raw

namespace Numeral

/-- What digits are worth behind a significand. -/
def worth (significand : Nat) (digits : List Nat) : Nat :=
  digits.foldl (fun significand digit => significand * 10 + digit) significand

theorem le_worth (significand : Nat) (digits : List Nat) :
    significand ≤ worth significand digits := by
  induction digits generalizing significand with
  | nil => exact Nat.le_refl _
  | cons d digits ih =>
      calc significand ≤ significand * 10 + d := by omega
        _ ≤ worth (significand * 10 + d) digits := ih _

theorem worth_toDigits (n : Nat) : worth 0 (Raw.digitValues (Nat.toDigits 10 n)) = n := by
  have hfold := Nat.ofDigitChars_ten_toDigits (n := n)
  rw [Nat.ofDigitChars_eq_foldl] at hfold
  simpa [worth, Raw.digitValues, List.foldl_map, Nat.mul_comm] using hfold

theorem takeWhole_of_le {significand : Nat} {digits : List Nat}
    (hle : worth significand digits ≤ significandLimit) :
    takeWhole significand 0 digits = (worth significand digits, 0) := by
  induction digits generalizing significand with
  | nil => rfl
  | cons d digits ih =>
      have hstep : significand * 10 + d ≤ significandLimit :=
        (le_worth _ digits).trans hle
      rw [takeWhole, if_pos ⟨rfl, hstep⟩]
      exact ih hle

theorem le_takeWhole_dropped (significand dropped : Nat) (digits : List Nat) :
    dropped ≤ (takeWhole significand dropped digits).2 := by
  induction digits generalizing significand dropped with
  | nil => exact Nat.le_refl _
  | cons d digits ih =>
      rw [takeWhole]
      split
      · next h =>
          rw [h.1]
          exact Nat.zero_le _
      · exact (Nat.le_succ _).trans (ih _ _)

theorem takeWhole_of_lt {significand : Nat} {digits : List Nat}
    (hlt : significandLimit < worth significand digits) (hle : significand ≤ significandLimit) :
    (takeWhole significand 0 digits).2 ≠ 0 := by
  induction digits generalizing significand with
  | nil => exact absurd hle (Nat.not_le.2 hlt)
  | cons d digits ih =>
      rw [takeWhole]
      split
      · next h => exact ih hlt h.2
      · have := le_takeWhole_dropped significand (0 + 1) digits
        omega

/-- A numeral of digits only is an integer exactly where integers reach. -/
theorem value?_natural (negative : Bool) (n : Nat) (hsign : negative = true → n ≠ 0) (value : Int) :
    ((Raw.naturalSpelling n).numeral negative).value? = some (.int value) ↔
      value = (if negative then -(n : Int) else n) ∧ n ≤ if negative then 2 ^ 63 else 2 ^ 64 - 1 := by
  have hlimit : significandLimit = 2 ^ 64 - 1 := rfl
  by_cases hle : n ≤ significandLimit
  · have htake : takeWhole 0 0 (Raw.digitValues (Nat.toDigits 10 n)) = (n, 0) := by
      rw [takeWhole_of_le (by rwa [worth_toDigits]), worth_toDigits]
    simp only [Raw.naturalSpelling, Raw.Spelling.numeral, value?, htake]
    cases negative with
    | false => simp; omega
    | true =>
        have hpos : 0 < n := Nat.pos_of_ne_zero (hsign rfl)
        by_cases hreach : n ≤ 9223372036854775808
        · simp [hpos, hreach, eq_comm]
        · simp [hpos, hreach]
  · have hdropped : (takeWhole 0 0 (Raw.digitValues (Nat.toDigits 10 n))).2 ≠ 0 :=
      takeWhole_of_lt (by rwa [worth_toDigits, ← Nat.not_le]) (Nat.zero_le _)
    refine iff_of_false ?_ (by rintro ⟨-, hle⟩; split at hle <;> omega)
    simp [Raw.naturalSpelling, Raw.Spelling.numeral, value?, hdropped]

end Numeral

end Concord
