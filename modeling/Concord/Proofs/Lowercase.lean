import Mathlib
import Concord.Text.Lowercase

/-!
# Lower-casing a text among others

Each character is lower-cased by itself, apart from capital sigmas. So a text is lower-cased among
others as it is on its own, unless one of its sigmas comes to stand at another place of a word
there, and that can only be one at an edge of the text.
-/

namespace Concord.Text

/-! ### Looking for a cased letter -/

/-- Nothing in the text counts when the neighbours of a letter are examined. -/
def Ignorable (text : List Char) : Prop :=
  ∀ c ∈ text, caseIgnorableRanges.contains c = true

theorem ignorable_reverse_iff {text : List Char} : Ignorable text.reverse ↔ Ignorable text := by
  simp only [Ignorable, List.mem_reverse]

theorem meetsCased_append_of_ignorable {text : List Char} (h : Ignorable text)
    (more : List Char) : meetsCased (text ++ more) = meetsCased more := by
  unfold meetsCased
  rw [List.dropWhile_append_of_pos h]

theorem meetsCased_append_of_not_ignorable {text : List Char} (h : ¬ Ignorable text)
    (more : List Char) : meetsCased (text ++ more) = meetsCased text := by
  have hrest : text.dropWhile caseIgnorableRanges.contains ≠ [] :=
    fun hnil => h (List.dropWhile_eq_nil_iff.1 hnil)
  obtain ⟨c, rest, hrest⟩ := List.exists_cons_of_ne_nil hrest
  unfold meetsCased
  rw [List.dropWhile_append, hrest]
  rfl

theorem meetsCased_of_ignorable {text : List Char} (h : Ignorable text) :
    meetsCased text = false := by
  have hnil := meetsCased_append_of_ignorable h []
  rwa [List.append_nil] at hnil

/-- What comes after a text matters only for whether it starts with a cased letter. -/
theorem meetsCased_append_congr {more other : List Char} (h : meetsCased more = meetsCased other)
    (text : List Char) : meetsCased (text ++ more) = meetsCased (text ++ other) := by
  by_cases htext : Ignorable text
  · rw [meetsCased_append_of_ignorable htext, meetsCased_append_of_ignorable htext, h]
  · rw [meetsCased_append_of_not_ignorable htext, meetsCased_append_of_not_ignorable htext]

theorem meetsCased_sigma (rest : List Char) : meetsCased ('Σ' :: rest) = true := by
  have hsigma : ¬ Ignorable ['Σ'] := fun h => absurd (h 'Σ' List.mem_cons_self) (by decide +kernel)
  have hmeets := meetsCased_append_of_not_ignorable hsigma rest
  exact hmeets.trans (by decide +kernel)

/-! ### Between two texts -/

/-- Lower-cases a text that has characters before it, nearest first, and characters behind it. -/
def lowerWithin (before after : List Char) : List Char → List Char
  | [] => []
  | c :: rest =>
      (if c = 'Σ' then [lowerSigma before (rest ++ after)] else lowerChar c) ++
        lowerWithin (c :: before) after rest

theorem lowerFrom_append (before text after : List Char) :
    lowerFrom before (text ++ after) =
      lowerWithin before after text ++ lowerFrom (text.reverse ++ before) after := by
  induction text generalizing before with
  | nil => rfl
  | cons c text ih =>
      rw [List.cons_append, lowerFrom, ih, lowerWithin, List.append_assoc, List.reverse_cons,
        List.append_assoc, List.singleton_append]

theorem lowerFrom_eq (text : List Char) : lowerFrom [] text = lowerWithin [] [] text := by
  have happend := lowerFrom_append [] text []
  rwa [List.append_nil, lowerFrom, List.append_nil] at happend

theorem lowerWithin_append (before after text more : List Char) :
    lowerWithin before after (text ++ more) = lowerWithin before (more ++ after) text ++
      lowerWithin (text.reverse ++ before) after more := by
  induction text generalizing before with
  | nil => rfl
  | cons c text ih =>
      rw [List.cons_append, lowerWithin, ih, lowerWithin, List.append_assoc, List.reverse_cons,
        List.append_assoc, List.append_assoc, List.singleton_append]

theorem lowerWithin_sigma (before after front back : List Char) :
    lowerWithin before after (front ++ 'Σ' :: back) =
      lowerWithin before ('Σ' :: back ++ after) front ++
        lowerSigma (front.reverse ++ before) (back ++ after) ::
          lowerWithin ('Σ' :: (front.reverse ++ before)) after back := by
  rw [lowerWithin_append, lowerWithin, if_pos rfl]
  rfl

theorem lowerWithin_congr {before after before' after' text : List Char}
    (h : ∀ front back, text = front ++ 'Σ' :: back →
      lowerSigma (front.reverse ++ before) (back ++ after) =
        lowerSigma (front.reverse ++ before') (back ++ after')) :
    lowerWithin before after text = lowerWithin before' after' text := by
  induction text generalizing before before' with
  | nil => rfl
  | cons c text ih =>
      have hrest : lowerWithin (c :: before) after text =
          lowerWithin (c :: before') after' text := by
        apply ih
        rintro front back rfl
        have hsigma := h (c :: front) back rfl
        simpa only [List.reverse_cons, List.append_assoc, List.singleton_append] using hsigma
      rw [lowerWithin, lowerWithin, hrest]
      by_cases hc : c = 'Σ'
      · have hsigma : lowerSigma before (text ++ after) = lowerSigma before' (text ++ after') :=
          h [] text (congrArg (· :: text) hc)
        rw [if_pos hc, if_pos hc, hsigma]
      · rw [if_neg hc, if_neg hc]

/-- What is around matters only for the cased letters that come next on either side. -/
theorem lowerWithin_eq_of_meetsCased {before after before' after' : List Char}
    (hbefore : meetsCased before = meetsCased before')
    (hafter : meetsCased after = meetsCased after') (text : List Char) :
    lowerWithin before after text = lowerWithin before' after' text := by
  apply lowerWithin_congr
  intro front back _
  rw [lowerSigma, lowerSigma, meetsCased_append_congr hbefore, meetsCased_append_congr hafter]

theorem lowerWithin_of_ignorable {text : List Char} (h : Ignorable text)
    (before after before' after' : List Char) :
    lowerWithin before after text = lowerWithin before' after' text := by
  apply lowerWithin_congr
  rintro front back rfl
  exact absurd (h 'Σ' (List.mem_append_right front List.mem_cons_self)) (by decide +kernel)

/-! ### Sigmas at the edges -/

/-- Between two other texts a sigma takes another form than in the text on its own: one that begins
a word there comes to stand at the end of one, or one that ends a word gets a letter behind it. -/
inductive Turned (before after : List Char) : List Char → Prop
  | final {front back : List Char} (hfront : Ignorable front)
      (hbefore : meetsCased before.reverse = true) (hback : meetsCased (back ++ after) = false) :
      Turned before after (front ++ 'Σ' :: back)
  | medial {front back : List Char} (hback : Ignorable back)
      (hfront : meetsCased front.reverse = true) (hafter : meetsCased after = true) :
      Turned before after (front ++ 'Σ' :: back)

/-- No sigma of the text can take another form, whatever the text stands between: one at the
beginning of a word has a letter behind it, and one at the end has none before it. -/
def Settled (text : List Char) : Prop :=
  ∀ front back, text = front ++ 'Σ' :: back →
    (Ignorable front → meetsCased back = true) ∧ (Ignorable back → meetsCased front.reverse = false)

theorem Settled.not_turned {text : List Char} (h : Settled text) (before after : List Char) :
    ¬ Turned before after text := by
  rintro (⟨hfront, -, hback⟩ | ⟨hback, hfront, -⟩)
  · next front back =>
      have hmeets := (h front back rfl).1 hfront
      have hletter : ¬ Ignorable back := by
        intro hback
        rw [meetsCased_of_ignorable hback] at hmeets
        cases hmeets
      rw [meetsCased_append_of_not_ignorable hletter, hmeets] at hback
      cases hback
  · next front back => cases hfront.symm.trans ((h front back rfl).2 hback)

theorem lowerSigma_eq_of_not_turned {before after front back : List Char}
    (h : ¬ Turned before after (front ++ 'Σ' :: back)) :
    lowerSigma (front.reverse ++ before.reverse) (back ++ after) =
      lowerSigma front.reverse back := by
  unfold lowerSigma
  by_cases hfront : Ignorable front
  · -- on its own the sigma begins a word, so it is not final there
    have hreverse := ignorable_reverse_iff.2 hfront
    rw [meetsCased_append_of_ignorable hreverse, meetsCased_of_ignorable hreverse]
    cases hbefore : meetsCased before.reverse with
    | false => rfl
    | true =>
        cases hback : meetsCased (back ++ after) with
        | true => rfl
        | false => exact absurd (.final hfront hbefore hback) h
  · rw [meetsCased_append_of_not_ignorable (mt ignorable_reverse_iff.1 hfront)]
    by_cases hback : Ignorable back
    · rw [meetsCased_append_of_ignorable hback, meetsCased_of_ignorable hback]
      cases hletter : meetsCased front.reverse with
      | false => rfl
      | true =>
          cases hafter : meetsCased after with
          | false => rfl
          | true => exact absurd (.medial hback hletter hafter) h
    · rw [meetsCased_append_of_not_ignorable hback]

/-- A text none of whose sigmas is turned is lower-cased as on its own. -/
theorem infix_lowerFrom {before text after : List Char} (h : ¬ Turned before after text) :
    lowerFrom [] text <:+: lowerFrom [] (before ++ text ++ after) := by
  have hsame : lowerWithin before.reverse after text = lowerWithin [] [] text := by
    apply lowerWithin_congr
    rintro front back rfl
    rw [List.append_nil, List.append_nil]
    exact lowerSigma_eq_of_not_turned h
  rw [List.append_assoc, lowerFrom_append, lowerFrom_append, List.append_nil, hsame, lowerFrom_eq]
  exact List.infix_append' _ _ _

/-! ### Sigmas that can be turned -/

theorem not_infix_of_count_lt {text whole : List Char} {c : Char}
    (h : whole.count c < text.count c) : ¬ text <:+: whole :=
  fun hwithin => absurd (hwithin.sublist.count_le c) (Nat.not_le.2 h)

section Edges

variable {front back : List Char}

theorem lowerFrom_sigma (front back : List Char) :
    lowerFrom [] (front ++ 'Σ' :: back) = lowerWithin [] ('Σ' :: back) front ++
      lowerSigma front.reverse back :: lowerWithin ('Σ' :: front.reverse) [] back := by
  rw [lowerFrom_eq, lowerWithin_sigma, List.append_nil, List.append_nil, List.append_nil]

theorem lowerWithin_behind_sigma (before other after text : List Char) :
    lowerWithin ('Σ' :: before) after text = lowerWithin ('Σ' :: other) after text :=
  lowerWithin_eq_of_meetsCased ((meetsCased_sigma before).trans (meetsCased_sigma other).symm) rfl
    text

theorem lowerWithin_before_sigma (before after other text : List Char) :
    lowerWithin before ('Σ' :: after) text = lowerWithin before ('Σ' :: other) text :=
  lowerWithin_eq_of_meetsCased rfl ((meetsCased_sigma after).trans (meetsCased_sigma other).symm)
    text

theorem meetsCased_letter : meetsCased ['a'] = true := by
  decide +kernel

/-- A letter before the text makes its first sigma final. -/
theorem not_infix_of_final (hfront : Ignorable front) (hback : meetsCased back = false) :
    ¬ lowerFrom [] (front ++ 'Σ' :: back) <:+: lowerFrom [] (['a'] ++ (front ++ 'Σ' :: back)) := by
  have hreverse := ignorable_reverse_iff.2 hfront
  have hown : lowerSigma front.reverse back = 'σ' := by
    rw [lowerSigma, meetsCased_of_ignorable hreverse]
    rfl
  have hturned : lowerSigma (['a'] ++ front).reverse back = 'ς' := by
    rw [lowerSigma, List.reverse_append, meetsCased_append_of_ignorable hreverse, hback]
    exact congrArg (if · && true then 'ς' else 'σ') meetsCased_letter
  have hwhole : lowerWithin [] ('Σ' :: back) (['a'] ++ front) =
      'a' :: lowerWithin [] ('Σ' :: back) front := by
    rw [lowerWithin_append, lowerWithin_of_ignorable hfront _ _ [] ('Σ' :: back)]
    rfl
  apply not_infix_of_count_lt (c := 'σ')
  rw [← List.append_assoc, lowerFrom_sigma, lowerFrom_sigma, hown, hturned, hwhole,
    lowerWithin_behind_sigma _ front.reverse]
  simp

/-- A letter behind the text keeps its last sigma from being final. -/
theorem not_infix_of_medial (hback : Ignorable back) (hfront : meetsCased front.reverse = true) :
    ¬ lowerFrom [] (front ++ 'Σ' :: back) <:+: lowerFrom [] (front ++ 'Σ' :: back ++ ['a']) := by
  have hown : lowerSigma front.reverse back = 'ς' := by
    rw [lowerSigma, hfront, meetsCased_of_ignorable hback]
    rfl
  have hturned : lowerSigma front.reverse (back ++ ['a']) = 'σ' := by
    rw [lowerSigma, meetsCased_append_of_ignorable hback, meetsCased_letter, hfront]
    rfl
  have hwhole : lowerWithin ('Σ' :: front.reverse) [] (back ++ ['a']) =
      lowerWithin ('Σ' :: front.reverse) [] back ++ ['a'] := by
    rw [lowerWithin_append, lowerWithin_of_ignorable hback _ _ ('Σ' :: front.reverse) []]
    rfl
  apply not_infix_of_count_lt (c := 'ς')
  rw [List.append_assoc, List.cons_append, lowerFrom_sigma, lowerFrom_sigma, hown, hturned, hwhole,
    lowerWithin_before_sigma _ _ back]
  simp

end Edges

theorem settled_of_infix {text : List Char}
    (h : ∀ before after, lowerFrom [] text <:+: lowerFrom [] (before ++ text ++ after)) :
    Settled text := by
  rintro front back rfl
  constructor
  · intro hfront
    by_contra hback
    have hinfix := h ['a'] []
    rw [List.append_nil] at hinfix
    exact not_infix_of_final hfront (Bool.eq_false_iff.2 hback) hinfix
  · intro hback
    by_contra hfront
    exact not_infix_of_medial hback ((Bool.not_eq_false _).mp hfront) (h [] ['a'])

end Concord.Text
