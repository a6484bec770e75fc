import Mathlib
import Concord.Text.Blank
import Concord.Text.Search

/-!
# Labels, lines and white space

Laws of the functions that a log is read with: where the first label of a text stands, what the
lines of a text are when it grows at its end, and what trimming leaves of it.
-/

namespace Concord.Text

/-! ### Labels -/

theorem dropLabel?_eq_some_iff {label text rest : List Char} :
    dropLabel? label text = some rest ↔ text = label ++ rest := by
  induction label generalizing text with
  | nil => simp [dropLabel?]
  | cons l label ih =>
      cases text with
      | nil => simp [dropLabel?]
      | cons c text =>
          rw [dropLabel?]
          split
          · next heq => rw [ih, heq, List.cons_append, List.cons.injEq, eq_self, true_and]
          · next hne =>
              refine iff_of_false nofun fun h => hne ?_
              exact (List.cons.inj h).1.symm

/-- A label stands behind some text, and nowhere before. -/
structure FirstAt (label text before rest : List Char) : Prop where
  split : text = before ++ label ++ rest
  first : ∀ earlier later, text = earlier ++ label ++ later → before.length ≤ earlier.length

theorem FirstAt.cons {label text before rest : List Char} {c : Char}
    (h : FirstAt label text before rest) (hnone : dropLabel? label (c :: text) = none) :
    FirstAt label (c :: text) (c :: before) rest where
  split := congrArg (c :: ·) h.split
  first := by
    intro earlier later hsplit
    cases earlier with
    | nil =>
        cases hnone.symm.trans (dropLabel?_eq_some_iff.2 hsplit)
    | cons d earlier =>
        exact Nat.succ_le_succ (h.first earlier later (List.cons.inj hsplit).2)

theorem FirstAt.of_cons {label text before rest : List Char} {c : Char}
    (h : FirstAt label (c :: text) before rest) (hnone : dropLabel? label (c :: text) = none) :
    ∃ tail, before = c :: tail ∧ FirstAt label text tail rest := by
  cases before with
  | nil => cases hnone.symm.trans (dropLabel?_eq_some_iff.2 h.split)
  | cons d tail =>
      obtain ⟨rfl, htext⟩ := List.cons.inj h.split
      refine ⟨tail, rfl, htext, fun earlier later hsplit => ?_⟩
      exact Nat.le_of_succ_le_succ (h.first (c :: earlier) later (congrArg (c :: ·) hsplit))

theorem firstAt_nil {label text rest : List Char} (h : text = label ++ rest) :
    FirstAt label text [] rest :=
  ⟨h, fun earlier _ _ => Nat.zero_le earlier.length⟩

theorem FirstAt.eq_of_start {label text before rest found : List Char}
    (h : FirstAt label text before rest) (hstart : text = label ++ found) : found = rest := by
  have hle := h.first [] found hstart
  obtain rfl : before = [] := List.eq_nil_of_length_eq_zero (Nat.le_zero.1 hle)
  exact List.append_cancel_left (hstart.symm.trans h.split)

theorem after?_eq_some_iff {label text rest : List Char} :
    after? label text = some rest ↔ ∃ before, FirstAt label text before rest := by
  induction text with
  | nil =>
      rw [after?, dropLabel?_eq_some_iff]
      refine ⟨fun h => ⟨[], firstAt_nil h⟩, fun ⟨before, h⟩ => ?_⟩
      have hsplit := h.split
      simp_all
  | cons c text ih =>
      rw [after?]
      cases hdrop : dropLabel? label (c :: text) with
      | some found =>
          have hstart := dropLabel?_eq_some_iff.1 hdrop
          constructor
          · rintro ⟨⟩
            exact ⟨[], firstAt_nil hstart⟩
          · rintro ⟨before, h⟩
            exact congrArg some (h.eq_of_start hstart)
      | none =>
          refine ih.trans ⟨fun ⟨before, h⟩ => ⟨c :: before, h.cons hdrop⟩, fun ⟨before, h⟩ => ?_⟩
          obtain ⟨tail, -, htail⟩ := h.of_cons hdrop
          exact ⟨tail, htail⟩

theorem after?_eq_none_iff {label text : List Char} :
    after? label text = none ↔ ¬ label <:+: text := by
  constructor
  · rintro hnone hinfix
    induction text with
    | nil =>
        obtain rfl := List.eq_nil_of_infix_nil hinfix
        cases hnone
    | cons c text ih =>
        rw [after?] at hnone
        cases hdrop : dropLabel? label (c :: text) with
        | some found =>
            rw [hdrop] at hnone
            cases hnone
        | none =>
            rw [hdrop] at hnone
            rcases List.infix_cons_iff.1 hinfix with hprefix | hrest
            · obtain ⟨rest, hrest⟩ := hprefix
              cases hdrop.symm.trans (dropLabel?_eq_some_iff.2 hrest.symm)
            · exact ih hnone hrest
  · intro hinfix
    cases hafter : after? label text with
    | none => rfl
    | some rest =>
        obtain ⟨before, h⟩ := after?_eq_some_iff.1 hafter
        exact absurd ⟨before, rest, h.split.symm⟩ hinfix

/-- What is added at the end of a text makes no label stand before the first one. -/
theorem FirstAt.append {label text before rest : List Char} (h : FirstAt label text before rest)
    (more : List Char) : FirstAt label (text ++ more) before (rest ++ more) where
  split := by rw [h.split, List.append_assoc]
  first := by
    intro earlier later hsplit
    by_contra hlt
    -- An occurrence before the first one ends within the text, so it is one of the text itself.
    have hlength : (earlier ++ label).length ≤ text.length := by
      rw [h.split]
      simp only [List.length_append]
      omega
    have hwhole : earlier ++ label <+: text ++ more := ⟨later, hsplit.symm⟩
    obtain ⟨between, hbetween⟩ :=
      List.prefix_of_prefix_length_le hwhole (List.prefix_append text more) hlength
    exact hlt (h.first earlier between hbetween.symm)

theorem after?_append {label text rest : List Char} (h : after? label text = some rest)
    (more : List Char) : after? label (text ++ more) = some (rest ++ more) := by
  obtain ⟨before, hfirst⟩ := after?_eq_some_iff.1 h
  exact after?_eq_some_iff.2 ⟨before, hfirst.append more⟩

/-- An occurrence that takes up the mark at the end would hold the mark. -/
theorem infix_of_append_mark {label text : List Char} {mark : Char} (hmark : mark ∉ label)
    (h : label <:+: text ++ [mark]) : label <:+: text := by
  rcases List.infix_concat_iff.1 h with hsuffix | hinfix
  · rcases List.eq_nil_or_concat label with rfl | ⟨front, last, rfl⟩
    · exact List.nil_infix
    · obtain ⟨before, hbefore⟩ := hsuffix
      rw [List.concat_eq_append, ← List.append_assoc] at hbefore
      obtain rfl := List.singleton_inj.1 (List.append_inj_right' hbefore rfl)
      exact absurd (by simp) hmark
  · exact hinfix

/-- A mark at the end of a text is no part of a label without that mark. -/
theorem after?_append_mark {label : List Char} {mark : Char} (hmark : mark ∉ label)
    (text : List Char) : after? label (text ++ [mark]) = (after? label text).map (· ++ [mark]) := by
  cases hafter : after? label text with
  | some rest => exact after?_append hafter [mark]
  | none =>
      refine after?_eq_none_iff.2 fun hinfix => ?_
      exact after?_eq_none_iff.1 hafter (infix_of_append_mark hmark hinfix)

/-! ### Trimming -/

theorem trim_eq (text : List Char) : trim text = (text.dropWhile isBlank).rdropWhile isBlank :=
  rfl

theorem trim_eq_nil_iff {text : List Char} : trim text = [] ↔ ∀ c ∈ text, isBlank c = true := by
  rw [trim_eq, List.rdropWhile_eq_nil_iff, ← List.dropWhile_eq_nil_iff,
    List.dropWhile_idempotent, List.dropWhile_eq_nil_iff]

theorem rdropWhile_append_of_blank {more : List Char} (h : ∀ c ∈ more, isBlank c = true)
    (text : List Char) : (text ++ more).rdropWhile isBlank = text.rdropWhile isBlank := by
  unfold List.rdropWhile
  rw [List.reverse_append, List.dropWhile_append_of_pos]
  exact fun c hc => h c (List.mem_reverse.1 hc)

theorem dropWhile_append_of_not_blank {text : List Char} (h : ¬ ∀ c ∈ text, isBlank c = true)
    (more : List Char) :
    (text ++ more).dropWhile isBlank = text.dropWhile isBlank ++ more := by
  rw [List.dropWhile_append, if_neg]
  rw [List.isEmpty_iff, List.dropWhile_eq_nil_iff]
  exact h

theorem rdropWhile_append_of_not_blank {more : List Char} (h : ¬ ∀ c ∈ more, isBlank c = true)
    (text : List Char) :
    (text ++ more).rdropWhile isBlank = text ++ more.rdropWhile isBlank := by
  have hreverse : ¬ ∀ c ∈ more.reverse, isBlank c = true :=
    fun hall => h fun c hc => hall c (List.mem_reverse.2 hc)
  unfold List.rdropWhile
  rw [List.reverse_append, dropWhile_append_of_not_blank hreverse, List.reverse_append,
    List.reverse_reverse]

/-- What is added to a text is lost in trimming exactly if it is blank. -/
theorem trim_append_eq_iff {text more : List Char} (h : ¬ ∀ c ∈ text, isBlank c = true) :
    trim (text ++ more) = trim text ↔ ∀ c ∈ more, isBlank c = true := by
  rw [trim_eq, trim_eq, dropWhile_append_of_not_blank h]
  refine ⟨fun heq => ?_, fun hmore => rdropWhile_append_of_blank hmore _⟩
  by_contra hmore
  -- All of the text is kept then, and something of what was added, which is too long.
  rw [rdropWhile_append_of_not_blank hmore] at heq
  have hkept : more.rdropWhile isBlank ≠ [] := fun hnil =>
    hmore (List.rdropWhile_eq_nil_iff.1 hnil)
  have hshort := (List.rdropWhile_prefix isBlank (l := text.dropWhile isBlank)).length_le
  rw [← heq, List.length_append] at hshort
  exact hkept (List.eq_nil_of_length_eq_zero (by omega))

theorem trim_append_of_blank {more : List Char} (h : ∀ c ∈ more, isBlank c = true)
    (text : List Char) : trim (text ++ more) = trim text := by
  by_cases htext : ∀ c ∈ text, isBlank c = true
  · rw [trim_eq_nil_iff.2 htext, trim_eq_nil_iff]
    intro c hc
    exact (List.mem_append.1 hc).elim (htext c) (h c)
  · exact (trim_append_eq_iff htext).2 h

/-! ### Lines -/

theorem pieces_cons_break (rest : List Char) : pieces ('\n' :: rest) = [] :: pieces rest := by
  rw [pieces, if_pos rfl]

/-- The first piece is the text before the first line feed. -/
theorem exists_pieces {text : List Char} (h : text ≠ []) :
    ∃ more, pieces text = text.takeWhile (· != '\n') :: more := by
  induction text with
  | nil => exact absurd rfl h
  | cons c rest ih =>
      by_cases hbreak : c = '\n'
      · subst hbreak
        exact ⟨pieces rest, pieces_cons_break rest⟩
      · have htaken : (c != '\n') = true := bne_iff_ne.2 hbreak
        rw [pieces, if_neg hbreak, List.takeWhile_cons, htaken]
        cases rest with
        | nil => exact ⟨[], rfl⟩
        | cons d rest =>
            obtain ⟨more, hmore⟩ := ih (List.cons_ne_nil d rest)
            rw [hmore]
            exact ⟨more, rfl⟩

theorem pieces_of_unbroken {text : List Char} (hne : text ≠ [])
    (h : ∀ c ∈ text, (c != '\n') = true) : pieces text = [text] := by
  induction text with
  | nil => exact absurd rfl hne
  | cons c rest ih =>
      rw [pieces, if_neg (bne_iff_ne.1 (h c List.mem_cons_self))]
      cases rest with
      | nil => rfl
      | cons d rest =>
          rw [ih (List.cons_ne_nil d rest) fun e he => h e (List.mem_cons_of_mem c he)]

/-- A text whose last line is complete keeps its pieces when it grows. -/
theorem pieces_append {text : List Char} (h : text = [] ∨ text.getLast? = some '\n')
    (more : List Char) : pieces (text ++ more) = pieces text ++ pieces more := by
  induction text with
  | nil => rfl
  | cons c rest ih =>
      have hlast : (c :: rest).getLast? = some '\n' := h.resolve_left (List.cons_ne_nil c rest)
      by_cases hbreak : c = '\n'
      · subst hbreak
        rw [List.cons_append, pieces_cons_break, pieces_cons_break, ih, List.cons_append]
        cases rest with
        | nil => exact .inl rfl
        | cons d rest => exact .inr hlast
      · cases rest with
        | nil => exact absurd (Option.some.inj hlast) hbreak
        | cons d rest =>
            obtain ⟨tail, htail⟩ := exists_pieces (List.cons_ne_nil d rest)
            rw [List.cons_append, pieces, if_neg hbreak, pieces, if_neg hbreak, ih (.inr hlast), htail]
            rfl

/-- A function of lines that does not mind a carriage return may be told from the pieces. -/
theorem map_lines {β : Type} {f : List Char → β} (h : ∀ line, f (dropReturn line) = f line)
    (text : List Char) : (lines text).map f = (pieces text).map f := by
  have hcomp : f ∘ dropReturn = f := funext h
  unfold lines
  split
  · rw [List.map_map, hcomp]
  · rw [List.map_append, List.map_map, hcomp, ← List.map_append, List.dropLast_eq_take,
      List.take_append_drop]

theorem dropReturn_append_return (line : List Char) : dropReturn (line ++ ['\r']) = line := by
  simp [dropReturn]

/-- A line is as it was, or its carriage return is gone. -/
theorem dropReturn_cases (line : List Char) :
    dropReturn line = line ∨ line = dropReturn line ++ ['\r'] := by
  rcases List.eq_nil_or_concat line with rfl | ⟨front, last, rfl⟩
  · exact .inl rfl
  · rw [List.concat_eq_append]
    by_cases hlast : last = '\r'
    · subst hlast
      exact .inr (by rw [dropReturn_append_return])
    · left
      rw [dropReturn, List.getLast?_concat]
      split
      · next heq => exact absurd (Option.some.inj heq) hlast
      · rfl

end Concord.Text
