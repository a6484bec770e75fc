import Mathlib
import Concord.Proofs.Json.Records
import Concord.Proofs.Json.Regular

/-!
# What decoders make of a text

A decoder yields a property if everything that it reads has the property, whatever the text is in
which it stands. The law of each decoder follows from those of its parts.
-/

namespace Concord

/-- The text of every field is in range. -/
def Opened.InRange (opened : Opened) : Prop :=
  ∀ name found, opened.find? name = some found → found.2.InRange

namespace Decoder

variable {α β : Type}

/-- Whatever is read has the property. -/
def Yields (decode : Decoder α) (property : α → Prop) : Prop :=
  ∀ allowance raw value, raw.InRange → decode allowance raw = .ok value → property value

variable {decode : Decoder α} {property : α → Prop}

theorem Yields.map {other : β → Prop} {f : α → β} (h : decode.Yields property)
    (hf : ∀ value, property value → other (f value)) :
    Yields (fun allowance raw => f <$> decode allowance raw) other := by
  intro allowance raw value hraw hread
  change f <$> decode allowance raw = .ok value at hread
  cases hdecode : decode allowance raw with
  | error fault =>
      rw [hdecode] at hread
      cases hread
  | ok found =>
      rw [hdecode] at hread
      cases hread
      exact hf found (h allowance raw found hraw hdecode)

theorem json_yields : json.Yields Json.Regular :=
  fun _ raw _ hraw hread => Raw.regular_of_value? raw hraw (json_eq_ok_iff.1 hread)

theorem word64_yields : word64.Yields (· < 2 ^ 64) := by
  have hinteger : (integer 0 (Nat.pow 2 64 - 1) "u64").Yields fun n => n.toNat < 2 ^ 64 := by
    intro allowance raw value _ hread
    obtain ⟨-, hlow, hhigh⟩ := integer_eq_ok_iff.1 hread
    have hpow : Nat.pow 2 64 = 2 ^ 64 := rfl
    omega
  exact hinteger.map fun _ hlt => hlt

theorem Yields.option (h : decode.Yields property) :
    (Decoder.option decode).Yields fun found => ∀ value, found = some value → property value := by
  have hsome : Yields (fun allowance raw => some <$> decode allowance raw)
      fun found => ∀ value, found = some value → property value := by
    refine h.map fun value hvalue => ?_
    rintro other ⟨⟩
    exact hvalue
  intro allowance raw found hraw hread
  unfold Decoder.option at hread
  split at hread
  · cases hread
    rintro value ⟨⟩
  · exact hsome allowance raw found hraw hread

theorem Yields.list (h : decode.Yields property) :
    (Decoder.list decode).Yields fun items => ∀ item ∈ items, property item := by
  intro allowance raw items hraw hread
  unfold Decoder.list at hread
  split at hread
  · next texts allowance =>
      intro item hitem
      obtain ⟨text, htext, hdecode⟩ := (mem_mapM_iff hread).1 hitem
      exact h allowance text item (Raw.inRangeItems_iff.1 hraw text htext) hdecode
  · cases hread
  · cases hread

/-! ### Records -/

section Fields

variable {opened : Opened} {name : String}

theorem Yields.of_withDefault (h : decode.Yields property) (hopened : opened.InRange)
    {default value : α} (hdefault : property default)
    (hread : (opened.withDefault name decode default).Gives value) : property value := by
  unfold Opened.withDefault at hread
  split at hread
  · next found hfound => exact h _ _ _ (hopened name found hfound) (Opened.gives_read.1 hread)
  · cases hread
    exact hdefault

theorem Yields.of_required (h : decode.Yields property) (hopened : opened.InRange) {value : α}
    (hread : (opened.required name decode).Gives value) : property value := by
  unfold Opened.required at hread
  split at hread
  · next found hfound => exact h _ _ _ (hopened name found hfound) (Opened.gives_read.1 hread)
  · cases hread

theorem Yields.of_optional (h : decode.Yields property) (hopened : opened.InRange)
    {found : Option α} (hread : (opened.optional name decode).Gives found) {value : α}
    (hvalue : found = some value) : property value :=
  h.option.of_withDefault hopened (by rintro value ⟨⟩) hread value hvalue

end Fields

theorem inRange_namedFields? {fields : List (Option String × Raw)} {named : List (String × Raw)}
    (hfields : Raw.InRangeFields fields) (h : namedFields? fields = some named) :
    ∀ field ∈ named, field.2.InRange := by
  induction fields generalizing named with
  | nil =>
      cases h
      rintro field ⟨⟩
  | cons field fields ih =>
      obtain ⟨name, raw⟩ := field
      simp only [namedFields?, Option.bind_eq_bind, Option.bind_eq_some_iff] at h
      obtain ⟨text, -, others, hothers, heq⟩ := h
      cases heq
      rw [List.forall_mem_cons]
      exact ⟨hfields.1, ih hfields.2 hothers⟩

theorem inRange_named {title : String} {names : List String} {allowance : Nat}
    {fields : List (String × Raw)} (h : ∀ field ∈ fields, field.2.InRange) :
    Opened.InRange ⟨title, names, allowance, .named fields⟩ := by
  intro name found hfound
  obtain ⟨place, -, hrest⟩ := Option.bind_eq_some_iff.1 hfound
  obtain ⟨raw, hraw, heq⟩ := Option.bind_eq_some_iff.1 hrest
  cases heq
  obtain ⟨earlier, later, hfields, -⟩ := List.lookup_eq_some_iff.1 hraw
  exact h (name, raw) (by simp [hfields])

theorem inRange_placed {title : String} {names : List String} {allowance : Nat}
    {items : List Raw} (h : ∀ item ∈ items, item.InRange) :
    Opened.InRange ⟨title, names, allowance, .placed items⟩ := by
  intro name found hfound
  obtain ⟨raw, hraw, heq⟩ := Option.bind_eq_some_iff.1 hfound
  cases heq
  exact h raw (List.mem_of_getElem? hraw)

/-- A record yields what its fields make of texts in range. -/
theorem yields_record {title : String} {names : List String} {build : Opened → Reading α}
    (h : ∀ opened : Opened, opened.InRange → ∀ value, (build opened).Gives value →
      property value) : (record title names build).Yields property := by
  have hfinish : ∀ (opened : Opened) (value : α), opened.InRange →
      ((fun value _ => value) <$> build opened <*> opened.whole : Reading α).done = .ok value →
        property value := by
    intro opened value hopened hread
    rw [Reading.done_eq_ok_iff, Reading.gives_seq] at hread
    obtain ⟨g, _, hg, -, rfl⟩ := hread
    obtain ⟨found, hbuild, rfl⟩ := Reading.gives_map.1 hg
    exact h opened hopened found hbuild
  intro allowance raw value hraw hread
  unfold record at hread
  dsimp only at hread
  split at hread
  · split at hread
    · next named hnamed =>
        exact hfinish _ value (inRange_named (inRange_namedFields? hraw hnamed)) hread
    · cases hread
  · exact hfinish _ value (inRange_placed (Raw.inRangeItems_iff.1 hraw)) hread
  · cases hread
  · cases hread
  · cases hread

/-! ### Tagged values -/

theorem inRange_untag? {tag name : String} {raw content : Raw} (hraw : raw.InRange)
    (h : raw.untag? tag = some (name, content)) : content.InRange := by
  unfold Raw.untag? at h
  split at h
  · next fields =>
      split at h
      · cases h
        rw [Raw.InRange, Raw.inRangeFields_iff]
        intro field hfield
        exact Raw.inRangeFields_iff.1 hraw field (List.mem_of_mem_filter hfield)
      · cases h
  · cases h
    exact hraw.2
  · cases h

theorem yields_tagged {tag : String} {variant : String → Option (Decoder α)}
    (h : ∀ name decode, variant name = some decode → decode.Yields property) :
    (tagged tag variant).Yields property := by
  intro allowance raw value hraw hread
  unfold tagged at hread
  split at hread
  · cases hread
  · split at hread
    · cases hread
    · next name content huntag =>
        split at hread
        · cases hread
        · next decode hvariant => exact h name decode hvariant _ _ _ (inRange_untag? hraw huntag) hread

/-! ### Texts and values -/

theorem Yields.of_read? (h : decode.Yields property) {text : String} {value : α}
    (hread : decode.read? text = some value) : property value := by
  unfold read? at hread
  split at hread
  · cases hread
  · next raw hraw =>
      cases hdecode : decode Raw.depthLimit raw with
      | error fault =>
          rw [hdecode] at hread
          cases hread
      | ok found =>
          rw [hdecode] at hread
          cases hread
          exact h _ _ _ (Raw.inRange_of_read hraw) hdecode

theorem Yields.of_take (h : decode.Yields property) {source : Json} {value : α}
    (hsource : source.InRange) (hread : decode.take source = .ok value) : property value :=
  h _ _ _ (Raw.inRange_raw source hsource) hread

end Decoder

end Concord
