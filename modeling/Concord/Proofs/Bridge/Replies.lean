import Mathlib
import Concord.Proofs.Bridge.Lifetime

/-!
# Which lines are replies

A line is taken for the reply to a request if it is an object that repeats the number of the
request, and also if it is an array that starts with that number and goes on as a reply might. Where
the line that is taken is an object, nothing else that the child prints counts.
-/

namespace Concord

/-! ### Records as objects and as arrays -/

theorem eq_map_of_namedFields? {fields : List (Option String × Raw)}
    {named : List (String × Raw)} (h : namedFields? fields = some named) :
    fields = named.map fun field => (some field.1, field.2) := by
  induction fields generalizing named with
  | nil =>
      cases h
      rfl
  | cons field fields ih =>
      obtain ⟨name, raw⟩ := field
      simp only [namedFields?, Option.bind_eq_bind, Option.bind_eq_some_iff] at h
      obtain ⟨text, rfl, others, hothers, heq⟩ := h
      cases heq
      rw [List.map_cons, ← ih hothers]

namespace Decoder

variable {α : Type} {title : String} {names : List String} {build : Opened → Reading α}
  {allowance : Nat} {raw : Raw} {value : α}

/-- A record is read from an object or from an array, and from nothing else. -/
theorem record_eq_ok_iff :
    record title names build (allowance + 1) raw = .ok value ↔
      ∃ fields : Fields,
        (match fields with
          | .named named => ∃ all, raw = .obj all ∧ namedFields? all = some named
          | .placed items => raw = .arr items) ∧
        (build ⟨title, names, allowance, fields⟩).Gives value ∧
        (Opened.whole ⟨title, names, allowance, fields⟩).Gives () := by
  have hfinish : ∀ opened : Opened,
      ((fun value _ => value) <$> build opened <*> opened.whole : Reading α).done = .ok value ↔
        (build opened).Gives value ∧ opened.whole.Gives () := by
    intro opened
    rw [Reading.done_eq_ok_iff]
    simp [Unique.exists_iff]
  cases raw with
  | obj all =>
      cases hnamed : namedFields? all with
      | none =>
          refine iff_of_false ?_ ?_
          · simp [record, hnamed]
          · rintro ⟨named | items, hfields, -⟩
            · obtain ⟨other, heq, hother⟩ := hfields
              cases heq
              cases hnamed.symm.trans hother
            · cases hfields
      | some named =>
          have hrecord : record title names build (allowance + 1) (.obj all) =
              ((fun value _ => value) <$> build ⟨title, names, allowance, .named named⟩ <*>
                Opened.whole ⟨title, names, allowance, .named named⟩ : Reading α).done := by
            simp [record, hnamed]
          rw [hrecord, hfinish]
          constructor
          · exact fun h => ⟨.named named, ⟨all, rfl, hnamed⟩, h⟩
          · rintro ⟨found | items, hfields, h⟩
            · obtain ⟨other, heq, hother⟩ := hfields
              cases heq
              obtain rfl := Option.some.inj (hnamed.symm.trans hother)
              exact h
            · cases hfields
  | arr items =>
      have hrecord : record title names build (allowance + 1) (.arr items) =
          ((fun value _ => value) <$> build ⟨title, names, allowance, .placed items⟩ <*>
            Opened.whole ⟨title, names, allowance, .placed items⟩ : Reading α).done := rfl
      rw [hrecord, hfinish]
      constructor
      · exact fun h => ⟨.placed items, rfl, h⟩
      · rintro ⟨named | others, hfields, h⟩
        · obtain ⟨other, heq, -⟩ := hfields
          cases heq
        · cases hfields
          exact h
  | null | bool | number | str =>
      refine iff_of_false (by rintro ⟨⟩) ?_
      rintro ⟨named | items, hfields, -⟩
      · obtain ⟨other, heq, -⟩ := hfields
        cases heq
      · cases hfields

theorem read?_eq_some_iff {decode : Decoder α} {text : String} :
    decode.read? text = some value ↔
      ∃ raw, Raw.read text = some raw ∧ decode Raw.depthLimit raw = .ok value := by
  unfold read?
  cases Raw.read text with
  | none => simp
  | some raw => cases h : decode Raw.depthLimit raw <;> simp [Except.toOption, h]

theorem option_eq_ok_some_iff {decode : Decoder α} (hnull : raw ≠ .null) :
    option decode allowance raw = .ok (some value) ↔ decode allowance raw = .ok value := by
  have hoption : option decode allowance raw = some <$> decode allowance raw := by
    unfold option
    split
    · next heq => exact absurd rfl hnull
    · rfl
  rw [hoption]
  cases decode allowance raw <;> simp

theorem option_word64_eq_ok_some_iff {n : Nat} :
    option word64 allowance raw = .ok (some n) ↔
      raw = .number (some (.int n)) ∧ n < 2 ^ 64 := by
  have hpow : Nat.pow 2 64 = 2 ^ 64 := rfl
  have hword : word64 allowance raw = .ok n ↔ raw = .number (some (.int n)) ∧ n < 2 ^ 64 := by
    rw [word64]
    cases hinteger : integer 0 (Nat.pow 2 64 - 1) "u64" allowance raw with
    | error fault =>
        refine iff_of_false (by rintro ⟨⟩) ?_
        rintro ⟨hraw, hlt⟩
        rw [integer_eq_ok_iff.2 ⟨hraw, by omega, by omega⟩] at hinteger
        cases hinteger
    | ok found =>
        obtain ⟨hraw, hlow, hhigh⟩ := integer_eq_ok_iff.1 hinteger
        rw [hraw]
        constructor
        · intro h
          obtain rfl : found.toNat = n := Except.ok.inj h
          rw [Int.toNat_of_nonneg hlow]
          exact ⟨rfl, by omega⟩
        · rintro ⟨heq, -⟩
          cases heq
          rfl
  cases raw with
  | null => exact iff_of_false (by rintro ⟨⟩) (by rintro ⟨⟨⟩, -⟩)
  | bool | number | str | arr | obj => rw [option_eq_ok_some_iff (by rintro ⟨⟩), hword]

end Decoder

namespace Opened

theorem gives_optional {α : Type} {opened : Opened} {name : String} {decode : Decoder α}
    {value : Option α} :
    (opened.optional name decode).Gives value ↔
      match opened.find? name with
      | some found => decode.option opened.allowance found.2 = .ok value
      | none => none = value := by
  unfold optional withDefault
  cases opened.find? name with
  | none => exact ⟨fun h => Except.ok.inj h, fun h => congrArg Except.ok h⟩
  | some found => exact gives_read

variable {title : String} {names : List String} {allowance : Nat}

theorem find?_placed {items : List Raw} {name : String} :
    (Opened.mk title names allowance (.placed items)).find? name =
      items[names.idxOf name]?.map (names.idxOf name, ·) := by
  unfold find?
  dsimp only
  cases items[names.idxOf name]? <;> rfl

theorem whole_placed_iff {items : List Raw} :
    (Opened.mk title names allowance (.placed items)).whole.Gives () ↔
      items.length ≤ names.length := by
  constructor
  · intro h
    by_contra hlong
    have hfault : (Opened.mk title names allowance (.placed items)).whole =
        Except.error (items.length, .long items.length) := if_pos (Nat.lt_of_not_le hlong)
    cases hfault.symm.trans h
  · exact fun hle => if_neg (Nat.not_lt.2 hle)

theorem filter_of_whole {named : List (String × Raw)} {name : String} {found : Nat × Raw}
    (hwhole : (Opened.mk title names allowance (.named named)).whole.Gives ())
    (hname : name ∈ names)
    (hfound : (Opened.mk title names allowance (.named named)).find? name = some found) :
    named.filter (·.1 == name) = [(name, found.2)] := by
  have hcount : ¬1 < (named.filter (·.1 == name)).length := by
    unfold whole at hwhole
    dsimp only at hwhole
    split at hwhole
    · cases hwhole
    · next hnone => simpa using List.find?_eq_none.1 hnone name hname
  obtain ⟨place, -, hrest⟩ := Option.bind_eq_some_iff.1 hfound
  obtain ⟨raw, hlookup, heq⟩ := Option.bind_eq_some_iff.1 hrest
  obtain rfl := Option.some.inj heq
  obtain ⟨earlier, later, rfl, hearlier⟩ := List.lookup_eq_some_iff.1 hlookup
  have hnone : earlier.filter (·.1 == name) = [] := by
    rw [List.filter_eq_nil_iff]
    intro field hfield heq
    simpa [eq_of_beq heq] using hearlier field hfield
  rw [List.filter_append, hnone, List.nil_append, List.filter_cons_of_pos (by simp)] at hcount ⊢
  rw [List.length_cons] at hcount
  rw [List.eq_nil_of_length_eq_zero (by omega : (later.filter (·.1 == name)).length = 0)]

end Opened

namespace Bridge

/-! ### Objects and arrays -/

/-- The line is an object that has one field `id`, and there the number of the request. -/
def Echoes (id : Nat) (line : Line) : Prop :=
  ∃ text fields, Text.Utf8.decode (line ++ [0x0A]) = .ok text ∧
    Raw.read text = some (.obj fields) ∧
    fields.filter (·.1 == some "id") = [(some "id", .number (some (.int id)))]

/-- The line is an array of the number of the request and at most a value and an error. -/
def Positional (id : Nat) (line : Line) : Prop :=
  id < 2 ^ 64 ∧ ∃ text items, Text.Utf8.decode (line ++ [0x0A]) = .ok text ∧
    Raw.read text = some (.arr (.number (some (.int id)) :: items)) ∧ items.length ≤ 2 ∧
    (∀ value ∈ items[0]?, (value.value? (Raw.depthLimit - 1)).isSome) ∧
    ∀ error ∈ items[1]?, error = .null ∨ ∃ message, error = .str (some message)

variable {id : Nat} {text : String}

theorem number?_eq_some_iff :
    number? text = some id ↔
      ∃ raw ok error, Raw.read text = some raw ∧
        reply Raw.depthLimit raw = .ok (some id, ok, error) := by
  unfold number?
  cases hread : reply.read? text with
  | none =>
      refine iff_of_false (by simp) ?_
      rintro ⟨raw, ok, error, hraw, hreply⟩
      rw [Decoder.read?_eq_some_iff.2 ⟨raw, hraw, hreply⟩] at hread
      cases hread
  | some found =>
      obtain ⟨number, ok, error⟩ := found
      obtain ⟨raw, hraw, hreply⟩ := Decoder.read?_eq_some_iff.1 hread
      rw [Option.bind_some]
      constructor
      · rintro rfl
        exact ⟨raw, ok, error, hraw, hreply⟩
      · rintro ⟨other, ok', error', hother, hreply'⟩
        obtain rfl := Option.some.inj (hraw.symm.trans hother)
        rw [hreply] at hreply'
        exact congrArg Prod.fst (Except.ok.inj hreply')

theorem number?_of_read? {ok : Option Json} {error : Option String}
    (h : reply.read? text = some (some id, ok, error)) : number? text = some id := by
  unfold number?
  rw [h]
  rfl

theorem reply_eq_ok_iff {raw : Raw} {number : Option Nat} {ok : Option Json}
    {error : Option String} :
    reply Raw.depthLimit raw = .ok (number, ok, error) ↔
      ∃ fields : Fields,
        (match fields with
          | .named named => ∃ all, raw = .obj all ∧ namedFields? all = some named
          | .placed items => raw = .arr items) ∧
        let opened : Opened := ⟨"Response", ["id", "ok", "error"], Raw.depthLimit - 1, fields⟩
        (opened.optional "id" .word64).Gives number ∧ (opened.optional "ok" .json).Gives ok ∧
          (opened.optional "error" .text).Gives error ∧ opened.whole.Gives () := by
  have hlimit : Raw.depthLimit = Raw.depthLimit - 1 + 1 := rfl
  rw [hlimit, reply, Decoder.record_eq_ok_iff]
  simp only [Reading.gives_seq, Reading.gives_map, Nat.add_sub_cancel]
  refine exists_congr fun fields => and_congr_right fun _ => ?_
  constructor
  · rintro ⟨⟨_, _, ⟨_, _, ⟨_, hnumber, rfl⟩, hok, rfl⟩, herror, heq⟩, hwhole⟩
    cases heq
    exact ⟨hnumber, hok, herror, hwhole⟩
  · rintro ⟨hnumber, hok, herror, hwhole⟩
    exact ⟨⟨_, _, ⟨_, _, ⟨_, hnumber, rfl⟩, hok, rfl⟩, herror, rfl⟩, hwhole⟩

theorem optional_json_isSome_iff {raw : Raw} {allowance : Nat} :
    (∃ ok, Decoder.json.option allowance raw = .ok ok) ↔ (raw.value? allowance).isSome := by
  cases raw with
  | null => exact iff_of_true ⟨none, rfl⟩ rfl
  | bool | number | str | arr | obj =>
      rw [Option.isSome_iff_exists]
      constructor
      · rintro ⟨ok, hok⟩
        cases ok with
        | none =>
            simp only [Decoder.option] at hok
            cases hjson : Decoder.json allowance _ <;> rw [hjson] at hok <;> cases hok
        | some value =>
            rw [Decoder.option_eq_ok_some_iff (by rintro ⟨⟩), Decoder.json_eq_ok_iff] at hok
            exact ⟨value, hok⟩
      · rintro ⟨value, hvalue⟩
        refine ⟨some value, ?_⟩
        rwa [Decoder.option_eq_ok_some_iff (by rintro ⟨⟩), Decoder.json_eq_ok_iff]

theorem optional_text_isSome_iff {raw : Raw} {allowance : Nat} :
    (∃ error, Decoder.text.option allowance raw = .ok error) ↔
      raw = .null ∨ ∃ message, raw = .str (some message) := by
  cases raw with
  | null => exact iff_of_true ⟨none, rfl⟩ (.inl rfl)
  | str value =>
      cases value with
      | none => exact iff_of_false (by rintro ⟨_, ⟨⟩⟩) (by rintro (⟨⟨⟩⟩ | ⟨_, ⟨⟩⟩))
      | some message => exact iff_of_true ⟨some message, rfl⟩ (.inr ⟨message, rfl⟩)
  | bool | number | arr | obj =>
      exact iff_of_false (by rintro ⟨_, ⟨⟩⟩) (by rintro (⟨⟨⟩⟩ | ⟨_, ⟨⟩⟩))

/-- An array stands for a reply to request `id` exactly if it looks like one, field by field. -/
theorem number?_of_arr {items : List Raw} (hread : Raw.read text = some (.arr items)) :
    number? text = some id ↔
      id < 2 ^ 64 ∧ ∃ rest, items = .number (some (.int id)) :: rest ∧ rest.length ≤ 2 ∧
        (∀ value ∈ rest[0]?, (value.value? (Raw.depthLimit - 1)).isSome) ∧
        ∀ error ∈ rest[1]?, error = .null ∨ ∃ message, error = .str (some message) := by
  have hplaces : (["id", "ok", "error"].idxOf "id" = 0) ∧ (["id", "ok", "error"].idxOf "ok" = 1) ∧
      ["id", "ok", "error"].idxOf "error" = 2 := by decide
  rw [number?_eq_some_iff]
  constructor
  · rintro ⟨raw, ok, error, hraw, hreply⟩
    obtain rfl := Option.some.inj (hread.symm.trans hraw)
    obtain ⟨named | others, hfields, hid, hok, herror, hwhole⟩ := reply_eq_ok_iff.1 hreply
    · obtain ⟨all, heq, -⟩ := hfields
      cases heq
    · cases hfields
      rw [Opened.gives_optional, Opened.find?_placed, hplaces.1] at hid
      rw [Opened.gives_optional, Opened.find?_placed, hplaces.2.1] at hok
      rw [Opened.gives_optional, Opened.find?_placed, hplaces.2.2] at herror
      rw [Opened.whole_placed_iff] at hwhole
      cases items with
      | nil => cases hid
      | cons first rest =>
          obtain ⟨rfl, hlt⟩ := Decoder.option_word64_eq_ok_some_iff.1 hid
          refine ⟨hlt, rest, rfl, Nat.le_of_succ_le_succ hwhole, ?_, ?_⟩
          · intro value hvalue
            rw [List.getElem?_cons_succ, Option.mem_def.1 hvalue] at hok
            exact optional_json_isSome_iff.1 ⟨ok, hok⟩
          · intro value hvalue
            rw [List.getElem?_cons_succ, Option.mem_def.1 hvalue] at herror
            exact optional_text_isSome_iff.1 ⟨error, herror⟩
  · rintro ⟨hlt, rest, rfl, hlength, hvalue, herror⟩
    -- each of the two further items is read if it is there, and is not needed
    obtain ⟨ok, hok⟩ : ∃ ok, match rest[0]? with
        | some raw => Decoder.json.option (Raw.depthLimit - 1) raw = .ok ok
        | none => none = ok := by
      cases hitem : rest[0]? with
      | none => exact ⟨none, rfl⟩
      | some raw => exact optional_json_isSome_iff.2 (hvalue raw hitem)
    obtain ⟨error, herror⟩ : ∃ error, match rest[1]? with
        | some raw => Decoder.text.option (Raw.depthLimit - 1) raw = .ok error
        | none => none = error := by
      cases hitem : rest[1]? with
      | none => exact ⟨none, rfl⟩
      | some raw => exact optional_text_isSome_iff.2 (herror raw hitem)
    refine ⟨_, ok, error, hread, reply_eq_ok_iff.2 ⟨.placed _, rfl, ?_, ?_, ?_, ?_⟩⟩
    · rw [Opened.gives_optional, Opened.find?_placed, hplaces.1]
      exact Decoder.option_word64_eq_ok_some_iff.2 ⟨rfl, hlt⟩
    · rw [Opened.gives_optional, Opened.find?_placed, hplaces.2.1, List.getElem?_cons_succ]
      cases hitem : rest[0]? <;> rw [hitem] at hok <;> exact hok
    · rw [Opened.gives_optional, Opened.find?_placed, hplaces.2.2, List.getElem?_cons_succ]
      cases hitem : rest[1]? <;> rw [hitem] at herror <;> exact herror
    · rw [Opened.whole_placed_iff]
      exact Nat.succ_le_succ hlength

theorem filter_of_number? {fields : List (Option String × Raw)}
    (hread : Raw.read text = some (.obj fields)) (h : number? text = some id) :
    fields.filter (·.1 == some "id") = [(some "id", .number (some (.int id)))] := by
  obtain ⟨raw, ok, error, hraw, hreply⟩ := number?_eq_some_iff.1 h
  obtain rfl := Option.some.inj (hread.symm.trans hraw)
  obtain ⟨named | items, hfields, hid, -, -, hwhole⟩ := reply_eq_ok_iff.1 hreply
  · obtain ⟨all, heq, hnamed⟩ := hfields
    cases heq
    rw [Opened.gives_optional] at hid
    cases hfound : Opened.find? ⟨"Response", ["id", "ok", "error"], Raw.depthLimit - 1,
        .named named⟩ "id" with
    | none =>
        rw [hfound] at hid
        cases hid
    | some found =>
        rw [hfound] at hid
        have hfilter := Opened.filter_of_whole hwhole List.mem_cons_self hfound
        rw [(Decoder.option_word64_eq_ok_some_iff.1 hid).1] at hfilter
        rw [eq_map_of_namedFields? hnamed, List.filter_map]
        exact congrArg (List.map _) hfilter
  · cases hfields

variable {line : Line}

/-- What is taken for a reply is an object that echoes the number, or an array that stands for
one. -/
theorem echoes_or_positional (htext : Text.Utf8.decode (line ++ [0x0A]) = .ok text)
    (h : number? text = some id) : Echoes id line ∨ Positional id line := by
  obtain ⟨raw, ok, error, hraw, hreply⟩ := number?_eq_some_iff.1 h
  obtain ⟨named | items, hfields, -⟩ := reply_eq_ok_iff.1 hreply
  · obtain ⟨all, rfl, -⟩ := hfields
    exact .inl ⟨text, all, htext, hraw, filter_of_number? hraw h⟩
  · cases hfields
    obtain ⟨hlt, rest, rfl, hrest⟩ := (number?_of_arr hraw).1 h
    exact .inr ⟨hlt, text, rest, htext, hraw, hrest⟩

theorem not_echoes_of_positional (h : Positional id line) : ¬Echoes id line := by
  rintro ⟨text, fields, htext, hread, -⟩
  obtain ⟨-, other, items, hother, harray, -⟩ := h
  obtain rfl := Except.ok.inj (htext.symm.trans hother)
  cases hread.symm.trans harray

/-! ### What is taken for the reply -/

/-- The line that the answer to the request is read from. -/
def Accepts (request : Request) (bridge : Bridge) (line : Line) : Prop :=
  bridge.Written ∧ ∃ skipped rest answer, offered request bridge = skipped ++ line :: rest ∧
    await (bridge.requests + 1) (offered request bridge) = .answered answer rest

section Accepts

variable {request : Request} {bridge : Bridge} {skipped rest : List Line}

theorem accepts_of_reply {ok : Option Json} {error : Option String} (hwritten : bridge.Written)
    (hlines : offered request bridge = skipped ++ line :: rest)
    (hskipped : ∀ other ∈ skipped, Other (bridge.requests + 1) other)
    (htext : Text.Utf8.decode (line ++ [0x0A]) = .ok text)
    (hread : reply.read? text = some (some (bridge.requests + 1), ok, error)) :
    Accepts request bridge line := by
  refine ⟨hwritten, skipped, rest, said ok error, hlines, ?_⟩
  rw [hlines]
  exact await_append_cons hskipped htext hread

/-- What is accepted is taken for a reply to the request. -/
theorem number?_of_accepts (h : Accepts request bridge line) :
    ∃ text, Text.Utf8.decode (line ++ [0x0A]) = .ok text ∧
      number? text = some (bridge.requests + 1) := by
  obtain ⟨-, skipped, rest, answer, hlines, hawait⟩ := h
  rcases await_cases (bridge.requests + 1) (offered request bridge) with
    ⟨others, found, behind, text, ok, error, hfound, hothers, htext, hread⟩ |
    ⟨others, found, behind, fault, hfound, hothers, hfault⟩ | hothers
  · rw [hfound, await_append_cons hothers htext hread] at hawait
    cases hawait
    -- the same lines stand behind both, so they are the same line
    rw [hfound, List.append_cons, List.append_cons skipped] at hlines
    obtain ⟨-, hline⟩ := List.append_inj' (List.append_cancel_right hlines) rfl
    cases hline
    exact ⟨text, htext, number?_of_read? hread⟩
  · rw [hfound, await_append_of_other hothers, await, hfault] at hawait
    cases hawait
  · rw [← List.append_nil (offered request bridge), await_append_of_other hothers] at hawait
    cases hawait

end Accepts

/-! ### Noise before the reply -/

/-- What is left of some lines after some of those that do not echo the number are taken out. Only
text is taken out. -/
inductive Cleared (id : Nat) : List Line → List Line → Prop
  | nil : Cleared id [] []
  | keep {lines kept : List Line} (line : Line) (hrest : Cleared id lines kept) :
      Cleared id (line :: lines) (line :: kept)
  | drop {lines kept : List Line} {line : Line} {text : String}
      (htext : Text.Utf8.decode (line ++ [0x0A]) = .ok text) (hline : ¬Echoes id line)
      (hrest : Cleared id lines kept) : Cleared id (line :: lines) kept

theorem Cleared.sublist {lines kept : List Line} (h : Cleared id lines kept) :
    kept.Sublist lines := by
  induction h with
  | nil => exact List.Sublist.slnil
  | keep line hrest ih => exact ih.cons_cons line
  | drop htext hline hrest ih => exact ih.cons _

/-- A line that cannot be taken out keeps its place behind what is left of the lines before it. -/
theorem Cleared.exists_split {skipped rest kept : List Line}
    (h : Cleared id (skipped ++ line :: rest) kept)
    (hline : Echoes id line ∨ ∃ fault, Text.Utf8.decode (line ++ [0x0A]) = .error fault) :
    ∃ before behind, kept = before ++ line :: behind ∧ before ⊆ skipped := by
  induction skipped generalizing kept with
  | nil =>
      cases h with
      | keep _ hrest => exact ⟨[], _, rfl, List.nil_subset []⟩
      | drop htext hnoise hrest =>
          rcases hline with hechoes | ⟨fault, hfault⟩
          · exact absurd hechoes hnoise
          · cases htext.symm.trans hfault
  | cons first skipped ih =>
      cases h with
      | keep _ hrest =>
          obtain ⟨before, behind, rfl, hsubset⟩ := ih hrest
          exact ⟨first :: before, behind, rfl, List.cons_subset_cons first hsubset⟩
      | drop htext hnoise hrest =>
          obtain ⟨before, behind, rfl, hsubset⟩ := ih hrest
          exact ⟨before, behind, rfl, List.subset_cons_of_subset first hsubset⟩

/-- The same bridge, with a program that prints something else. -/
def printing (bridge : Bridge) (output : List (Nat × String) → Output) : Bridge :=
  { bridge with program.output := output }

/-- Only an object is taken for the reply to the request, and no other line counts: whatever the
child prints besides, the request is reported on as it is without that, and leaves a child exactly
if it does so without. -/
structure OnlyObjects (use : Executor.Use) (bridge : Bridge) : Prop where
  accepted : ∀ line, Accepts (requestOf use) bridge line → Echoes (bridge.requests + 1) line
  unmoved : ∀ output, (∀ heard, (output heard).exited = (bridge.program.output heard).exited) →
    Cleared (bridge.requests + 1) (offered (requestOf use) bridge)
      (offered (requestOf use) (bridge.printing output)) →
    (Bridge.use use (bridge.printing output)).1 = (Bridge.use use bridge).1 ∧
      (Bridge.use use (bridge.printing output)).2.child.isSome =
        (Bridge.use use bridge).2.child.isSome

section OnlyObjects

variable {use : Executor.Use} {bridge : Bridge}

theorem not_onlyObjects_of_positional (haccepts : Accepts (requestOf use) bridge line)
    (hline : Positional (bridge.requests + 1) line) : ¬OnlyObjects use bridge :=
  fun h => not_echoes_of_positional hline (h.accepted line haccepts)

variable {request : Request} {output : List (Nat × String) → Output}

theorem reached_printing
    (hexited : ∀ heard, (output heard).exited = (bridge.program.output heard).exited) :
    reached request (bridge.printing output) = reached request bridge := by
  unfold reached
  exact if_congr (by rw [← hexited]; rfl) rfl rfl

theorem writeFault?_printing
    (hexited : ∀ heard, (output heard).exited = (bridge.program.output heard).exited)
    (child : Child) : (bridge.printing output).writeFault? child = bridge.writeFault? child := by
  unfold writeFault?
  exact if_congr (by rw [← hexited]; rfl) rfl rfl

theorem Written.printing
    (hexited : ∀ heard, (output heard).exited = (bridge.program.output heard).exited)
    (h : bridge.Written) : (bridge.printing output).Written :=
  ⟨h.ready, (writeFault?_printing hexited _).trans h.written⟩

/-- If the reply is an object, the request ends as it does without the noise. -/
theorem ends_of_cleared
    (hexited : ∀ heard, (output heard).exited = (bridge.program.output heard).exited)
    (hcleared : Cleared (bridge.requests + 1) (offered request bridge)
      (offered request (bridge.printing output)))
    (hobject : ∀ line, Accepts request bridge line → ¬Positional (bridge.requests + 1) line)
    {ending : Ending} (h : Ends request bridge ending) :
    Ends request (bridge.printing output) ending := by
  have hothers : (∀ line ∈ offered request bridge, Other (bridge.requests + 1) line) →
      ∀ line ∈ offered request (bridge.printing output), Other (bridge.requests + 1) line :=
    fun hall line hline => hall line (hcleared.sublist.subset hline)
  cases h with
  | refused hchild hrefusal => exact .refused hchild hrefusal
  | unwritten hready hfault =>
      exact .unwritten hready ((writeFault?_printing hexited _).trans hfault)
  | unread hwritten hall hfault =>
      refine .unread (hwritten.printing hexited) (hothers hall) ?_
      rw [reached_printing hexited]
      exact hfault
  | closed hwritten hall hfault =>
      refine .closed (hwritten.printing hexited) (hothers hall) ?_
      rw [reached_printing hexited]
      exact hfault
  | garbled hwritten hlines hskipped hfault =>
      rw [hlines] at hcleared
      obtain ⟨before, behind, hkept, hsubset⟩ := hcleared.exists_split (.inr ⟨_, hfault⟩)
      exact .garbled (hwritten.printing hexited) hkept
        (fun other hother => hskipped other (hsubset hother)) hfault
  | @replied skipped rest line text ok error hwritten hlines hskipped htext hread =>
      have hechoes : Echoes (bridge.requests + 1) line := by
        have haccepts := accepts_of_reply hwritten hlines hskipped htext hread
        rcases echoes_or_positional htext (number?_of_read? hread) with hechoes | hpositional
        · exact hechoes
        · exact absurd hpositional (hobject line haccepts)
      rw [hlines] at hcleared
      obtain ⟨before, behind, hkept, hsubset⟩ := hcleared.exists_split (.inl hechoes)
      exact .replied (hwritten.printing hexited) hkept
        (fun other hother => hskipped other (hsubset hother)) htext hread

/-- **Only an object is taken for a reply, unless the line that is taken is an array** of the number
of the request and at most a value and an error. -/
theorem onlyObjects_iff :
    OnlyObjects use bridge ↔
      ∀ line, Accepts (requestOf use) bridge line → ¬Positional (bridge.requests + 1) line := by
  constructor
  · intro h line haccepts hpositional
    exact not_onlyObjects_of_positional haccepts hpositional h
  · intro hobject
    refine ⟨?_, ?_⟩
    · intro line haccepts
      obtain ⟨text, htext, hnumber⟩ := number?_of_accepts haccepts
      rcases echoes_or_positional htext hnumber with hechoes | hpositional
      · exact hechoes
      · exact absurd hpositional (hobject line haccepts)
    · intro output hexited hcleared
      obtain ⟨ending, hends⟩ := exists_ends (requestOf use) bridge
      obtain ⟨hreport, hchild⟩ := use_of_ends hends
      obtain ⟨hsame, hsameChild⟩ :=
        use_of_ends (ends_of_cleared hexited hcleared hobject hends)
      exact ⟨hsame.trans hreport.symm, hsameChild.trans hchild.symm⟩

def printedList : Line :=
  Text.Utf8.encode "[1]"

def deployReply : Line :=
  Text.Utf8.encode "\x7b\"id\":1,\"ok\":\x7b\"handle\":\"c1\"\x7d\x7d"

/-- A child that prints a list, and the reply after it. -/
def lister : Bridge where
  program := Program.answering fun _ => some [printedList, deployReply]

/-- The list is taken for a reply without a value, and the reply is lost with the child. -/
theorem not_onlyObjects_of_list :
    let deploy : Executor.Use := .deploy "contract" []
    ¬OnlyObjects deploy lister ∧
      (Bridge.use deploy lister).1 = .deployed (.error (.bridge
        "unexpected backend payload: invalid type: null, expected struct Deployed")) ∧
      (Bridge.use deploy lister).2.child = none := by
  intro deploy
  have hlines : offered (requestOf deploy) lister = [] ++ printedList :: [deployReply] := rfl
  have htext : Text.Utf8.decode (printedList ++ [0x0A]) = .ok "[1]\n" := by decide +kernel
  have hread : reply.read? "[1]\n" = some (some 1, none, none) := rfl
  have hwritten : lister.Written := ⟨fun _ => rfl, rfl⟩
  have hends : Ends (requestOf deploy) lister (.replied none none) :=
    .replied hwritten hlines nofun htext hread
  refine ⟨?_, (use_of_ends hends).1.trans rfl, gone_of_ends hends rfl⟩
  apply not_onlyObjects_of_positional (accepts_of_reply hwritten hlines nofun htext hread)
  exact ⟨by decide, _, [], htext, rfl, by decide, nofun, nofun⟩

end OnlyObjects

end Bridge

end Concord
