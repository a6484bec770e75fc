import Mathlib
import Concord.Proofs.Text
import Concord.Seed

/-!
# Which seed a log names

The seed is read from the first labelled line of the window, also where nothing stands behind the
label there, and up to the end of that line as far as it is written. So a labelled line without a
value hides the seeds behind it, and a seed that is still being written is taken for a whole one.
-/

namespace Concord.Seed

open Text (FirstAt after? isBlank trim pieces)

/-! ### One line -/

/-- A line names the trimmed text behind its first label, if that is not all white space. -/
def Names (line : List Char) (seed : String) : Prop :=
  ∃ before rest, FirstAt label line before rest ∧ (¬ ∀ c ∈ rest, isBlank c = true) ∧
    seed = String.ofList (trim rest)

/-- The trimmed text behind the first label of a line. -/
def value? (line : List Char) : Option (List Char) :=
  (after? label line).map trim

theorem value?_eq_none_iff {line : List Char} : value? line = none ↔ ¬ label <:+: line := by
  rw [value?, Option.map_eq_none_iff, Text.after?_eq_none_iff]

theorem infix_iff {line : List Char} : label <:+: line ↔ ∃ found, value? line = some found := by
  rw [← Option.ne_none_iff_exists', Ne, value?_eq_none_iff, not_not]

theorem names_iff {line : List Char} {seed : String} :
    Names line seed ↔ ∃ found, value? line = some found ∧ found ≠ [] ∧
      seed = String.ofList found := by
  constructor
  · rintro ⟨before, rest, hfirst, hblank, hseed⟩
    have hafter := Text.after?_eq_some_iff.2 ⟨before, hfirst⟩
    exact ⟨trim rest, congrArg (Option.map trim) hafter, mt Text.trim_eq_nil_iff.1 hblank, hseed⟩
  · rintro ⟨found, hvalue, hne, hseed⟩
    obtain ⟨rest, hafter, rfl⟩ := Option.map_eq_some_iff.1 hvalue
    obtain ⟨before, hfirst⟩ := Text.after?_eq_some_iff.1 hafter
    exact ⟨before, rest, hfirst, mt Text.trim_eq_nil_iff.2 hne, hseed⟩

theorem Names.infix {line : List Char} {seed : String} (h : Names line seed) :
    label <:+: line := by
  obtain ⟨found, hvalue, -⟩ := names_iff.1 h
  exact infix_iff.2 ⟨found, hvalue⟩

/-! ### The first labelled line -/

/-- What stands behind the label in the first labelled one of some lines. -/
def value (lines : List (List Char)) : Option (List Char) :=
  lines.findSome? value?

theorem value_eq_none_iff {lines : List (List Char)} :
    value lines = none ↔ ∀ line ∈ lines, ¬ label <:+: line := by
  rw [value, List.findSome?_eq_none_iff]
  simp only [value?_eq_none_iff]

theorem value_eq_some_iff {lines : List (List Char)} {found : List Char} :
    value lines = some found ↔ ∃ before line later, lines = before ++ line :: later ∧
      value? line = some found ∧ ∀ earlier ∈ before, ¬ label <:+: earlier := by
  rw [value, List.findSome?_eq_some_iff]
  simp only [value?_eq_none_iff]

theorem find_eq (log : String) (window : Nat) :
    find log window = (value ((Text.lines log.toList).take window)).bind fun found =>
      if found = [] then none else some (String.ofList found) := by
  have hvalue : value? = Option.map trim ∘ after? label := rfl
  rw [value, hvalue, ← List.map_findSome?, Option.bind_map]
  unfold find
  split
  · next found hfound => rw [hfound]; rfl
  · next hnone => rw [hnone]; rfl

theorem find_eq_some_iff_value {log seed : String} {window : Nat} :
    find log window = some seed ↔ ∃ found, value ((Text.lines log.toList).take window) = some found ∧
      found ≠ [] ∧ seed = String.ofList found := by
  rw [find_eq, Option.bind_eq_some_iff]
  refine exists_congr fun found => and_congr_right fun _ => ?_
  rw [Option.ite_none_left_eq_some, Option.some.injEq]
  exact and_congr_right fun _ => eq_comm

/-- A seed is found in the first labelled line or not at all. -/
theorem find_eq_some_iff {log seed : String} {window : Nat} :
    find log window = some seed ↔ ∃ before line later,
      (Text.lines log.toList).take window = before ++ line :: later ∧
      (∀ earlier ∈ before, ¬ label <:+: earlier) ∧ Names line seed := by
  rw [find_eq_some_iff_value]
  constructor
  · rintro ⟨found, hfound, hne, hseed⟩
    obtain ⟨before, line, later, hlines, hvalue, hbefore⟩ := value_eq_some_iff.1 hfound
    exact ⟨before, line, later, hlines, hbefore, names_iff.2 ⟨found, hvalue, hne, hseed⟩⟩
  · rintro ⟨before, line, later, hlines, hbefore, hnames⟩
    obtain ⟨found, hvalue, hne, hseed⟩ := names_iff.1 hnames
    exact ⟨found, value_eq_some_iff.2 ⟨before, line, later, hlines, hvalue, hbefore⟩, hne, hseed⟩

/-! ### Seeds that are hidden -/

/-- The seed of a log is the one that the first line of the window names that names one. -/
def FindsFirst (log : String) (window : Nat) : Prop :=
  ∀ seed, find log window = some seed ↔ ∃ before line later,
    (Text.lines log.toList).take window = before ++ line :: later ∧
    (∀ earlier ∈ before, ∀ other, ¬ Names earlier other) ∧ Names line seed

/-- The first labelled line of the window names no seed, and a later one does. -/
def Hidden (log : String) (window : Nat) : Prop :=
  ∃ before line later, (Text.lines log.toList).take window = before ++ line :: later ∧
    (∀ earlier ∈ before, ¬ label <:+: earlier) ∧
    (label <:+: line ∧ ∀ seed, ¬ Names line seed) ∧ ∃ named ∈ later, ∃ seed, Names named seed

theorem exists_first_named {lines : List (List Char)} (h : ∃ line ∈ lines, ∃ seed, Names line seed) :
    ∃ before line later seed, lines = before ++ line :: later ∧
      (∀ earlier ∈ before, ∀ other, ¬ Names earlier other) ∧ Names line seed := by
  induction lines with
  | nil =>
      obtain ⟨line, hmem, -⟩ := h
      cases hmem
  | cons first lines ih =>
      by_cases hfirst : ∃ seed, Names first seed
      · obtain ⟨seed, hseed⟩ := hfirst
        exact ⟨[], first, lines, seed, rfl, nofun, hseed⟩
      · have hnone : ∀ other, ¬ Names first other := not_exists.1 hfirst
        obtain ⟨line, hmem, seed, hseed⟩ := h
        rcases List.mem_cons.1 hmem with rfl | hmem
        · exact absurd hseed (hnone seed)
        · obtain ⟨before, line, later, seed, rfl, hbefore, hnames⟩ := ih ⟨line, hmem, seed, hseed⟩
          refine ⟨first :: before, line, later, seed, rfl, ?_, hnames⟩
          rintro earlier hearlier
          rcases List.mem_cons.1 hearlier with rfl | hearlier
          · exact hnone
          · exact hbefore earlier hearlier

theorem Hidden.find_eq_none {log : String} {window : Nat} (h : Hidden log window) :
    find log window = none := by
  obtain ⟨before, line, later, hlines, hbefore, ⟨hlabel, hnone⟩, -⟩ := h
  obtain ⟨found, hvalue⟩ := infix_iff.1 hlabel
  rw [find_eq, value_eq_some_iff.2 ⟨before, line, later, hlines, hvalue, hbefore⟩, Option.bind_some]
  refine if_pos ?_
  by_contra hne
  exact hnone _ (names_iff.2 ⟨found, hvalue, hne, rfl⟩)

theorem Hidden.not_findsFirst {log : String} {window : Nat} (h : Hidden log window) :
    ¬ FindsFirst log window := by
  intro hfinds
  have hnone := h.find_eq_none
  obtain ⟨before, line, later, hlines, -, -, named, hmem, hnames⟩ := h
  have hnamed : named ∈ (Text.lines log.toList).take window := by
    rw [hlines]
    exact List.mem_append_right _ (List.mem_cons_of_mem _ hmem)
  obtain ⟨before, line, later, seed, hfirst⟩ := exists_first_named ⟨named, hnamed, hnames⟩
  cases hnone.symm.trans ((hfinds seed).2 ⟨before, line, later, hfirst⟩)

/-- Where no seed is hidden, no line before the first named seed is labelled. -/
theorem not_infix_of_not_hidden {log : String} {window : Nat} (h : ¬ Hidden log window)
    {before later : List (List Char)} {line : List Char} {seed : String}
    (hlines : (Text.lines log.toList).take window = before ++ line :: later)
    (hbefore : ∀ earlier ∈ before, ∀ other, ¬ Names earlier other) (hnames : Names line seed) :
    ∀ earlier ∈ before, ¬ label <:+: earlier := by
  cases hfirst : value before with
  | none => exact value_eq_none_iff.1 hfirst
  | some found =>
      obtain ⟨front, blank, back, rfl, hvalue, hfront⟩ := value_eq_some_iff.1 hfirst
      refine absurd ⟨front, blank, back ++ line :: later, ?_, hfront,
        ⟨infix_iff.2 ⟨found, hvalue⟩, ?_⟩, line, by simp, seed, hnames⟩ h
      · rw [hlines, List.append_assoc, List.cons_append]
      · exact hbefore blank (by simp)

/-- **Which seeds are found.** The seed that is found is the one that the first line of the window
names that names any, unless a labelled line without a value stands before. -/
theorem findsFirst_iff (log : String) (window : Nat) :
    FindsFirst log window ↔ ¬ Hidden log window := by
  refine ⟨fun hfinds hhidden => hhidden.not_findsFirst hfinds, fun h seed => ?_⟩
  rw [find_eq_some_iff]
  constructor
  · -- A line that is not labelled names nothing.
    rintro ⟨before, line, later, hlines, hbefore, hnames⟩
    refine ⟨before, line, later, hlines, fun earlier hearlier other hother => ?_, hnames⟩
    exact hbefore earlier hearlier hother.infix
  · rintro ⟨before, line, later, hlines, hbefore, hnames⟩
    exact ⟨before, line, later, hlines, not_infix_of_not_hidden h hlines hbefore hnames, hnames⟩

/-- An empty seed in the first line hides the one in the second. -/
theorem blank_hides : ¬ FindsFirst "Seed: \nSeed: 5\n" 50 := by
  refine Hidden.not_findsFirst ⟨[], "Seed: ".toList, ["Seed: 5".toList], by decide, nofun,
    ⟨List.infix_rfl, fun seed hnames => ?_⟩, "Seed: 5".toList, by simp, "5",
    names_iff.2 ⟨['5'], by decide, by decide, by decide⟩⟩
  obtain ⟨found, hvalue, hne, -⟩ := names_iff.1 hnames
  obtain rfl : [] = found := Option.some.inj hvalue
  exact hne rfl

/-! ### Logs that grow -/

theorem value?_dropReturn (line : List Char) : value? (Text.dropReturn line) = value? line := by
  rcases Text.dropReturn_cases line with heq | heq
  · rw [heq]
  · have hmark : '\r' ∉ label := by decide
    have hreturn : ∀ c ∈ ['\r'], isBlank c = true := by
      intro c hc
      obtain rfl := List.mem_singleton.1 hc
      decide
    conv_rhs => rw [heq]
    rw [value?, value?, Text.after?_append_mark hmark, Option.map_map]
    exact congrArg (Option.map · _) (funext fun rest => (Text.trim_append_of_blank hreturn rest).symm)

theorem value_lines (window : Nat) (text : List Char) :
    value ((Text.lines text).take window) = value ((pieces text).take window) := by
  have hmap := Text.map_lines value?_dropReturn text
  have hid (lines : List (List Char)) : value (lines.take window) =
      ((lines.map value?).take window).findSome? id := by
    rw [value, ← List.map_take, List.findSome?_map, Function.id_comp]
  rw [hid, hid, hmap]

theorem value_take_append (window : Nat) (front back : List (List Char)) :
    value ((front ++ back).take window) =
      (value (front.take window)).or (value (back.take (window - front.length))) := by
  rw [value, List.take_append, List.findSome?_append, value, value]

/-- The lines of a log that are complete. -/
def complete (log : String) : List Char :=
  log.toList.rdropWhile (· != '\n')

/-- What is written of the line after them. -/
def unfinished (log : String) : List Char :=
  log.toList.rtakeWhile (· != '\n')

theorem complete_append_unfinished (log : String) : complete log ++ unfinished log = log.toList :=
  List.rdropWhile_append_rtakeWhile

theorem complete_last (log : String) :
    complete log = [] ∨ (complete log).getLast? = some '\n' := by
  by_cases hnil : complete log = []
  · exact .inl hnil
  · have hlast : ¬ ((complete log).getLast hnil != '\n') = true :=
      List.rdropWhile_last_not _ _ hnil
    rw [bne_iff_ne, not_not] at hlast
    exact .inr (hlast ▸ List.getLast?_eq_some_getLast hnil)

theorem not_mem_unfinished {log : String} : ∀ c ∈ unfinished log, (c != '\n') = true :=
  fun _ => List.mem_rtakeWhile_imp

theorem value_of_complete {log : String} {window : Nat} {found : List Char}
    (h : value ((pieces (complete log)).take window) = some found) :
    value ((pieces log.toList).take window) = some found ∧
      ∀ more : String, value ((pieces (log ++ more).toList).take window) = some found := by
  have hgrown (back : List Char) :
      value ((pieces (complete log ++ back)).take window) = some found := by
    rw [Text.pieces_append (complete_last log), value_take_append, h, Option.some_or]
  refine ⟨?_, fun more => ?_⟩
  · rw [← complete_append_unfinished]
    exact hgrown _
  · rw [String.toList_append, ← complete_append_unfinished, List.append_assoc]
    exact hgrown _

theorem value_pieces {window : Nat} {text found : List Char} (hwindow : window ≠ 0)
    (hne : text ≠ []) (h : value? (text.takeWhile (· != '\n')) = some found) :
    value ((pieces text).take window) = some found := by
  obtain ⟨more, hmore⟩ := Text.exists_pieces hne
  obtain ⟨left, rfl⟩ := Nat.exists_eq_succ_of_ne_zero hwindow
  rw [hmore, value, List.take_succ_cons, List.findSome?_cons, h]

theorem unfinished_of_value {log : String} {window : Nat} {found : List Char}
    (h : value ((pieces (unfinished log)).take window) = some found) :
    window ≠ 0 ∧ unfinished log ≠ [] ∧ value? (unfinished log) = some found := by
  have hwindow : window ≠ 0 := by
    rintro rfl
    cases h
  have hne : unfinished log ≠ [] := by
    intro hnil
    rw [hnil, pieces, value, List.take_nil] at h
    cases h
  obtain ⟨left, rfl⟩ := Nat.exists_eq_succ_of_ne_zero hwindow
  rw [Text.pieces_of_unbroken hne not_mem_unfinished, value, List.take_succ_cons,
    List.take_nil, List.findSome?_singleton] at h
  exact ⟨hwindow, hne, h⟩

/-- Where no complete line is labelled, the value stands in the line after them, and goes on with
what is added to that line. -/
theorem value_of_unfinished {log : String} {window : Nat} {found : List Char}
    (hnone : value ((pieces (complete log)).take window) = none)
    (h : value ((pieces log.toList).take window) = some found) (more : String) :
    ∃ rest, found = trim rest ∧ value ((pieces (log ++ more).toList).take window) =
      some (trim (rest ++ more.toList.takeWhile (· != '\n'))) := by
  rw [← complete_append_unfinished, Text.pieces_append (complete_last log), value_take_append, hnone,
    Option.none_or] at h
  obtain ⟨hwindow, hne, hvalue⟩ := unfinished_of_value h
  obtain ⟨rest, hafter, hfound⟩ := Option.map_eq_some_iff.1 hvalue
  refine ⟨rest, hfound.symm, ?_⟩
  -- In the longer log, too, the first piece behind the complete lines decides.
  rw [String.toList_append, ← complete_append_unfinished, List.append_assoc,
    Text.pieces_append (complete_last log), value_take_append, hnone, Option.none_or]
  refine value_pieces hwindow (List.append_ne_nil_of_left_ne_nil hne _) ?_
  rw [List.takeWhile_append_of_pos not_mem_unfinished, value?, Text.after?_append hafter,
    Option.map_some]

/-- A seed that is found in a log is found in the log that has grown, and whoever waits for a seed
gets the same one early and late. -/
structure Lasting (log more : String) (window : Nat) : Prop where
  found : ∀ seed, find log window = some seed → find (log ++ more) window = some seed
  awaited : ∀ (file metadata : String) (attempts : Nat) (early late : Disk) (seed : String),
    early.files.readText file = .ok log → late.files.readText file = .ok (log ++ more) →
    0 < attempts → find log window = some seed →
    (await file window metadata attempts early).1 = some seed ∧
      (await file window metadata attempts late).1 = some seed

theorem await_of_find {file metadata log seed : String} {window attempts : Nat} {disk : Disk}
    (hread : disk.files.readText file = .ok log) (hfind : find log window = some seed)
    (hattempts : 0 < attempts) : (await file window metadata attempts disk).1 = some seed := by
  obtain ⟨left, rfl⟩ := Nat.exists_eq_succ_of_ne_zero hattempts.ne'
  have hpeek : peek disk.files file window = some seed := by
    rw [peek, hread]
    exact hfind
  unfold await
  simp only [bind, StateT.bind, get, getThe, MonadStateOf.get, StateT.get, pure, hpeek, StateT.pure]

theorem lasting_of_found {log more : String} {window : Nat}
    (h : ∀ seed, find log window = some seed → find (log ++ more) window = some seed) :
    Lasting log more window where
  found := h
  awaited := fun _ _ _ _ _ seed hearly hlate hattempts hfind =>
    ⟨await_of_find hearly hfind hattempts, await_of_find hlate (h seed hfind) hattempts⟩

/-- A complete line of the window is labelled, so that the seed was read from it. -/
def Settled (log : String) (window : Nat) : Prop :=
  ∃ line ∈ (Text.lines (complete log)).take window, label <:+: line

theorem settled_iff {log : String} {window : Nat} :
    Settled log window ↔ ∃ found, value ((pieces (complete log)).take window) = some found := by
  rw [← value_lines, ← Option.ne_none_iff_exists', Ne, value_eq_none_iff]
  simp only [Settled, not_forall, not_not, exists_prop]

theorem Settled.find_append {log : String} {window : Nat} (h : Settled log window) (more : String) :
    find (log ++ more) window = find log window := by
  obtain ⟨found, hfound⟩ := settled_iff.1 h
  obtain ⟨hlog, hgrown⟩ := value_of_complete hfound
  rw [find_eq, find_eq, value_lines, value_lines, hlog, hgrown]

/-- A seed in a line that is not complete lasts exactly if nothing but white space is added. -/
theorem find_unfinished_iff {log seed : String} {window : Nat} (hsettled : ¬ Settled log window)
    (h : find log window = some seed) (more : String) :
    find (log ++ more) window = some seed ↔
      ∀ c ∈ more.toList.takeWhile (· != '\n'), isBlank c = true := by
  obtain ⟨found, hvalue, hne, rfl⟩ := find_eq_some_iff_value.1 h
  rw [value_lines] at hvalue
  have hnone : value ((pieces (complete log)).take window) = none := by
    cases hcomplete : value ((pieces (complete log)).take window) with
    | none => rfl
    | some other => exact absurd (settled_iff.2 ⟨other, hcomplete⟩) hsettled
  obtain ⟨rest, rfl, hgrown⟩ := value_of_unfinished hnone hvalue more
  rw [← Text.trim_append_eq_iff (mt Text.trim_eq_nil_iff.2 hne), find_eq_some_iff_value, value_lines,
    hgrown]
  constructor
  · rintro ⟨longer, hlonger, -, heq⟩
    rw [Option.some.inj hlonger]
    exact (String.ofList_injective heq).symm
  · intro heq
    exact ⟨trim rest, congrArg some heq, hne, rfl⟩

/-- **When a seed lasts.** What a log names as the seed, and whoever waits for it gets, stays the
same while the log grows by some text exactly if no seed is named yet, or the line that names it is
complete, or nothing but white space is added to that line. -/
theorem lasting_iff (log more : String) (window : Nat) :
    Lasting log more window ↔ find log window = none ∨ Settled log window ∨
      ∀ c ∈ more.toList.takeWhile (· != '\n'), isBlank c = true := by
  by_cases hsettled : Settled log window
  · exact iff_of_true (lasting_of_found fun seed h => (hsettled.find_append more).trans h)
      (.inr (.inl hsettled))
  · cases hfind : find log window with
    | none => exact iff_of_true (lasting_of_found fun seed h => by cases hfind.symm.trans h) (.inl rfl)
    | some seed =>
        have hiff := find_unfinished_iff hsettled hfind more
        constructor
        · intro hlasting
          exact .inr (.inr (hiff.1 (hlasting.found seed hfind)))
        · rintro (⟨⟨⟩⟩ | hcomplete | hblank)
          · exact absurd hcomplete hsettled
          · refine lasting_of_found fun other hother => ?_
            obtain rfl := Option.some.inj (hfind.symm.trans hother)
            exact hiff.2 hblank

/-- Two digits of a seed are written, and then two more. -/
theorem half_written_not_lasting : ¬ Lasting "Seed: 12" "34\n" 50 := by
  intro hlasting
  have hearly : find "Seed: 12" 50 = some "12" := by decide +kernel
  have hlate : find ("Seed: 12" ++ "34\n") 50 = some "1234" := by decide +kernel
  exact absurd (hlate.symm.trans (hlasting.found "12" hearly)) (by decide)

end Concord.Seed
