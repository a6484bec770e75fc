import Mathlib
import Concord.Proofs.Bridge.Noise
import Concord.Proofs.Json.Lines
import Concord.Proofs.Json.Restored

/-!
# One line for one request

What the children are sent are the lines of the requests that there was a child to read, one for each
and in their order. No source, no handle, no name and no argument can break a line, and a line can be
read as what was asked for, so different requests have different lines.
-/

namespace Concord

namespace Json

/-! ### Objects whose fields are in no order -/

section Fields

variable {fields others : List (String × Json)}

/-- The fields of an object are portable, as far as a text has room for them. -/
def PortableFields (fields : List (String × Json)) : Prop :=
  ∀ field ∈ fields, field.2.Portable (Raw.depthLimit - 1)

theorem PortableFields.plain (h : PortableFields fields) : (Json.obj fields).Plain where
  depth := Nat.succ_le_succ (fieldsDepth_le_iff.2 fun field hfield => (h field hfield).depth)
  integers := by
    intro number hnumber
    obtain ⟨field, hfield, hmem⟩ := mem_fieldsNumbers.1 hnumber
    exact (h field hfield).integers number hmem
  inRange := inRange_obj_iff.2 fun field hfield => (h field hfield).regular.inRange

theorem PortableFields.sortedFields_eq (h : PortableFields fields) :
    sortedFields fields = fields :=
  sortedFields_of_ordered fields
    (orderedFields_iff.2 fun field hfield => (h field hfield).regular.ordered)

/-- The object is read as its fields, in some order. -/
theorem PortableFields.read_text (h : PortableFields fields) (hnames : (fields.map (·.1)).Nodup) :
    ∃ found, Json.read (Json.obj fields).text = some (.obj found) ∧ found.Perm fields := by
  refine ⟨sortFields fields, ?_, sortFields_perm hnames⟩
  rw [h.plain.read_text, sorted, h.sortedFields_eq]

/-- The text of the object tells its fields and where they stand. -/
theorem PortableFields.eq_of_text_eq (h : PortableFields fields) (hother : PortableFields others)
    (htext : (Json.obj fields).text = (Json.obj others).text) : fields = others := by
  have hread := congrArg Raw.read htext
  rw [Raw.read_text, Raw.read_text] at hread
  have hwritten : writtenFields fields = writtenFields others :=
    Raw.obj.inj (Option.some.inj hread)
  obtain ⟨inner, hlimit, hfits⟩ := h.plain.fits.exists_fields
  obtain ⟨inner', hlimit', hotherFits⟩ := hother.plain.fits.exists_fields
  obtain rfl : inner = inner' := Nat.succ.inj (hlimit.symm.trans hlimit')
  have hvalues := Fits.fieldValues?_eq_sorted fields hfits
  rw [hwritten, Fits.fieldValues?_eq_sorted others hotherFits, h.sortedFields_eq,
    hother.sortedFields_eq] at hvalues
  exact (Option.some.inj hvalues).symm

end Fields

end Json

namespace Bridge

/-! ### What is asked for -/

/-- What the line of a request tells, besides its number. -/
def told : Executor.Use → List (String × Json)
  | .deploy source args =>
      [("op", .str "deploy"), ("source", .str source), ("args", .arr args)]
  | .manifest handle => [("op", .str "manifest"), ("handle", .str handle)]
  | .call handle function args =>
      [("op", .str "call"), ("handle", .str handle), ("function", .str function),
        ("args", .arr args)]
  | .dumpState handle => [("op", .str "dump_state"), ("handle", .str handle)]
  | .reset => [("op", .str "reset")]

def arguments : Executor.Use → List Json
  | .deploy _ args | .call _ _ args => args
  | .manifest _ | .dumpState _ | .reset => []

/-- The arguments can be carried, with room for the two containers around them. -/
def Sendable (use : Executor.Use) : Prop :=
  ∀ value ∈ arguments use, value.Portable (Raw.depthLimit - 2)

/-- The line is read as an object with the number, the operation and what goes with it, and no other
field. -/
def Says (line : String) (id : Nat) (use : Executor.Use) : Prop :=
  ∃ fields, Json.read line = some (.obj fields) ∧ fields.Perm (("id", .nat id) :: told use)

variable {use other : Executor.Use} {id id' : Nat}

theorem line_eq (use : Executor.Use) (id : Nat) :
    (requestOf use).line id = (Json.obj (("id", .nat id) :: told use)).text := by
  cases use <;> rfl

theorem told_injective : Function.Injective told := by
  intro use other h
  cases use <;> cases other <;> simp_all [told]

theorem nodup_names (use : Executor.Use) (id : Nat) :
    ((("id", Json.nat id) :: told use).map (·.1)).Nodup := by
  cases use <;> simp [told]

theorem Sendable.portable (h : Sendable use) (hid : id < 2 ^ 64) :
    Json.PortableFields (("id", .nat id) :: told use) := by
  have htext := Json.portable_str (Raw.depthLimit - 1)
  have harguments : (Json.arr (arguments use)).Portable (Raw.depthLimit - 1) := Json.portable_arr h
  refine List.forall_mem_cons.2 ⟨Json.portable_nat _ hid, ?_⟩
  cases use <;> simp only [told, List.forall_mem_cons]
  case deploy source args => exact ⟨htext _, htext source, harguments, nofun⟩
  case call handle function args =>
    exact ⟨htext _, htext handle, htext function, harguments, nofun⟩
  case reset => exact ⟨htext _, nofun⟩
  all_goals exact ⟨htext _, htext _, nofun⟩

theorem says_line (h : Sendable use) (hid : id < 2 ^ 64) :
    Says ((requestOf use).line id) id use := by
  rw [line_eq]
  exact (h.portable hid).read_text (nodup_names use id)

theorem eq_of_line_eq (h : Sendable use) (hid : id < 2 ^ 64) (hother : Sendable other)
    (hid' : id' < 2 ^ 64) (hline : (requestOf use).line id = (requestOf other).line id') :
    id = id' ∧ use = other := by
  rw [line_eq, line_eq] at hline
  have hfields := (h.portable hid).eq_of_text_eq (hother.portable hid') hline
  obtain ⟨hnumber, htold⟩ := List.cons.inj hfields
  have hinteger : (id : Int) = id' := by simpa [Json.nat, Json.int] using hnumber
  exact ⟨Int.ofNat_inj.1 hinteger, told_injective htold⟩

/-! ### What is sent -/

/-- Uses of a bridge, whose program may be another one each time. -/
def serve : List (Program × Executor.Use) → Bridge → Bridge
  | [], bridge => bridge
  | (program, use) :: rest, bridge => serve rest (Bridge.use use { bridge with program }).2

/-- There is a child to read the next request: one that has not exited, or a new one. -/
def listens (bridge : Bridge) : Bool :=
  match bridge.child, bridge.program.refusal with
  | some child, _ => !(bridge.program.output child.heard).exited
  | none, some _ => false
  | none, none => !(bridge.program.output []).exited

/-- The requests that there was a child to read, each with its number. -/
def delivered : List (Program × Executor.Use) → Bridge → List (Nat × Executor.Use)
  | [], _ => []
  | (program, use) :: rest, bridge =>
      (if listens { bridge with program } then [(bridge.requests + 1, use)] else []) ++
        delivered rest (Bridge.use use { bridge with program }).2

def lineOf (request : Nat × Executor.Use) : String :=
  (requestOf request.2).line request.1

def Sight.line? : Sight → Option String
  | .start => none
  | .request line => some line

/-- The lines that were sent to each child, behind those from before the first start. -/
def heardBy (sights : List Sight) : List (List String) :=
  (sights.splitOn .start).map (·.filterMap Sight.line?)

/-- What a child reads. -/
def input (lines : List String) : List UInt8 :=
  lines.flatMap fun line => Text.Utf8.encode line ++ [0x0A]

def isLineEnd (byte : UInt8) : Bool :=
  byte == 0x0A || byte == 0x0D

theorem filterMap_received (bridge : Bridge) (child : Child) (line : String) :
    (bridge.received child line).filterMap Sight.line? =
      if !(bridge.program.output child.heard).exited then [line] else [] := by
  unfold received
  cases (bridge.program.output child.heard).exited <;> rfl

theorem filterMap_seen (request : Request) (bridge : Bridge) :
    (seen request bridge).filterMap Sight.line? =
      if bridge.listens then [request.line (bridge.requests + 1)] else [] := by
  unfold seen listens
  cases bridge.child with
  | some child => exact filterMap_received bridge child _
  | none =>
      cases bridge.program.refusal with
      | some reason => rfl
      | none => exact filterMap_received bridge {} _

theorem sights_use (use : Executor.Use) (bridge : Bridge) :
    (Bridge.use use bridge).2.requests = bridge.requests + 1 ∧
      (Bridge.use use bridge).2.sights = bridge.sights ++ seen (requestOf use) bridge := by
  rw [use_apply]
  dsimp only
  split
  · exact sights_exchange (requestOf use) bridge
  · exact sights_exchange (requestOf use) bridge

/-- Every use adds its own line, if there is a child to read it. -/
theorem sights_serve (steps : List (Program × Executor.Use)) (bridge : Bridge) :
    (serve steps bridge).sights.filterMap Sight.line? =
      bridge.sights.filterMap Sight.line? ++ (delivered steps bridge).map lineOf := by
  induction steps generalizing bridge with
  | nil => exact (List.append_nil _).symm
  | cons step rest ih =>
      obtain ⟨program, use⟩ := step
      have hseen := filterMap_seen (requestOf use) { bridge with program }
      rw [serve, ih, (sights_use use _).2, List.filterMap_append, hseen, delivered, List.map_append,
        List.append_assoc]
      split <;> rfl

/-- The requests that are delivered are some of those that are made, with the numbers they have
there. -/
theorem delivered_sublist (steps : List (Program × Executor.Use)) (bridge : Bridge) :
    (delivered steps bridge).Sublist
      (steps.mapIdx fun index step => (bridge.requests + index + 1, step.2)) := by
  induction steps generalizing bridge with
  | nil => exact List.Sublist.refl _
  | cons step rest ih =>
      obtain ⟨program, use⟩ := step
      have hrest := ih (Bridge.use use { bridge with program }).2
      have hnumbers : (fun index (step : Program × Executor.Use) =>
          ((Bridge.use use { bridge with program }).2.requests + index + 1, step.2)) =
            fun index step => (bridge.requests + (index + 1) + 1, step.2) := by
        funext index step
        rw [(sights_use use { bridge with program }).1, Nat.add_right_comm bridge.requests 1 index,
          ← Nat.add_assoc]
      rw [hnumbers] at hrest
      rw [delivered, List.mapIdx_cons]
      split
      · exact hrest.cons_cons _
      · exact hrest.cons _

theorem flatten_heardBy (sights : List Sight) :
    (heardBy sights).flatten = sights.filterMap Sight.line? := by
  unfold heardBy
  induction sights with
  | nil => rfl
  | cons sight rest ih =>
      obtain ⟨first, others, hsplit⟩ :=
        List.exists_cons_of_ne_nil (List.splitOn_ne_nil Sight.start rest)
      rw [hsplit] at ih
      rw [List.splitOn_cons_eq_if_modifyHead, hsplit]
      cases sight with
      | start => exact ih
      | request line => exact congrArg (List.cons line) ih

theorem splitOnP_input {lines : List String}
    (h : ∀ line ∈ lines, ∃ value : Json, line = value.text) :
    (input lines).splitOnP isLineEnd = lines.map Text.Utf8.encode ++ [[]] := by
  have hpieces : ∀ piece ∈ lines.map Text.Utf8.encode, ∀ byte ∈ piece, isLineEnd byte = false := by
    rw [List.forall_mem_map]
    intro line hline byte hbyte
    obtain ⟨value, rfl⟩ := h line hline
    have hle := Text.Utf8.le_encode value.visible_text byte hbyte
    rw [isLineEnd, Bool.or_eq_false_iff, beq_eq_false_iff_ne, beq_eq_false_iff_ne]
    constructor <;> rintro rfl <;> exact absurd hle (by decide)
  have hmark : isLineEnd 0x0A = true := rfl
  rw [← splitOnP_flatMap_mark hmark hpieces, List.flatMap_map]
  rfl

/-- **One request is one line, and the line says the request.** Whatever the programs do, the
children are sent one line for each request that there is a child to read, in the order of the
requests. A line holds neither a line feed nor a carriage return, so a child that splits what it reads
where a line ends finds the lines that it was sent. Each line is read as its number, its operation and
what goes with it, and the lines of different requests differ. -/
theorem lines_say_requests (steps : List (Program × Executor.Use)) (program : Program)
    (hcount : steps.length < 2 ^ 64) (hsendable : ∀ step ∈ steps, Sendable step.2) :
    let heard := heardBy (serve steps { program }).sights
    let requests := delivered steps { program }
    heard.flatten = requests.map lineOf ∧
      requests.Sublist (steps.mapIdx fun index step => (index + 1, step.2)) ∧
      (∀ lines ∈ heard, (input lines).splitOnP isLineEnd = lines.map Text.Utf8.encode ++ [[]]) ∧
      (∀ line ∈ heard.flatten, ∀ c ∈ line.toList, c ≠ '\n' ∧ c ≠ '\r') ∧
      (∀ request ∈ requests, Says (lineOf request) request.1 request.2) ∧
      ∀ id id' use other, id < 2 ^ 64 → id' < 2 ^ 64 → Sendable use → Sendable other →
        lineOf (id, use) = lineOf (id', other) → id = id' ∧ use = other := by
  intro heard requests
  have hsent : heard.flatten = requests.map lineOf := by
    rw [flatten_heardBy]
    exact sights_serve steps { program }
  have hmade : requests.Sublist (steps.mapIdx fun index step => (index + 1, step.2)) := by
    simpa only [Nat.zero_add] using delivered_sublist steps { program }
  have htexts : ∀ line ∈ heard.flatten, ∃ value : Json, line = value.text := by
    rw [hsent, List.forall_mem_map]
    exact fun request _ => ⟨_, line_eq request.2 request.1⟩
  refine ⟨hsent, hmade, fun lines hlines => ?_, fun line hline c hc => ?_,
    fun request hrequest => ?_, fun id id' use other hid hid' huse hother => ?_⟩
  · exact splitOnP_input fun line hline => htexts line (List.mem_flatten_of_mem hlines hline)
  · obtain ⟨value, rfl⟩ := htexts line hline
    exact (value.visible_text c hc).not_lineEnd
  · obtain ⟨index, hindex, rfl⟩ := List.mem_mapIdx.1 (hmade.subset hrequest)
    exact says_line (hsendable _ (List.getElem_mem hindex)) (by omega)
  · exact eq_of_line_eq huse hid hother hid'

/-- A source of several lines, one of which looks like the next request. -/
def hostileDeployment : Executor.Use :=
  .deploy "contract A \x7b\r\n\x7d\n\x7b\"id\":2,\"op\":\"reset\"\x7d\n"
    [.arr [.int (-9223372036854775808), .str "\u2028\n"]]

theorem lines_of_hostile_source :
    let program := Program.answering fun _ => some []
    let steps : List (Program × Executor.Use) := [(program, hostileDeployment), (program, .reset)]
    let heard := heardBy (serve steps { program }).sights
    let requests := [(1, hostileDeployment), (2, .reset)]
    steps.length < 2 ^ 64 ∧ (∀ step ∈ steps, Sendable step.2) ∧
      heard = [[], [lineOf (1, hostileDeployment)], [lineOf (2, .reset)]] ∧
      heard.flatten = requests.map lineOf ∧
      (∀ lines ∈ heard, (input lines).splitOnP isLineEnd = lines.map Text.Utf8.encode ++ [[]]) ∧
      (∀ request ∈ requests, Says (lineOf request) request.1 request.2) ∧
      lineOf (1, hostileDeployment) ≠ lineOf (2, .reset) := by
  intro program steps heard requests
  have hargument : Json.Regular (.arr [.int (-9223372036854775808), .str "\u2028\n"]) :=
    ⟨⟨trivial, trivial, trivial⟩, by decide⟩
  have hdeploy : Sendable hostileDeployment :=
    List.forall_mem_singleton.2 ⟨hargument, by decide, by decide⟩
  have hreset : Sendable .reset := nofun
  have hsendable : ∀ step ∈ steps, Sendable step.2 :=
    List.forall_mem_cons.2 ⟨hdeploy, List.forall_mem_singleton.2 hreset⟩
  have hcount : steps.length < 2 ^ 64 := by decide
  have hdelivered : delivered steps { program } = requests := rfl
  have hmain := lines_say_requests steps program hcount hsendable
  dsimp only at hmain
  rw [hdelivered] at hmain
  obtain ⟨hsent, -, hsplit, -, hsays, hdiffer⟩ := hmain
  refine ⟨hcount, hsendable, rfl, hsent, hsplit, hsays, fun hsame => ?_⟩
  obtain ⟨hnumber, -⟩ := hdiffer 1 2 _ _ (by decide) (by decide) hdeploy hreset hsame
  exact absurd hnumber (by decide)

end Bridge

end Concord
