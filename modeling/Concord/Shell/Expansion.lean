import Concord.Shell.Arithmetic
import Concord.Shell.Pattern
import Concord.Shell.Session

/-!
Expansion of words: values in the place of parameters, commands and sums, then the division into
fields, then the names of files in the place of patterns. How a command inside a word is carried out
is left to the shell that runs it.
-/

namespace Concord.Shell

/-- A character of an expanded word. `split` is what an expansion brought in, which is divided into
fields; `boundary` stands between fields, and `empty` makes a field even if nothing is in it. -/
inductive Glyph where
  | plain (c : Char)
  | quoted (c : Char)
  | split (c : Char)
  | boundary
  | empty
  deriving DecidableEq, Repr

namespace Glyph

def sign? : Glyph → Option Sign
  | plain c => some ⟨c, true⟩
  | split c => some ⟨c, true⟩
  | quoted c => some ⟨c, false⟩
  | _ => none

def signs (glyphs : List Glyph) : List Sign :=
  glyphs.filterMap sign?

def text (glyphs : List Glyph) : List Char :=
  (signs glyphs).map Sign.char

/-- The characters of a value, as they are inside or outside quotes. -/
def ofText (quotedText : Bool) (text : List Char) : List Glyph :=
  text.map fun c => if quotedText then quoted c else split c

/-! ### Fields -/

/-- A division into fields: what is complete, the field that is begun, and whether a blank has ended
the field before it. -/
structure Division where
  complete : List (List Sign) := []
  begun : Option (List Sign) := none
  afterBlank : Bool := false

def Division.close (division : Division) : Division :=
  match division.begun with
  | some field =>
      { division with complete := field.reverse :: division.complete, begun := none }
  | none => division

def Division.add (division : Division) (sign : Option Sign) : Division :=
  { division with begun := some (sign.toList ++ division.begun.getD []), afterBlank := false }

def isBlank (c : Char) : Bool :=
  c = ' ' || c = '\t' || c = '\n'

/-- A separator ends a field. Blanks count once and together with one other separator. -/
def Division.separate (division : Division) (c : Char) : Division :=
  match division.begun with
  | some _ => { division.close with afterBlank := isBlank c }
  | none =>
      if isBlank c then division
      else if division.afterBlank then { division with afterBlank := false }
      else { division with complete := [] :: division.complete }

def Division.step (separators : List Char) (division : Division) (glyph : Glyph) : Division :=
  match glyph with
  | plain c => division.add (some ⟨c, true⟩)
  | quoted c => division.add (some ⟨c, false⟩)
  | split c =>
      if separators.contains c then division.separate c else division.add (some ⟨c, true⟩)
  | boundary => { division.close with afterBlank := false }
  | empty => division.add none

def fields (separators : List Char) (glyphs : List Glyph) : List (List Sign) :=
  (glyphs.foldl (Division.step separators) {}).close.complete.reverse

end Glyph

/-! ### Names of files -/

namespace Pattern

/-- The parts of a path between slashes. -/
def segments : List Sign → List (List Sign)
  | [] => [[]]
  | sign :: rest =>
      if sign.char = '/' then [] :: segments rest
      else
        match segments rest with
        | first :: more => (sign :: first) :: more
        | [] => [[sign]]

def comesBefore (a b : List Char) : Bool :=
  !(decide (b < a))

/-- The names in a directory that a pattern fits. A dot in front has to be there in the pattern. -/
def namesIn (files : Files) (directory : String) (segment : List Sign) : List (List Char) :=
  match files.list directory with
  | .error _ => []
  | .ok names =>
      let hidden := (segment.head?.map Sign.char) = some '.'
      let pattern := ofSigns segment
      let all := ['.'] :: ['.', '.'] :: names.map Text.Octets.ofString
      let found := all.filter fun name =>
        (name.head? ≠ some '.' || hidden) && pattern.fits name
      found.mergeSort comesBefore

/-- The paths that begin with `written` and go on as a pattern tells. -/
def pathsFrom (files : Files) (directory : String) :
    List Char → List (List Sign) → List (List Char)
  | written, [] => [written]
  | written, segment :: rest =>
      let ending := if rest.isEmpty then [] else ['/']
      let path (name : List Char) := written ++ name ++ ending
      let place (name : List Char) := Files.join directory (Text.Octets.asString (path name))
      if (ofSigns segment).isOpen then
        let above := Files.join directory (Text.Octets.asString written)
        ((namesIn files above segment).filter fun name => files.hasSomething (place name)).flatMap
          fun name => pathsFrom files directory (path name) rest
      else
        let name := segment.map Sign.char
        if name.isEmpty || files.hasSomething (place name) then
          pathsFrom files directory (path name) rest
        else []

def paths (files : Files) (directory : String) (signs : List Sign) : List (List Char) :=
  pathsFrom files directory [] (segments signs)

end Pattern

namespace Expansion

open Session

/-! ### Parameters -/

def number (digits : List Char) : Nat :=
  digits.foldl (fun value c => 10 * value + (c.toNat - 48)) 0

def parameterValue? (session : Session) (name : List Char) : Option (List Char) :=
  match name with
  | ['#'] => some (digits session.parameters.length)
  | ['?'] => some (digits session.status)
  | ['$'] => some (digits session.process)
  | ['!'] => session.lastJob.map digits
  | ['-'] => some ("pubaCEVvxsnmiIfe".toList.filter session.options.contains)
  | c :: _ =>
      if c.isDigit then
        match number name with
        | 0 => some session.name
        | n + 1 => session.parameters[n]?
      else session.valueOf? name
  | [] => none

def isAll (name : List Char) : Bool :=
  name = ['@'] || name = ['*']

def separators (session : Session) : List Char :=
  session.valueOr "IFS" [' ', '\t', '\n']

/-- All parameters in one text. -/
def joined (session : Session) : List Char :=
  let between := (session.valueOr "IFS" [' ']).take 1
  (session.parameters.intersperse between).flatten

/-- All parameters, in fields of their own where there can be several fields. -/
def all (session : Session) (name : List Char) (several quoted : Bool) : List Glyph :=
  let field (text : List Char) : List Glyph :=
    if quoted then .empty :: Glyph.ofText true text else Glyph.ofText false text
  if several && (!quoted || name = ['@']) then
    ((session.parameters.map field).intersperse [.boundary]).flatten
  else Glyph.ofText quoted (joined session)

/-- The value of a parameter as one text. -/
def value? (session : Session) (name : List Char) : Option (List Char) :=
  if isAll name then
    if session.parameters.isEmpty then none else some (joined session)
  else parameterValue? session name

/-- The text of a parameter that has to have one where the shell was told so. -/
def required (name : List Char) : Act (List Char) := do
  let session ← get
  match value? session name with
  | some text => pure text
  | none =>
      if session.options.contains 'u' && !isAll name then
        fail (name ++ ": parameter not set".toList)
      else pure []

/-! ### Tildes -/

/-- The directory of a user, if it is known. -/
def home? (session : Session) (user : List Char) : Option (List Char) :=
  if user.isEmpty then session.valueOf? "HOME".toList
  else if user = "root".toList then some "/root".toList
  else none

/-- What a tilde in front of a text stands for, and what is behind it. The name of a user ends where
the text does only if the text is a whole word, or the end of one. -/
def tilde? (session : Session) (final : Bool) (text : List Char) :
    Option (List Char × List Char) :=
  match text with
  | '~' :: content =>
      let user := content.takeWhile (· ≠ '/')
      let behind := content.drop user.length
      if behind.isEmpty && !final then none else (home? session user).map (·, behind)
  | _ => none

/-- Puts the directory of a user in the place of a tilde in front of a word that was expanded. -/
def withoutTilde (session : Session) (word : Word) (glyphs : List Glyph) : List Glyph :=
  match word with
  | .text content false :: rest =>
      match tilde? session rest.isEmpty content with
      | some (home, behind) =>
          home.map .quoted ++ glyphs.drop (content.length - behind.length)
      | none => glyphs
  | _ => glyphs

/-- Puts the directories of users in the place of tildes in front of what stands between colons. -/
def withoutTildes (session : Session) (inFront : Bool) : Word → Word
  | [] => []
  | .text content false :: rest =>
      let parts := Text.split ':' content
      let parts := parts.zipIdx.map fun (part, index) =>
        let final := rest.isEmpty || index + 1 < parts.length
        match if inFront || 0 < index then tilde? session final part else none with
        | some (home, behind) => home ++ behind
        | none => part
      .text (parts.intersperse [':']).flatten true :: withoutTildes session false rest
  | piece :: rest => piece :: withoutTildes session false rest

/-! ### Sums -/

/-- Numbers in variables; a variable without a value counts as zero. -/
def sumVariables : Arithmetic.Variables Act where
  get name := do
    let text := ((← get).valueOf? name).getD []
    match Arithmetic.integer? text with
    | some value => pure value
    | none => fail ("Illegal number: ".toList ++ text)
  set name value := assign name (integerText value) false
  dividedByZero := throw (.failed 0)

def sumFault {α : Type} (message : String) (text : List Char) : Act α :=
  fail ("arithmetic expression: ".toList ++ message.toList ++ ": \"".toList ++ text ++ ['"'])

def sumValue (text : List Char) : Act Int := do
  match Arithmetic.read text with
  | .error message => sumFault message text
  | .ok expression => do
      try
        Arithmetic.evaluate sumVariables expression
      catch stop =>
        if stop = .failed 0 then sumFault "division by zero" text else throw stop

/-! ### Words -/

variable (substitute : Option Command → Act (List Char))

/-- The message about a parameter without a value. -/
def complaint (name word : List Char) (orEmpty : Bool) : List Char :=
  let message :=
    if word.isEmpty then "parameter not set".toList ++ (if orEmpty then " or null".toList else [])
    else word
  name ++ [':', ' '] ++ message

mutual

/-- Expands the pieces of a word. `several` tells whether there can be several fields; inside
substitutes, plain text is divided like what an expansion brings in. -/
def pieces (several inside : Bool) : List Piece → Act (List Glyph)
  | [] => pure []
  | first :: rest => do
      let front ← piece several inside first
      let behind ← pieces several inside rest
      pure (front ++ behind)

def piece (several inside : Bool) : Piece → Act (List Glyph)
  | .text content quoted =>
      pure (if quoted then content.map .quoted
        else if inside then content.map .split
        else content.map .plain)
  | .quotes => pure [.empty]
  | .parameter name use quoted => parameter several name quoted use
  | .output body quoted => do pure (Glyph.ofText quoted (← substitute body))
  | .sum expression => do
      let text := Glyph.text (← pieces false false expression)
      pure (Glyph.ofText true (integerText (← sumValue text)))

def parameter (several : Bool) (name : List Char) (quoted : Bool) : Use → Act (List Glyph)
  | .unknown => failText "Bad substitution"
  | .value => do
      if isAll name then do pure (all (← get) name several quoted)
      else do pure (Glyph.ofText quoted (← required name))
  | .length => do
      pure (Glyph.ofText quoted (digits (← required name).length))
  | .trim kind pattern => do
      let text ← required name
      let glyphs := withoutTilde (← get) pattern (← pieces false false pattern)
      let pattern := Pattern.ofSigns (Glyph.signs glyphs)
      pure (Glyph.ofText quoted
        (if kind.behind then text.take (pattern.keptInFront kind.longest text)
          else text.drop (pattern.cutInFront kind.longest text)))
  | .substitute kind orEmpty word => do
      let session ← get
      let present :=
        match value? session name with
        | some text => !orEmpty || !text.isEmpty
        | none => false
      let own : Act (List Glyph) := do
        let session ← get
        pure (if isAll name then all session name several quoted
          else Glyph.ofText quoted ((value? session name).getD []))
      match kind, present with
      | .alternative, true => do pure (withoutTilde session word (← pieces several true word))
      | .alternative, false => pure []
      | _, true => own
      | .fallback, false => do pure (withoutTilde session word (← pieces several true word))
      | .assign, false => do
          let text := Glyph.text (withoutTilde session word (← pieces false false word))
          if isName name then assign name text false
          else fail (name ++ ": bad variable name".toList)
          pure (Glyph.ofText quoted text)
      | .complain, false => do
          let text := Glyph.text (withoutTilde session word (← pieces false false word))
          fail (complaint name text orEmpty)

end

/-- A word that makes one text. -/
def single (word : Word) : Act (List Char) := do
  let session ← get
  pure (Glyph.text (withoutTilde session word (← pieces substitute false false word)))

/-- The value of a variable that is assigned. -/
def assigned (word : Word) : Act (List Char) := do
  let session ← get
  pure (Glyph.text (← pieces substitute false false (withoutTildes session true word)))

/-- A word that is a pattern. -/
def pattern (word : Word) : Act Pattern := do
  let session ← get
  let glyphs := withoutTilde session word (← pieces substitute false false word)
  pure (Pattern.ofSigns (Glyph.signs glyphs))

/-- The names of the files that fit a field, or the field itself if there are none. -/
def filesOrText (session : Session) (field : List Sign) : List (List Char) :=
  let text := field.map Sign.char
  if session.options.contains 'f' || !(Pattern.ofSigns field).isOpen then [text]
  else
    match Pattern.paths session.world.files session.directory field with
    | [] => [text]
    | found => found

/-- The fields that a word makes. -/
def fields (word : Word) : Act (List (List Char)) := do
  let before ← get
  let glyphs := withoutTilde before word (← pieces substitute true false word)
  let session ← get
  pure ((Glyph.fields (separators session) glyphs).flatMap (filesOrText session))

def allFields : List Word → Act (List (List Char))
  | [] => pure []
  | word :: rest => do
      let first ← fields substitute word
      let others ← allFields rest
      pure (first ++ others)

end Expansion

end Concord.Shell
