import Concord.Shell.Pattern
import Concord.Utility.Lines

/-!
Programs that work on files as a whole: they list, make, move, copy and remove them, and take their
names apart.
-/

namespace Concord.Utility

open Work

/-! ### Names -/

/-- A path without the slashes at its end, unless it is nothing else. -/
def trimmed (path : List Char) : List Char :=
  let kept := (path.reverse.dropWhile (· = '/')).reverse
  if kept.isEmpty && !path.isEmpty then ['/'] else kept

/-- The last name of a path. -/
def lastName (path : List Char) : List Char :=
  let kept := trimmed path
  if kept = ['/'] then kept else (kept.reverse.takeWhile (· ≠ '/')).reverse

/-- What is in front of the last name of a path. -/
def aboveName (path : List Char) : List Char :=
  let kept := trimmed path
  let above := (kept.reverse.dropWhile (· ≠ '/')).reverse
  if above.isEmpty then ['.'] else trimmed above

def withoutEnding (ending name : List Char) : List Char :=
  if ending.length < name.length && ending.isSuffixOf name then
    name.take (name.length - ending.length)
  else name

/-- A name in a directory. -/
def inside (directory name : List Char) : List Char :=
  if directory.getLast? = some '/' then directory ++ name else directory ++ '/' :: name

def basename : Work Nat := do
  let (given, operands) ← options
    { letters := [('a', false), ('s', true), ('z', false)]
      names := [("multiple", 'a'), ("suffix", 's'), ("zero", 'z')], inOrder := true }
  let finish := if has given 'z' then '\x00' else '\n'
  let put (ending name : List Char) : Work Unit :=
    print (withoutEnding ending (lastName name) ++ [finish])
  if has given 'a' || has given 's' then do
    if operands.isEmpty then misuse 1 "missing operand".toList
    else do
      for name in operands do
        put ((value? given 's').getD []) name
      pure 0
  else
    match operands with
    | [] => misuse 1 "missing operand".toList
    | [name] => do
        put [] name
        pure 0
    | [name, ending] => do
        put ending name
        pure 0
    | _ :: _ :: extra :: _ => misuse 1 ("extra operand ".toList ++ quote extra)

def dirname : Work Nat := do
  let (given, operands) ← options { letters := [('z', false)], names := [("zero", 'z')] }
  if operands.isEmpty then misuse 1 "missing operand".toList
  else do
    for name in operands do
      print (aboveName name ++ [if has given 'z' then '\x00' else '\n'])
    pure 0

/-- The path from the root to what a path leads to, of which the last name may be missing. -/
def resolved (name : List Char) : Work (Except Files.Fault (List Char)) := do
  let path ← pathOf name
  match (← get).files.locate path with
  | .ok spot => pure (.ok (Text.Octets.ofString (Files.pathOf spot.place)))
  | .error problem => pure (.error problem)

def realpath : Work Nat := do
  let (given, operands) ← options
    { letters := ['e', 'm', 'q', 's', 'z', 'L', 'P'].map (·, false)
      names := [("canonicalize-existing", 'e'), ("canonicalize-missing", 'm'), ("quiet", 'q')] }
  if operands.isEmpty then misuse 1 "missing operand".toList
  else do
    for name in operands do
      let path ← pathOf name
      match ← resolved name with
      | .ok text =>
          if has given 'e' && !(← get).files.hasSomething path then
            fault 1 (name ++ ": No such file or directory".toList)
          else printLine text
      | .error problem =>
          if has given 'm' && !name.isEmpty then
            printLine (Text.Octets.ofString (Files.pathOf (Files.names path)))
          else fault 1 (name ++ [':', ' '] ++ reason problem)
    pure 0

/-- There are no links, so only what a path leads to is told. -/
def readlink : Work Nat := do
  let (given, operands) ← options
    { letters := ['e', 'f', 'm', 'n', 'q', 's', 'v', 'z'].map (·, false)
      names := [("canonicalize", 'f'), ("canonicalize-existing", 'e'), ("no-newline", 'n')] }
  if operands.isEmpty then misuse 1 "missing operand".toList
  else if has given 'f' || has given 'e' || has given 'm' then do
    for name in operands do
      match ← resolved name with
      | .ok text => print (if has given 'n' then text else text ++ ['\n'])
      | .error _ => modify fun state => { state with status := 1 }
    pure 0
  else pure 1

/-! ### Making and removing -/

def trouble (action : String) (name : List Char) (problem : Files.Fault) : Work Unit :=
  fault 1 (action.toList ++ ' ' :: quote name ++ [':', ' '] ++ reason problem)

/-- The paths to a directory and to those above it, outermost first. -/
def pathsTo (path : List Char) : List (List Char) :=
  let parts := splitOn '/' (trimmed path)
  (List.range parts.length).filterMap fun n =>
    let front := ['/'].intercalate (parts.take (n + 1))
    if front.isEmpty || front.getLast? = some '/' then none else some front

/-- Makes those of some directories that are not there yet. -/
def makeAll (tells : Bool) : List (List Char) → Work Unit
  | [] => pure ()
  | name :: rest => do
      let path ← pathOf name
      let files := (← get).files
      if files.hasDirectory path then makeAll tells rest
      else if files.hasSomething path && !rest.isEmpty then
        trouble "cannot create directory" name .notDirectory
      else
        match ← onFiles (·.makeDirectory path) with
        | .ok () => do
            if tells then printLine ("mkdir: created directory ".toList ++ quote name) else pure ()
            makeAll tells rest
        | .error problem => trouble "cannot create directory" name problem

def mkdir : Work Nat := do
  let (given, operands) ← options
    { letters := [('p', false), ('v', false), ('m', true), ('Z', false)]
      names := [("parents", 'p'), ("verbose", 'v'), ("mode", 'm')] }
  if operands.isEmpty then misuse 1 "missing operand".toList
  else do
    for name in operands do
      if has given 'p' && !name.isEmpty then makeAll (has given 'v') (pathsTo name)
      else do
        let path ← pathOf name
        match ← onFiles (·.makeDirectory path) with
        | .ok () =>
            if has given 'v' then printLine ("mkdir: created directory ".toList ++ quote name)
            else pure ()
        | .error problem => trouble "cannot create directory" name problem
    pure 0

def isEmptyDirectory (files : Files) (place : Place) : Bool :=
  !files.entries.any fun entry => Files.inside place entry.1

def removeEmpty (name : List Char) (tells quiet : Bool) : Work Bool := do
  let path ← pathOf name
  let files := (← get).files
  if tells then printLine ("rmdir: removing directory, ".toList ++ quote name) else pure ()
  match files.find path with
  | .error problem => do
      trouble "failed to remove" name problem
      pure false
  | .ok (place, .directory) =>
      if isEmptyDirectory files place then do
        modify fun state => { state with files := files.remove place }
        pure true
      else do
        if quiet then pure ()
        else fault 1 ("failed to remove ".toList ++ quote name ++
          ": Directory not empty".toList)
        pure false
  | .ok _ => do
      trouble "failed to remove" name .notDirectory
      pure false

/-- Removes directories as long as they are empty, innermost first. -/
def removeUpwards (tells quiet : Bool) : List (List Char) → Work Unit
  | [] => pure ()
  | name :: above => do
      if ← removeEmpty name tells quiet then removeUpwards tells quiet above else pure ()

def rmdir : Work Nat := do
  let (given, operands) ← options
    { letters := [('p', false), ('v', false), ('i', false)]
      names := [("parents", 'p'), ("verbose", 'v'), ("ignore-fail-on-non-empty", 'i')] }
  if operands.isEmpty then misuse 1 "missing operand".toList
  else do
    for name in operands do
      if has given 'p' then removeUpwards (has given 'v') (has given 'i') (pathsTo name).reverse
      else do
        let _ ← removeEmpty name (has given 'v') (has given 'i')
    pure 0

/-- Tells of everything that is removed with a directory, innermost first. -/
def tellRemoved (files : Files) : Nat → List Char → Place → List (List Char)
  | 0, _, _ => []
  | fuel + 1, name, place =>
      match files.entry? place with
      | some .directory =>
          (files.entries.filterMap (Files.childName? place)).flatMap (fun child =>
            tellRemoved files fuel (inside name (Text.Octets.ofString child))
              (place ++ [child])) ++
            ["removed directory ".toList ++ quote name]
      | _ => ["removed ".toList ++ quote name]

def removeOne (deep empty force tells : Bool) (name : List Char) : Work Unit := do
  let path ← pathOf name
  let files := (← get).files
  let last := lastName name
  match files.find path with
  | .error problem =>
      if force && (problem = .missing || problem = .notDirectory) then pure ()
      else trouble "cannot remove" name problem
  | .ok (place, entry) =>
      let remove : Work Unit := do
        if tells then
          for line in tellRemoved files (files.entries.length + 2) name place do
            printLine line
        else pure ()
        modify fun state => { state with files := files.remove place }
      if entry = .directory then
        if !deep && !(empty && isEmptyDirectory files place) then
          trouble "cannot remove" name .isDirectory
        else if last = ['.'] || last = ['.', '.'] then
          fault 1 ("refusing to remove '.' or '..' directory: skipping ".toList ++ quote name)
        else if place.isEmpty then do
          fault 1 "it is dangerous to operate recursively on '/'".toList
          complain "use --no-preserve-root to override this failsafe".toList
        else remove
      else remove

def rm : Work Nat := do
  let (given, operands) ← options
    { letters := ['f', 'i', 'I', 'r', 'R', 'd', 'v'].map (·, false)
      names := [("force", 'f'), ("recursive", 'r'), ("dir", 'd'), ("verbose", 'v')] }
  let force := has given 'f'
  if operands.isEmpty && !force then misuse 1 "missing operand".toList
  else do
    for name in operands do
      removeOne (has given 'r' || has given 'R') (has given 'd') force (has given 'v') name
    pure 0

def unlink : Work Nat := do
  let (_, operands) ← options { letters := [] }
  match operands with
  | [] => misuse 1 "missing operand".toList
  | [name] => do
      let path ← pathOf name
      match (← get).files.find path with
      | .error problem => trouble "cannot unlink" name problem
      | .ok (_, .directory) => trouble "cannot unlink" name .isDirectory
      | .ok (place, _) => modify fun state => { state with files := state.files.remove place }
      pure 0
  | _ :: extra :: _ => misuse 1 ("extra operand ".toList ++ quote extra)

def touch : Work Nat := do
  let (given, operands) ← options
    { letters :=
        [('a', false), ('c', false), ('f', false), ('h', false), ('m', false), ('d', true),
          ('r', true), ('t', true)]
      names := [("no-create", 'c'), ("date", 'd'), ("reference", 'r')] }
  if operands.isEmpty then misuse 1 "missing file operand".toList
  else do
    for name in operands do
      let path ← pathOf name
      match (← get).files.find path with
      | .ok _ => pure ()
      | .error problem =>
          if has given 'c' then pure ()
          else if name.getLast? = some '/' then trouble "setting times of" name problem
          else
            match ← onFiles (·.append path "") with
            | .ok () => pure ()
            | .error problem => trouble "cannot touch" name problem
    pure 0

/-! ### Copying and moving -/

/-- Puts everything at a place and below it to another place too. -/
def copied (files : Files) (old new : Place) : Files :=
  (files.entries.filter fun entry => old.isPrefixOf entry.1).foldl
    (fun files entry => files.put (new ++ entry.1.drop old.length) entry.2) files

structure Transfer where
  verb : String
  deep : Bool
  moves : Bool
  tells : Bool
  keeps : Bool

/-- Copies or moves one thing. -/
def transferOne (transfer : Transfer) (source target : List Char) : Work Unit := do
  let state ← get
  let files := state.files
  let from? := files.find (← pathOf source)
  let path ← pathOf target
  match from? with
  | .error problem => trouble "cannot stat" source problem
  | .ok (old, entry) =>
      let isDirectory := entry = .directory
      let finish (place : Place) : Work Unit := do
        let after := copied files old place
        let runs := state.executables.contains old && !state.executables.contains place
        modify fun state => { state with
          files := if transfer.moves then after.remove old else after
          executables := if runs then place :: state.executables else state.executables }
        if transfer.tells then
          printLine ((if transfer.moves then "renamed ".toList else []) ++ quote source ++
            " -> ".toList ++ quote target)
        else pure ()
      let refuse (problem : Files.Fault) : Work Unit :=
        if transfer.moves then
          fault 1 ("cannot move ".toList ++ quote source ++ " to ".toList ++ quote target ++
            [':', ' '] ++ reason problem)
        else if isDirectory then trouble "cannot create directory" target problem
        else trouble "cannot create regular file" target problem
      if isDirectory && !transfer.deep then
        fault 1 ("-r not specified; omitting directory ".toList ++ quote source)
      else
        match files.locate path with
        | .error problem => refuse problem
        | .ok spot =>
            let place := spot.place
            match files.entry? place with
            | some there =>
                if place = old then
                  if transfer.keeps then pure ()
                  else fault 1 (quote source ++ " and ".toList ++ quote target ++
                    " are the same file".toList)
                else if transfer.keeps && there ≠ .directory then pure ()
                else if isDirectory && there ≠ .directory then
                  fault 1 ("cannot overwrite non-directory ".toList ++ quote target ++
                    " with directory ".toList ++ quote source)
                else if !isDirectory && there = .directory then
                  fault 1 ("cannot overwrite directory ".toList ++ quote target ++
                    " with non-directory".toList ++
                    (if transfer.moves then ' ' :: quote source else []))
                else if old.isPrefixOf place then
                  fault 1 ("cannot copy a directory, ".toList ++ quote source ++
                    ", into itself, ".toList ++ quote target)
                else if isDirectory && transfer.moves && !isEmptyDirectory files place then
                  fault 1 ("cannot overwrite ".toList ++ quote target ++
                    ": Directory not empty".toList)
                else if isDirectory then finish place
                else
                  match there, entry with
                  | .sink, _ => if transfer.moves then finish place else pure ()
                  | _, .sink => do
                      modify fun state => { state with files := files.put place (.file []) }
                  | _, _ => finish place
            | none =>
                if isDirectory && old.isPrefixOf place then
                  if transfer.moves then
                    fault 1 ("cannot move ".toList ++ quote source ++
                      " to a subdirectory of itself, ".toList ++ quote target)
                  else fault 1 ("cannot copy a directory, ".toList ++ quote source ++
                    ", into itself, ".toList ++ quote target)
                else
                  match spot.ending with
                  | .slash _ => if isDirectory then finish place else refuse .notDirectory
                  | _ =>
                      if entry = .sink && !transfer.moves then
                        modify fun state => { state with files := files.put place (.file []) }
                      else finish place

/-- Copies or moves things into a directory. -/
def transferInto (transfer : Transfer) (directory : List Char) : List (List Char) → Work Unit
  | [] => pure ()
  | source :: rest => do
      transferOne transfer source (inside directory (lastName source))
      transferInto transfer directory rest

def transferGrammar : Work.Grammar where
  letters :=
    [('a', false), ('b', false), ('d', false), ('f', false), ('i', false), ('l', false),
      ('L', false), ('n', false), ('p', false), ('P', false), ('r', false), ('R', false),
      ('s', false), ('u', false), ('v', false), ('x', false), ('H', false), ('T', false),
      ('t', true), ('S', true)]
  names :=
    [("archive", 'a'), ("force", 'f'), ("no-clobber", 'n'), ("recursive", 'r'), ("verbose", 'v'),
      ("target-directory", 't'), ("no-target-directory", 'T'), ("update", 'u'), ("symbolic", 's')]

def transfer (moves : Bool) : Work Nat := do
  let (given, operands) ← options transferGrammar
  let transfer : Transfer :=
    { verb := if moves then "move" else "copy"
      deep := moves || ['r', 'R', 'a'].any (has given), moves, tells := has given 'v'
      keeps := has given 'n' }
  let state ← get
  let isDirectory (name : List Char) : Bool :=
    state.files.hasDirectory (Files.join state.task.directory (Text.Octets.asString name))
  match value? given 't' with
  | some directory => do
      if operands.isEmpty then misuse 1 "missing file operand".toList
      else if isDirectory directory then transferInto transfer directory operands
      else fault 1 ("target directory ".toList ++ quote directory ++
        ": No such file or directory".toList)
      pure 0
  | none =>
      match operands.reverse with
      | [] => misuse 1 "missing file operand".toList
      | [source] =>
          misuse 1 ("missing destination file operand after ".toList ++ quote source)
      | [target, source] => do
          if isDirectory target && !has given 'T' && !target.isEmpty then
            transferInto transfer target [source]
          else transferOne transfer source target
          pure 0
      | target :: sources => do
          if isDirectory target then transferInto transfer target sources.reverse
          else
            match state.files.find
                (Files.join state.task.directory (Text.Octets.asString target)) with
            | .ok _ => fault 1 ("target ".toList ++ quote target ++ ": Not a directory".toList)
            | .error problem =>
                fault 1 ("target ".toList ++ quote target ++ [':', ' '] ++ reason problem)
          pure 0

/-- A second name for a file is a copy of it. -/
def ln : Work Nat := do
  let (given, operands) ← options transferGrammar
  let state ← get
  match operands with
  | [] => misuse 1 "missing file operand".toList
  | source :: rest => do
      let path ← pathOf source
      let target := rest.headD ['.']
      let target := if state.files.hasDirectory (← pathOf target) then
        inside target (lastName source) else target
      match state.files.find path with
      | .error problem =>
          if has given 's' then pure ()
          else fault 1 ("failed to access ".toList ++ quote source ++ [':', ' '] ++ reason problem)
      | .ok (old, entry) =>
          if entry = .directory && !has given 's' then
            fault 1 (source ++ ": hard link not allowed for directory".toList)
          else do
            let path ← pathOf target
            match state.files.locate path with
            | .error problem =>
                fault 1 ("failed to create ".toList ++
                  (if has given 's' then "symbolic".toList else "hard".toList) ++
                  " link ".toList ++ quote target ++ [':', ' '] ++ reason problem)
            | .ok spot =>
                if ( state.files.entry? spot.place).isSome && !has given 'f' then
                  fault 1 ("failed to create ".toList ++
                    (if has given 's' then "symbolic".toList else "hard".toList) ++
                    " link ".toList ++ quote target ++ ": File exists".toList)
                else
                  modify fun state => { state with
                    files := copied (state.files.remove spot.place) old spot.place }
      pure 0

/-! ### Permissions -/

/-- Can a file be run after its permissions were changed as a word tells? -/
def runsAfter? (word : List Char) (runs : Bool) : Option Bool :=
  if word.isEmpty then none
  else if word.all Char.isDigit then
    if word.all (fun c => c ≤ '7') && word.length ≤ 5 then
      some (word.any fun c => c.toNat % 2 = 1)
    else none
  else
    (splitOn ',' word).foldl
      (fun runs? clause => runs?.bind fun runs =>
        let rest := clause.dropWhile fun c => ['u', 'g', 'o', 'a'].contains c
        match rest with
        | sign :: letters =>
            if !letters.all (fun c => ['r', 'w', 'x', 'X', 's', 't'].contains c) then none
            else if sign = '+' then some (runs || letters.contains 'x')
            else if sign = '-' then some (runs && !letters.contains 'x')
            else if sign = '=' then some (letters.contains 'x')
            else none
        | [] => none)
      (some runs)

/-- Changes who may run a file; whoever runs it here may do anything else. -/
def chmod : Work Nat := do
  let state ← get
  let takesAway (word : List Char) : Bool :=
    match word with
    | '-' :: rest => !rest.isEmpty && rest.all fun c => ['r', 'w', 'x', 'X'].contains c
    | _ => false
  let shielded := state.task.arguments.map fun word =>
    if takesAway word then 'a' :: word else word
  set { state with task := { state.task with arguments := shielded } }
  let (given, operands) ← options
    { letters := ['c', 'f', 'v', 'R'].map (·, false)
      names := [("recursive", 'R'), ("verbose", 'v'), ("quiet", 'f'), ("silent", 'f')] }
  match operands with
  | [] => misuse 1 "missing operand".toList
  | [word] => misuse 1 ("missing operand after ".toList ++ quote word)
  | word :: names =>
      match runsAfter? word false with
      | none => misuse 1 ("invalid mode: ".toList ++ quote word)
      | some _ => do
          for name in names do
            let path ← pathOf name
            let state ← get
            match state.files.find path with
            | .error problem =>
                if has given 'f' then set { state with status := 1 }
                else trouble "cannot access" name problem
            | .ok (place, entry) =>
                let places := if has given 'R' then
                    place :: (state.files.entries.map Prod.fst).filter (Files.inside place)
                  else [place]
                let change (known : List Place) (place : Place) : List Place :=
                  let others := known.filter (· ≠ place)
                  match runsAfter? word (known.contains place) with
                  | some true => place :: others
                  | _ => others
                if entry = .sink then pure ()
                else set { state with executables := places.foldl change state.executables }
          pure 0

/-! ### Listing -/

structure Listing where
  all : Bool
  almostAll : Bool
  itself : Bool
  reversed : Bool
  deep : Bool
  marks : Bool
  slashes : Bool

def textBefore (a b : List Char) : Bool :=
  !(b < a)

namespace Listing

def ordered (listing : Listing) (names : List (List Char)) : List (List Char) :=
  let sorted := names.mergeSort textBefore
  if listing.reversed then sorted.reverse else sorted

def shownNames (listing : Listing) (names : List (List Char)) : List (List Char) :=
  listing.ordered ((if listing.all then [['.'], ['.', '.']] else []) ++
    names.filter fun name => listing.all || listing.almostAll || name.head? ≠ some '.')

def mark (listing : Listing) (files : Files) (runs : Bool) (path : String) : List Char :=
  if (listing.marks || listing.slashes) && files.hasDirectory path then ['/']
  else if listing.marks && runs then ['*']
  else []

/-- A directory with its names, and those in it where the listing goes deep. -/
def directory (listing : Listing) (files : Files) (executables : List Place) (here : String)
    (named : Bool) : Nat → List Char → List (List Char)
  | 0, _ => []
  | fuel + 1, name =>
      let path := Files.join here (Text.Octets.asString name)
      let children := (files.list path).toOption.getD [] |>.map Text.Octets.ofString
      let shown := listing.shownNames children
      let pathTo (child : List Char) : String := Files.join path (Text.Octets.asString child)
      let line (child : List Char) : List Char :=
        let runs := match files.find (pathTo child) with
          | .ok (place, entry) => entry = .program || executables.contains place
          | .error _ => false
        child ++ listing.mark files runs (pathTo child) ++ ['\n']
      let block := (if named then name ++ [':', '\n'] else []) ++ shown.flatMap line
      let deeper := if listing.deep then
          shown.filter fun child =>
            child ≠ ['.'] && child ≠ ['.', '.'] && files.hasDirectory (pathTo child)
        else []
      block :: deeper.flatMap fun child =>
        directory listing files executables here true fuel (inside name child)

end Listing

def ls : Work Nat := do
  let (given, operands) ← options
    { letters := ['a', 'A', 'd', 'r', 'R', 'F', 'p', '1', 'l', 't', 'S', 'h', 'C', 'x', 'U', 'f',
        'b', 'B', 'c', 'g', 'G', 'H', 'i', 'k', 'L', 'm', 'n', 'N', 'o', 'q', 'Q', 's', 'u', 'v',
        'X', 'Z'].map (·, false) ++ [('T', true), ('I', true), ('w', true)]
      names := [("all", 'a'), ("almost-all", 'A'), ("directory", 'd'), ("reverse", 'r'),
        ("recursive", 'R'), ("classify", 'F')]
      status := 2 }
  let listing : Listing :=
    { all := has given 'a', almostAll := has given 'A', itself := has given 'd'
      reversed := has given 'r', deep := has given 'R', marks := has given 'F'
      slashes := has given 'p' }
  let state ← get
  let files := state.files
  let pathTo (name : List Char) : String :=
    if name.isEmpty then "" else Files.join state.task.directory (Text.Octets.asString name)
  let names := listing.ordered (if operands.isEmpty then [['.']] else operands)
  for name in names do
    match files.find (pathTo name) with
    | .ok _ => pure ()
    | .error problem =>
        fault 2 ("cannot access ".toList ++ quote name ++ [':', ' '] ++ reason problem)
  let there := names.filter fun name => files.hasSomething (pathTo name)
  let isShallow (name : List Char) : Bool :=
    listing.itself || !files.hasDirectory (pathTo name)
  let plain := there.filter isShallow
  for name in plain do
    printLine (name ++ listing.mark files false (pathTo name))
  let named := 1 < names.length || listing.deep
  let blocks := (there.filter fun name => !isShallow name).flatMap
    (listing.directory files state.executables state.task.directory named
      (files.entries.length + 2))
  if !plain.isEmpty && !blocks.isEmpty then print ['\n'] else pure ()
  print (['\n'].intercalate blocks)
  pure 0

/-! ### Sizes -/

def kindName (entry : Entry) : List Char :=
  match entry with
  | .directory => "directory".toList
  | .sink => "character special file".toList
  | entry => if (Files.Entry.content entry).isEmpty then "regular empty file".toList
      else "regular file".toList

/-- What stands in place of the letters of a format. -/
def stated (name : List Char) (entry : Entry) (runs : Bool) : List Char → List Char
  | '%' :: c :: rest =>
      (match c with
        | 'n' => name
        | 'N' => quote name
        | 's' =>
            if entry = .directory then "4096".toList
            else naturalText (Files.Entry.content entry).length
        | 'F' => kindName entry
        | 'a' => (if entry = .directory || runs then "755" else "644").toList
        | 'U' => "root".toList
        | 'G' => "root".toList
        | 'u' => ['0']
        | 'g' => ['0']
        | '%' => ['%']
        | _ => ['?']) ++ stated name entry runs rest
  | c :: rest => c :: stated name entry runs rest
  | [] => []

def stat : Work Nat := do
  let (given, operands) ← options
    { letters := [('c', true), ('f', false), ('L', false), ('t', false)]
      names := [("format", 'c')] }
  if operands.isEmpty then misuse 1 "missing operand".toList
  else do
    for name in operands do
      let path ← pathOf name
      let state ← get
      match state.files.find path with
      | .error problem => trouble "cannot statx" name problem
      | .ok (place, entry) =>
          printLine (stated name entry (state.executables.contains place || entry = .program)
            ((value? given 'c').getD "%n".toList))
    pure 0

def truncate : Work Nat := do
  let (given, operands) ← options
    { letters := [('c', false), ('o', false), ('s', true), ('r', true)]
      names := [("size", 's'), ("no-create", 'c'), ("reference", 'r')] }
  match value? given 's' with
  | none => misuse 1 "you must specify either '--size' or '--reference'".toList
  | some text => do
      let (sign, digits) := match text with
        | '+' :: rest => (some true, rest)
        | '-' :: rest => (some false, rest)
        | rest => (none, rest)
      match amount? digits with
      | none => fail 1 ("Invalid number: ".toList ++ quote text)
      | some amount =>
          if operands.isEmpty then misuse 1 "missing file operand".toList
          else do
            for name in operands do
              let path ← pathOf name
              if has given 'c' && !(← get).files.hasSomething path then pure ()
              else
                let resize (pieces : List (List UInt8)) : List (List UInt8) :=
                  let content := pieces.flatten
                  let size := match sign with
                    | none => amount
                    | some true => content.length + amount
                    | some false => content.length - amount
                  [content.take size ++ List.replicate (size - content.length) 0]
                match ← onFiles (·.writeWith path resize) with
                | .ok () => pure ()
                | .error problem =>
                    fault 1 ("cannot open ".toList ++ quote name ++ " for writing: ".toList ++
                      reason problem)
            pure 0

/-- Makes a file or a directory with a name that is not there yet. -/
def mktemp : Work Nat := do
  let (given, operands) ← options
    { letters := [('d', false), ('q', false), ('u', false), ('t', false), ('p', true)]
      names := [("directory", 'd'), ("tmpdir", 'p')] }
  let files := (← get).files
  let count := files.entries.length
  let letters := (List.range 10).map fun n => Char.ofNat (97 + (count / Nat.pow 26 n) % 26)
  let template := operands.headD "tmp.XXXXXXXXXX".toList
  let marks := (template.reverse.takeWhile (· = 'X')).length
  if marks < 3 then
    fail 1 ("too few X's in template ".toList ++ quote template)
  else do
    let filled := template.take (template.length - marks) ++
      (letters ++ List.replicate marks 'a').take marks
    let base := if operands.isEmpty then some ((value? given 'p').getD "/tmp".toList)
      else value? given 'p'
    let name := match base with
      | some base => inside base filled
      | none => filled
    let path ← pathOf name
    match ← onFiles fun files =>
        if has given 'd' then files.makeDirectory path else files.append path "" with
    | .ok () => printLine name
    | .error problem =>
        fault 1 ("failed to create ".toList ++
          (if has given 'd' then "directory".toList else "file".toList) ++
          " via template ".toList ++ quote (inside (base.getD ['.']) template) ++ [':', ' '] ++
          reason problem)
    pure 0

/-! ### Finding -/

/-- Conditions on files, some of which do something. -/
inductive Test where
  | always
  | never
  | name (caseless : Bool) (pattern : List Char)
  | path (pattern : List Char)
  | kind (letter : Char)
  | empty
  | show (finish : Char)
  | delete
  | negation (test : Test)
  | both (first second : Test)
  | either (first second : Test)

structure Found where
  name : List Char
  path : String
  depth : Nat

namespace Test

def acts : Test → Bool
  | .show _ => true
  | .delete => true
  | .negation test => test.acts
  | .both first second => first.acts || second.acts
  | .either first second => first.acts || second.acts
  | _ => false

/-- The signs of a pattern; a backslash takes the meaning from what is behind it. -/
def signs : List Char → List Shell.Sign
  | '\\' :: c :: rest => ⟨c, false⟩ :: signs rest
  | c :: rest => ⟨c, true⟩ :: signs rest
  | [] => []

def fitsPattern (caseless : Bool) (pattern text : List Char) : Bool :=
  let lower (text : List Char) : List Char := if caseless then text.map Char.toLower else text
  (Shell.Pattern.ofSigns (signs (lower pattern))).fits (lower text)

def holds (found : Found) : Test → Work Bool
  | .always => pure true
  | .never => pure false
  | .name caseless pattern => pure (fitsPattern caseless pattern (lastName found.name))
  | .path pattern => pure (fitsPattern false pattern found.name)
  | .kind letter => do
      match (← get).files.find found.path with
      | .ok (_, .directory) => pure (letter = 'd')
      | .ok (_, .sink) => pure (letter = 'c')
      | .ok _ => pure (letter = 'f')
      | .error _ => pure false
  | .empty => do
      let files := (← get).files
      match files.find found.path with
      | .ok (place, .directory) => pure (isEmptyDirectory files place)
      | .ok (_, .file pieces) => pure pieces.flatten.isEmpty
      | _ => pure false
  | .show finish => do
      print (found.name ++ [finish])
      pure true
  | .delete => do
      let files := (← get).files
      match files.find found.path with
      | .ok (place, entry) =>
          if entry = .directory && !isEmptyDirectory files place then do
            fault 1 ("cannot delete ".toList ++ quote found.name ++
              ": Directory not empty".toList)
            pure false
          else do
            modify fun state => { state with files := state.files.remove place }
            pure true
      | .error _ => pure false
  | .negation test => do pure (!(← test.holds found))
  | .both first second => do
      if ← first.holds found then second.holds found else pure false
  | .either first second => do
      if ← first.holds found then pure true else second.holds found

end Test

structure FindLimits where
  least : Nat := 0
  most : Option Nat := none
  innerFirst : Bool := false

abbrev FindState := List (List Char) × FindLimits

mutual

/-- Alternatives of conditions. -/
def findAny : Nat → FindState → Work (Test × FindState)
  | 0, state => pure (.always, state)
  | fuel + 1, state => do
      let (first, words, limits) ← findAll fuel state
      match words with
      | word :: rest =>
          if word = "-o".toList || word = "-or".toList then do
            let (second, state) ← findAny fuel (rest, limits)
            pure (.either first second, state)
          else pure (first, words, limits)
      | [] => pure (first, words, limits)
termination_by structural fuel => fuel

/-- Conditions in a row. -/
def findAll : Nat → FindState → Work (Test × FindState)
  | 0, state => pure (.always, state)
  | fuel + 1, state => do
      let (first, words, limits) ← findOne fuel state
      match words with
      | word :: rest =>
          if word = "-a".toList || word = "-and".toList then do
            let (second, state) ← findAll fuel (rest, limits)
            pure (.both first second, state)
          else if word = "-o".toList || word = "-or".toList || word = [')'] then
            pure (first, words, limits)
          else do
            let (second, state) ← findAll fuel (words, limits)
            pure (.both first second, state)
      | [] => pure (first, words, limits)
termination_by structural fuel => fuel

def findOne : Nat → FindState → Work (Test × FindState)
  | 0, state => pure (.always, state)
  | fuel + 1, (words, limits) => do
      match words with
      | [] => pure (.always, [], limits)
      | word :: rest =>
          let withValue (make : List Char → Work (Test × FindLimits)) : Work (Test × FindState) :=
            match rest with
            | value :: rest => do
                let (test, limits) ← make value
                pure (test, rest, limits)
            | [] => fail 1 ("missing argument to \x60".toList ++ word ++ ['\''])
          let plain (test : Test) : Work (Test × FindState) := pure (test, rest, limits)
          match String.ofList word with
          | "!" => do
              let (test, state) ← findOne fuel (rest, limits)
              pure (.negation test, state)
          | "-not" => do
              let (test, state) ← findOne fuel (rest, limits)
              pure (.negation test, state)
          | "(" => do
              let (test, words, limits) ← findAny fuel (rest, limits)
              if words.head? = some [')'] then pure (test, words.drop 1, limits)
              else fail 1 ("invalid expression; I was expecting to find a ')' somewhere but " ++
                "did not see one.").toList
          | "-name" => withValue (fun value =>
              pure (.name false value, limits))
          | "-iname" => withValue (fun value =>
              pure (.name true value, limits))
          | "-path" => withValue (fun value =>
              pure (.path value, limits))
          | "-wholename" => withValue (fun value =>
              pure (.path value, limits))
          | "-type" => withValue (fun value =>
              pure (.kind (value.headD 'f'), limits))
          | "-maxdepth" => withValue (fun value =>
              pure (.always, { limits with most := natural? value }))
          | "-mindepth" => withValue (fun value =>
              pure (.always, { limits with least := (natural? value).getD 0 }))
          | "-depth" => pure (.always, rest, { limits with innerFirst := true })
          | "-empty" => plain .empty
          | "-print" => plain (.show '\n')
          | "-print0" => plain (.show '\x00')
          | "-delete" => pure (.delete, rest, { limits with innerFirst := true })
          | "-true" => plain .always
          | "-false" => plain .never
          | _ => fail 1 ("unknown predicate \x60".toList ++ word ++ ['\''])
termination_by structural fuel => fuel

end

/-- What is at a path and below. -/
def everything (files : Files) (limits : FindLimits) : Nat → Found → List Found
  | 0, _ => []
  | fuel + 1, found =>
      let deeper := match limits.most, files.list found.path with
        | some most, _ =>
            if most ≤ found.depth then [] else (files.list found.path).toOption.getD []
        | none, children => children.toOption.getD []
      let below := deeper.flatMap fun child =>
        everything files limits fuel
          { name := inside found.name (Text.Octets.ofString child)
            path := Files.join found.path child, depth := found.depth + 1 }
      let itself := if limits.least ≤ found.depth then [found] else []
      if limits.innerFirst then below ++ itself else itself ++ below

def find : Work Nat := do
  let words ← arguments
  let isPath (word : List Char) : Bool :=
    !(word.head? = some '-' && 1 < word.length) && word ≠ ['!'] && word ≠ ['(']
  let roots := words.takeWhile isPath
  let (test, rest, limits) ← findAny (4 * words.length + 4) (words.drop roots.length, {})
  match rest with
  | word :: _ => fail 1 ("paths must precede expression: \x60".toList ++ word ++ ['\''])
  | [] => do
      let test := if test.acts then test else .both test (.show '\n')
      for root in (if roots.isEmpty then [['.']] else roots) do
        let path ← pathOf root
        let files := (← get).files
        match files.find path with
        | .error problem => fault 1 (quote root ++ [':', ' '] ++ reason problem)
        | .ok _ =>
            for found in everything files limits (files.entries.length + 2)
                { name := root, path, depth := 0 } do
              let _ ← test.holds found
      pure 0

end Concord.Utility
