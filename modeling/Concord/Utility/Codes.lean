import Concord.Digest
import Concord.Utility.Lines

/-!
Programs that show bytes in other spellings, and the digests of files.
-/

namespace Concord.Utility

open Work

/-! ### Digests -/

/-- Prints something about each file, with its name behind it. -/
def perFile (about : List UInt8 → List Char) (between : String) : Work Nat := do
  let (_, names) ← options
    { letters := ['b', 't', 'c', 'z', 'w'].map (·, false)
      names := [("binary", 'b'), ("text", 't'), ("check", 'c'), ("zero", 'z')] }
  for name in orInput names do
    match ← contentOr 1 name with
    | some content => printLine (about (Text.Octets.toBytes content) ++ between.toList ++ name)
    | none => pure ()
  pure 0

def sha256sum : Work Nat :=
  perFile (fun bytes => (Digest.sha256Hex bytes).toList) "  "

/-- One byte into a checksum, most significant bit first. -/
def checksumByte (sum : UInt32) (byte : UInt8) : UInt32 :=
  (List.range 8).foldl
    (fun sum _ => if sum &&& 0x80000000 = 0 then sum <<< 1 else (sum <<< 1) ^^^ 0x04c11db7)
    (sum ^^^ (byte.toUInt32 <<< 24))

/-- The bytes of a length, least significant first and without zeros behind. -/
def lengthBytes : Nat → Nat → List UInt8
  | 0, _ => []
  | fuel + 1, n => if n = 0 then [] else UInt8.ofNat n :: lengthBytes fuel (n / 256)

def checksum (bytes : List UInt8) : Nat :=
  (~~~(lengthBytes 8 bytes.length).foldl checksumByte (bytes.foldl checksumByte 0)).toNat

def cksum : Work Nat := do
  let (_, names) ← options { letters := [] }
  for name in orInput names do
    match ← contentOr 1 name with
    | some content =>
        printLine (naturalText (checksum (Text.Octets.toBytes content)) ++
          ' ' :: naturalText content.length ++
          (if names.isEmpty then [] else ' ' :: name))
    | none => pure ()
  pure 0

/-! ### Sixty-four letters -/

def letters64 : List Char :=
  "ABCDEFGHIJKLMNOPQRSTUVWXYZabcdefghijklmnopqrstuvwxyz0123456789+/".toList

def letter64 (n : Nat) : Char :=
  letters64.getD n '='

def encode64 : List Char → List Char
  | a :: b :: c :: rest =>
      let n := a.toNat * 65536 + b.toNat * 256 + c.toNat
      letter64 (n / 262144) :: letter64 (n / 4096 % 64) :: letter64 (n / 64 % 64) ::
        letter64 (n % 64) :: encode64 rest
  | [a, b] =>
      let n := a.toNat * 1024 + b.toNat * 4
      [letter64 (n / 4096), letter64 (n / 64 % 64), letter64 (n % 64), '=']
  | [a] => [letter64 (a.toNat / 4), letter64 (a.toNat % 4 * 16), '=', '=']
  | [] => []

/-- The characters that letters stand for, and whether all of them are good. -/
def decode64 : List Char → List Char × Bool
  | [] => ([], true)
  | a :: b :: c :: d :: rest =>
      let value (c : Char) : Option Nat :=
        if letters64.contains c then some (letters64.takeWhile (· ≠ c)).length else none
      match value a, value b, value c, value d with
      | some a, some b, some c, some d =>
          let n := a * 262144 + b * 4096 + c * 64 + d
          let (text, good) := decode64 rest
          (Char.ofNat (n / 65536) :: Char.ofNat (n / 256 % 256) :: Char.ofNat (n % 256) :: text,
            good)
      | some a, some b, some c, none =>
          let n := a * 1024 + b * 16 + c / 4
          ([Char.ofNat (n / 256), Char.ofNat (n % 256)], d = '=' && rest.isEmpty)
      | some a, some b, none, _ =>
          ([Char.ofNat (a * 4 + b / 16)], c = '=' && d = '=' && rest.isEmpty)
      | _, _, _, _ => ([], false)
  | _ => ([], false)

/-- A text in lines of a width. -/
def wrapped (width : Nat) : Nat → List Char → List Char
  | 0, text => text
  | fuel + 1, text =>
      if text.isEmpty then []
      else text.take width ++ '\n' :: wrapped width fuel (text.drop width)

def base64 : Work Nat := do
  let (given, names) ← options
    { letters := [('d', false), ('D', false), ('i', false), ('w', true)]
      names := [("decode", 'd'), ("ignore-garbage", 'i'), ("wrap", 'w')] }
  match names with
  | _ :: extra :: _ => misuse 1 ("extra operand ".toList ++ quote extra)
  | names => do
      match ← contentOr 1 (names.headD ['-']) with
      | none => pure 1
      | some content =>
          if has given 'd' then do
            let kept := content.filter fun c =>
              if has given 'i' then letters64.contains c || c = '=' else c ≠ '\n'
            let (text, good) := decode64 kept
            print text
            if good then pure 0 else do
              flush
              fail 1 "invalid input".toList
          else do
            let width ← (do
              match value? given 'w' with
              | none => pure 76
              | some text =>
                  match natural? text with
                  | some width => pure width
                  | none => fail 1 ("invalid wrap size: ".toList ++ quote text))
            let text := encode64 content
            print (if width = 0 then text else wrapped width (text.length + 1) text)
            pure 0

/-! ### Bytes as numbers -/

/-- How bytes are shown: in units of some bytes, each in a width of its own. -/
structure Shown where
  size : Nat
  width : Nat
  text : Nat → List Char

def digitsIn (base count n : Nat) : List Char :=
  let digits := Nat.toDigits base n
  List.replicate (count - digits.length) '0' ++ digits

def shownAsChar (n : Nat) : List Char :=
  match Char.ofNat n with
  | '\x00' => ['\\', '0']
  | '\x07' => ['\\', 'a']
  | '\x08' => ['\\', 'b']
  | '\t' => ['\\', 't']
  | '\n' => ['\\', 'n']
  | '\x0b' => ['\\', 'v']
  | '\x0c' => ['\\', 'f']
  | '\r' => ['\\', 'r']
  | c => if 32 ≤ n && n < 127 then [c] else digitsIn 8 3 n

def shown? (letter : Char) (size : Nat) : Option Shown :=
  let bits := 8 * size
  match letter with
  | 'c' => some ⟨1, 4, shownAsChar⟩
  | 'x' => some ⟨size, 2 * size + 1, digitsIn 16 (2 * size)⟩
  | 'o' => some ⟨size, (bits + 2) / 3 + 1, digitsIn 8 ((bits + 2) / 3)⟩
  | 'u' => some ⟨size, (naturalText (Nat.pow 2 bits - 1)).length + 1, naturalText⟩
  | 'd' => some ⟨size, (naturalText (Nat.pow 2 (bits - 1))).length + 2, fun n =>
      if n < Nat.pow 2 (bits - 1) then naturalText n else '-' :: naturalText (Nat.pow 2 bits - n)⟩
  | _ => none

def littleEndian (bytes : List Char) : Nat :=
  bytes.foldr (fun c n => c.toNat + 256 * n) 0

def unitsOf (size : Nat) : Nat → List Char → List (List Char)
  | 0, _ => []
  | fuel + 1, bytes =>
      if bytes.isEmpty then [] else bytes.take size :: unitsOf size fuel (bytes.drop size)

def dumpLine (shown : Shown) (bytes : List Char) : List Char :=
  (unitsOf shown.size (bytes.length + 1) bytes).flatMap fun unit =>
    rightIn shown.width (shown.text (littleEndian unit))

/-- Lines of sixteen bytes; lines like the one before are only marked. -/
def dump (shown : Shown) (address : Nat → List Char) (all : Bool) :
    Nat → Nat → Option (List Char) → Bool → List Char → List Char
  | 0, _, _, _, _ => []
  | fuel + 1, place, before, marked, bytes =>
      if bytes.isEmpty then
        let last := address place
        if last.isEmpty then [] else last ++ ['\n']
      else
        let line := bytes.take 16
        let rest := bytes.drop 16
        if !all && before = some line && line.length = 16 && !rest.isEmpty then
          (if marked then [] else ['*', '\n']) ++
            dump shown address all fuel (place + 16) before true rest
        else
          address place ++ dumpLine shown line ++ '\n' ::
            dump shown address all fuel (place + line.length) (some line) false rest

def sizeOfType (text : List Char) : Nat :=
  match text with
  | ['C'] => 1
  | ['S'] => 2
  | ['L'] => 8
  | ['I'] => 4
  | digits => (natural? digits).getD 4

def od : Work Nat := do
  let (given, names) ← options
    { letters := [('A', true), ('t', true), ('N', true), ('j', true), ('w', true), ('v', false),
        ('c', false), ('x', false), ('o', false), ('b', false), ('d', false), ('a', false)]
      names := [("address-radix", 'A'), ("format", 't'), ("read-bytes", 'N'),
        ("skip-bytes", 'j')] }
  let shown : Option Shown := match value? given 't' with
    | some (letter :: size) => shown? letter (sizeOfType size)
    | some [] => none
    | none =>
        if has given 'c' then shown? 'c' 1
        else if has given 'x' then shown? 'x' 2
        else if has given 'b' then shown? 'o' 1
        else if has given 'd' then shown? 'u' 2
        else shown? 'o' 2
  let address (place : Nat) : List Char := match value? given 'A' with
    | some ['n'] => []
    | some ['d'] => digitsIn 10 7 place
    | some ['x'] => digitsIn 16 6 place
    | _ => digitsIn 8 7 place
  let contents ← (orInput names).mapM (contentOr 1)
  let bytes := (contents.filterMap fun content => content).flatten
  let skipped := ((value? given 'j').bind natural?).getD 0
  let kept := match (value? given 'N').bind natural? with
    | some count => (bytes.drop skipped).take count
    | none => bytes.drop skipped
  match shown with
  | none => fail 1 ("invalid type string ".toList ++ quote ((value? given 't').getD []))
  | some shown => do
      print (dump shown address (has given 'v') (kept.length + 2) skipped none false kept)
      pure 0

end Concord.Utility
