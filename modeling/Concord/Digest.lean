import Concord.Text.Hex
import Concord.Text.Utf8

/-!
The SHA-256 digest of a byte string, used as the fingerprint of a source text.
-/

namespace Concord.Digest

def initialState : List UInt32 :=
  [0x6a09e667, 0xbb67ae85, 0x3c6ef372, 0xa54ff53a, 0x510e527f, 0x9b05688c, 0x1f83d9ab, 0x5be0cd19]

def roundConstants : List UInt32 :=
  [0x428a2f98, 0x71374491, 0xb5c0fbcf, 0xe9b5dba5, 0x3956c25b, 0x59f111f1, 0x923f82a4, 0xab1c5ed5,
    0xd807aa98, 0x12835b01, 0x243185be, 0x550c7dc3, 0x72be5d74, 0x80deb1fe, 0x9bdc06a7, 0xc19bf174,
    0xe49b69c1, 0xefbe4786, 0x0fc19dc6, 0x240ca1cc, 0x2de92c6f, 0x4a7484aa, 0x5cb0a9dc, 0x76f988da,
    0x983e5152, 0xa831c66d, 0xb00327c8, 0xbf597fc7, 0xc6e00bf3, 0xd5a79147, 0x06ca6351, 0x14292967,
    0x27b70a85, 0x2e1b2138, 0x4d2c6dfc, 0x53380d13, 0x650a7354, 0x766a0abb, 0x81c2c92e, 0x92722c85,
    0xa2bfe8a1, 0xa81a664b, 0xc24b8b70, 0xc76c51a3, 0xd192e819, 0xd6990624, 0xf40e3585, 0x106aa070,
    0x19a4c116, 0x1e376c08, 0x2748774c, 0x34b0bcb5, 0x391c0cb3, 0x4ed8aa4a, 0x5b9cca4f, 0x682e6ff3,
    0x748f82ee, 0x78a5636f, 0x84c87814, 0x8cc70208, 0x90befffa, 0xa4506ceb, 0xbef9a3f7, 0xc67178f2]

def rotate (x : UInt32) (n : UInt32) : UInt32 :=
  (x >>> n) ||| (x <<< (32 - n))

/-- The bytes of a number, most significant first. -/
def bigEndian (width value : Nat) : List UInt8 :=
  (List.range width).reverse.map fun i => UInt8.ofNat (value / Nat.pow 256 i)

/-- A one bit, zeros up to 8 bytes short of a whole block, and the length in bits. -/
def padding (length : Nat) : List UInt8 :=
  0x80 :: List.replicate ((119 - length % 64) % 64) 0 ++ bigEndian 8 (8 * length)

def words : List UInt8 → List UInt32
  | a :: b :: c :: d :: rest =>
      UInt32.ofNat (((a.toNat * 256 + b.toNat) * 256 + c.toNat) * 256 + d.toNat) :: words rest
  | _ => []

def smallSigma0 (x : UInt32) : UInt32 :=
  rotate x 7 ^^^ rotate x 18 ^^^ (x >>> 3)

def smallSigma1 (x : UInt32) : UInt32 :=
  rotate x 17 ^^^ rotate x 19 ^^^ (x >>> 10)

/-- The next word of a schedule held newest first. -/
def nextWord (schedule : List UInt32) : UInt32 :=
  smallSigma1 (schedule.getD 1 0) + schedule.getD 6 0 + smallSigma0 (schedule.getD 14 0) +
    schedule.getD 15 0

def extend : Nat → List UInt32 → List UInt32
  | 0, schedule => schedule
  | count + 1, schedule => extend count (nextWord schedule :: schedule)

/-- The 64 words of a block of 16. -/
def schedule (block : List UInt32) : List UInt32 :=
  (extend 48 block.reverse).reverse

/-- The eight working words of a round. -/
structure State where
  a : UInt32
  b : UInt32
  c : UInt32
  d : UInt32
  e : UInt32
  f : UInt32
  g : UInt32
  h : UInt32

def State.round (s : State) (input : UInt32 × UInt32) : State :=
  let choice := (s.e &&& s.f) ^^^ (~~~s.e &&& s.g)
  let majority := (s.a &&& s.b) ^^^ (s.a &&& s.c) ^^^ (s.b &&& s.c)
  let upper := s.h + (rotate s.e 6 ^^^ rotate s.e 11 ^^^ rotate s.e 25) + choice + input.1 + input.2
  let lower := (rotate s.a 2 ^^^ rotate s.a 13 ^^^ rotate s.a 22) + majority
  ⟨upper + lower, s.a, s.b, s.c, s.d + upper, s.e, s.f, s.g⟩

def State.toList (s : State) : List UInt32 :=
  [s.a, s.b, s.c, s.d, s.e, s.f, s.g, s.h]

def State.ofList (ws : List UInt32) : State :=
  ⟨ws.getD 0 0, ws.getD 1 0, ws.getD 2 0, ws.getD 3 0, ws.getD 4 0, ws.getD 5 0, ws.getD 6 0,
    ws.getD 7 0⟩

def compress (state block : List UInt32) : List UInt32 :=
  let rounds := roundConstants.zip (schedule block)
  List.zipWith (· + ·) state (rounds.foldl State.round (State.ofList state)).toList

/-- Compresses `count` blocks of 16 words one after the other. -/
def compressAll : Nat → List UInt32 → List UInt32 → List UInt32
  | 0, state, _ => state
  | count + 1, state, ws => compressAll count (compress state (ws.take 16)) (ws.drop 16)

def sha256 (bytes : List UInt8) : List UInt8 :=
  let ws := words (bytes ++ padding bytes.length)
  (compressAll (ws.length / 16) initialState ws).flatMap fun w => bigEndian 4 w.toNat

def sha256Hex (bytes : List UInt8) : String :=
  Text.Hex.encode (sha256 bytes)

/-- The fingerprint of a text is that of its UTF-8 bytes. -/
def fingerprint (text : String) : String :=
  sha256Hex (Text.Utf8.encode text)

end Concord.Digest
