import VisualSignParser.Codec.Framing
import Mathlib.Data.Set.Function

/-!
# SHA-256

The digest every part of the parser signs or compares.  Words are natural
numbers reduced modulo `2^32`, so a digest of a concrete message evaluates.
Nothing below proves anything about the compression function: results that
rest on collision resistance assume it of exactly the messages they hash,
through `CollisionFreeOn`.
-/

namespace VisualSignParser.Sha256

open VisualSignParser.Framing

/-- Round constants: the first 32 bits of the fractional parts of the cube
roots of the first 64 primes. -/
def roundConstants : List ℕ := [
  0x428a2f98, 0x71374491, 0xb5c0fbcf, 0xe9b5dba5, 0x3956c25b, 0x59f111f1, 0x923f82a4, 0xab1c5ed5,
  0xd807aa98, 0x12835b01, 0x243185be, 0x550c7dc3, 0x72be5d74, 0x80deb1fe, 0x9bdc06a7, 0xc19bf174,
  0xe49b69c1, 0xefbe4786, 0x0fc19dc6, 0x240ca1cc, 0x2de92c6f, 0x4a7484aa, 0x5cb0a9dc, 0x76f988da,
  0x983e5152, 0xa831c66d, 0xb00327c8, 0xbf597fc7, 0xc6e00bf3, 0xd5a79147, 0x06ca6351, 0x14292967,
  0x27b70a85, 0x2e1b2138, 0x4d2c6dfc, 0x53380d13, 0x650a7354, 0x766a0abb, 0x81c2c92e, 0x92722c85,
  0xa2bfe8a1, 0xa81a664b, 0xc24b8b70, 0xc76c51a3, 0xd192e819, 0xd6990624, 0xf40e3585, 0x106aa070,
  0x19a4c116, 0x1e376c08, 0x2748774c, 0x34b0bcb5, 0x391c0cb3, 0x4ed8aa4a, 0x5b9cca4f, 0x682e6ff3,
  0x748f82ee, 0x78a5636f, 0x84c87814, 0x8cc70208, 0x90befffa, 0xa4506ceb, 0xbef9a3f7, 0xc67178f2]

/-- The eight working variables. -/
structure Working where
  a : ℕ
  b : ℕ
  c : ℕ
  d : ℕ
  e : ℕ
  f : ℕ
  g : ℕ
  h : ℕ

def initial : Working :=
  ⟨0x6a09e667, 0xbb67ae85, 0x3c6ef372, 0xa54ff53a, 0x510e527f, 0x9b05688c, 0x1f83d9ab, 0x5be0cd19⟩

def rotateRight (word count : ℕ) : ℕ :=
  (word >>> count ||| word <<< (32 - count)) % 2 ^ 32

/-- The next word of the message schedule, from the earlier words in reverse. -/
def nextWord (recent : List ℕ) : ℕ :=
  let word2 := recent.getD 1 0
  let word15 := recent.getD 14 0
  let sigma0 := rotateRight word15 7 ^^^ rotateRight word15 18 ^^^ word15 >>> 3
  let sigma1 := rotateRight word2 17 ^^^ rotateRight word2 19 ^^^ word2 >>> 10
  (sigma1 + recent.getD 6 0 + sigma0 + recent.getD 15 0) % 2 ^ 32

def extendSchedule : ℕ → List ℕ → List ℕ
  | 0, recent => recent
  | count + 1, recent => extendSchedule count (nextWord recent :: recent)

/-- Read `count` big-endian words. -/
def readWords : ℕ → Bytes → List ℕ
  | 0, _ => []
  | count + 1, bytes => ofBeBytes (bytes.take 4) :: readWords count (bytes.drop 4)

def schedule (block : Bytes) : List ℕ :=
  (extendSchedule 48 (readWords 16 block).reverse).reverse

def round (state : Working) (constant word : ℕ) : Working :=
  let sum1 := rotateRight state.e 6 ^^^ rotateRight state.e 11 ^^^ rotateRight state.e 25
  let choice := (state.e &&& state.f) ^^^ ((2 ^ 32 - 1 - state.e) &&& state.g)
  let temp1 := state.h + sum1 + choice + constant + word
  let sum0 := rotateRight state.a 2 ^^^ rotateRight state.a 13 ^^^ rotateRight state.a 22
  let majority := (state.a &&& state.b) ^^^ (state.a &&& state.c) ^^^ (state.b &&& state.c)
  ⟨(temp1 + sum0 + majority) % 2 ^ 32, state.a, state.b, state.c,
    (state.d + temp1) % 2 ^ 32, state.e, state.f, state.g⟩

def Working.add (left right : Working) : Working :=
  ⟨(left.a + right.a) % 2 ^ 32, (left.b + right.b) % 2 ^ 32,
    (left.c + right.c) % 2 ^ 32, (left.d + right.d) % 2 ^ 32,
    (left.e + right.e) % 2 ^ 32, (left.f + right.f) % 2 ^ 32,
    (left.g + right.g) % 2 ^ 32, (left.h + right.h) % 2 ^ 32⟩

/-- Absorb one 64-byte block. -/
def compress (state : Working) (block : Bytes) : Working :=
  state.add <| (roundConstants.zip (schedule block)).foldl
    (fun working step => round working step.1 step.2) state

def compressBlocks : ℕ → Working → Bytes → Working
  | 0, state, _ => state
  | count + 1, state, bytes =>
      compressBlocks count (compress state (bytes.take 64)) (bytes.drop 64)

/-- The message, one `0x80` byte, zeros up to 56 modulo 64, and the bit length. -/
def pad (message : Bytes) : Bytes :=
  message ++ 0x80 :: List.replicate ((119 - message.length % 64) % 64) 0 ++
    beBytes 8 (8 * message.length)

def Working.bytes (state : Working) : Bytes :=
  beBytes 4 state.a ++ beBytes 4 state.b ++ beBytes 4 state.c ++ beBytes 4 state.d ++
    beBytes 4 state.e ++ beBytes 4 state.f ++ beBytes 4 state.g ++ beBytes 4 state.h

theorem Working.length_bytes (state : Working) : state.bytes.length = 32 := by
  simp [Working.bytes]

def sha256 (message : Bytes) : ByteArr 32 :=
  let padded := pad message
  let final := compressBlocks (padded.length / 64) initial padded
  ⟨final.bytes, final.length_bytes⟩

/-- No two of the given messages share a digest. -/
def CollisionFreeOn (messages : Set Bytes) : Prop := Set.InjOn sha256 messages

theorem CollisionFreeOn.eq {messages : Set Bytes} (hfree : CollisionFreeOn messages)
    {left right : Bytes} (hleft : left ∈ messages) (hright : right ∈ messages)
    (heq : sha256 left = sha256 right) : left = right :=
  hfree hleft hright heq

end VisualSignParser.Sha256
