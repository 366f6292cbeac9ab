import TemplateLint.Text.Quoted
import TemplateLint.Text.Utf8

/-!
# Digests

The MD5 digest of a text, as thirty-two hexadecimal digits.  A message is padded to blocks of sixteen
words; each block is mixed into four words of state in sixty-four steps.
-/
namespace TemplateLint
namespace Digest

/-- The additive constant of each step. -/
def constants : List UInt32 := [
  0xd76aa478, 0xe8c7b756, 0x242070db, 0xc1bdceee, 0xf57c0faf, 0x4787c62a, 0xa8304613,
  0xfd469501, 0x698098d8, 0x8b44f7af, 0xffff5bb1, 0x895cd7be, 0x6b901122, 0xfd987193,
  0xa679438e, 0x49b40821, 0xf61e2562, 0xc040b340, 0x265e5a51, 0xe9b6c7aa, 0xd62f105d,
  0x02441453, 0xd8a1e681, 0xe7d3fbc8, 0x21e1cde6, 0xc33707d6, 0xf4d50d87, 0x455a14ed,
  0xa9e3e905, 0xfcefa3f8, 0x676f02d9, 0x8d2a4c8a, 0xfffa3942, 0x8771f681, 0x6d9d6122,
  0xfde5380c, 0xa4beea44, 0x4bdecfa9, 0xf6bb4b60, 0xbebfbc70, 0x289b7ec6, 0xeaa127fa,
  0xd4ef3085, 0x04881d05, 0xd9d4d039, 0xe6db99e5, 0x1fa27cf8, 0xc4ac5665, 0xf4292244,
  0x432aff97, 0xab9423a7, 0xfc93a039, 0x655b59c3, 0x8f0ccc92, 0xffeff47d, 0x85845dd1,
  0x6fa87e4f, 0xfe2ce6e0, 0xa3014314, 0x4e0811a1, 0xf7537e82, 0xbd3af235, 0x2ad7d2bb,
  0xeb86d391]

/-- The rotation of each round. -/
def rotations : List (List UInt32) :=
  [[7, 12, 17, 22], [5, 9, 14, 20], [4, 11, 16, 23], [6, 10, 15, 21]]

/-- The four words of state. -/
structure State where
  a : UInt32
  b : UInt32
  c : UInt32
  d : UInt32

/-- The state before the first block. -/
def State.initial : State := ⟨0x67452301, 0xefcdab89, 0x98badcfe, 0x10325476⟩

/-- A word turned to the left. -/
def rotate (x n : UInt32) : UInt32 := (x <<< n) ||| (x >>> (32 - n))

/-- The mixing function of a step. -/
def mix (step : Nat) (s : State) : UInt32 :=
  if step < 16 then (s.b &&& s.c) ||| (~~~s.b &&& s.d)
  else if step < 32 then (s.d &&& s.b) ||| (~~~s.d &&& s.c)
  else if step < 48 then s.b ^^^ s.c ^^^ s.d
  else s.c ^^^ (s.b ||| ~~~s.d)

/-- The word of the block that a step takes. -/
def wordIndex (step : Nat) : Nat :=
  if step < 16 then step
  else if step < 32 then (5 * step + 1) % 16
  else if step < 48 then (3 * step + 5) % 16
  else 7 * step % 16

/-- One step. -/
def advance (block : List UInt32) (s : State) (step : Nat) : State :=
  let sum := mix step s + s.a + constants.getD step 0 + block.getD (wordIndex step) 0
  let turn := (rotations.getD (step / 16) []).getD (step % 4) 0
  ⟨s.d, s.b + rotate sum turn, s.b, s.c⟩

/-- One block. -/
def absorb (s : State) (block : List UInt32) : State :=
  let t := (List.range 64).foldl (advance block) s
  ⟨s.a + t.a, s.b + t.b, s.c + t.c, s.d + t.d⟩

/-- The low bytes of a number, the lowest first. -/
def lowBytes : Nat → Nat → List UInt8
  | 0, _ => []
  | count + 1, n => UInt8.ofNat (n % 256) :: lowBytes count (n / 256)

theorem length_lowBytes (count n : Nat) : (lowBytes count n).length = count := by
  induction count generalizing n with
  | zero => rfl
  | succ count ih => rw [lowBytes, List.length_cons, ih]

/-- A message with a one bit, zeros, and its length in bits. -/
def padded (bytes : List UInt8) : List UInt8 :=
  bytes ++ [0x80] ++ List.replicate ((119 - bytes.length % 64) % 64) 0 ++
    lowBytes 8 (8 * bytes.length)

/-- The words of some bytes, each of four bytes with the lowest first. -/
def toWords : List UInt8 → List UInt32
  | b0 :: b1 :: b2 :: b3 :: rest =>
    (b0.toUInt32 ||| (b1.toUInt32 <<< 8) ||| (b2.toUInt32 <<< 16) ||| (b3.toUInt32 <<< 24)) ::
      toWords rest
  | _ => []

/-- The blocks of sixteen words; there are at most as many as words. -/
def toBlocks : Nat → List UInt32 → List (List UInt32)
  | 0, _ => []
  | _ + 1, [] => []
  | fuel + 1, words => words.take 16 :: toBlocks fuel (words.drop 16)

/-- The state after the whole message. -/
def finish (bytes : List UInt8) : State :=
  let words := toWords (padded bytes)
  (toBlocks words.length words).foldl absorb State.initial

/-- The two hexadecimal digits of a byte. -/
def hexByte (b : UInt8) : Text := Quoted.hex 2 b.toNat

end Digest

open Digest in
/-- The digest of a text. -/
def Text.digest (text : Text) : Text :=
  let s := finish (Utf8.encode text)
  [s.a, s.b, s.c, s.d].flatMap fun x => (lowBytes 4 x.toNat).flatMap hexByte

open Digest in
/-- A digest has thirty-two digits. -/
theorem Text.length_digest (text : Text) : text.digest.length = 32 := by
  have hbyte : ∀ b, (hexByte b).length = 2 := fun b => Quoted.length_hex 2 b.toNat
  have hword : ∀ x : UInt32, ((lowBytes 4 x.toNat).flatMap hexByte).length = 8 := by
    intro x
    simp only [List.length_flatMap, hbyte, List.map_const', List.sum_replicate_nat, length_lowBytes]
  simp only [Text.digest, List.length_flatMap, hword, List.map_const', List.sum_replicate_nat,
    List.length_cons, List.length_nil]

end TemplateLint
