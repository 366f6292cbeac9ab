import TemplateLint.Text.Basic

/-!
# Bytes of a text

The bytes that stand for a text, and the text that stands in some bytes.  A sequence of bytes is read
one byte at a time with the sequence that is still open.  The lenient reading writes U+FFFD for every
longest ill-formed start of a sequence; the strict one stops at the first and says why.
-/
namespace TemplateLint
namespace Utf8

/-- The bytes of one character. -/
def encodeChar (c : Char) : List UInt8 :=
  let n := c.toNat
  if n < 0x80 then [UInt8.ofNat n]
  else if n < 0x800 then [UInt8.ofNat (0xC0 + n / 64), UInt8.ofNat (0x80 + n % 64)]
  else if n < 0x10000 then
    [UInt8.ofNat (0xE0 + n / 4096), UInt8.ofNat (0x80 + n / 64 % 64), UInt8.ofNat (0x80 + n % 64)]
  else
    [UInt8.ofNat (0xF0 + n / 262144), UInt8.ofNat (0x80 + n / 4096 % 64),
      UInt8.ofNat (0x80 + n / 64 % 64), UInt8.ofNat (0x80 + n % 64)]

/-- The bytes of a text. -/
def encode (text : Text) : List UInt8 := text.flatMap encodeChar

/-- The number of bytes of a text. -/
def size (text : Text) : Nat := (encode text).length

/-- A sequence that has started: its value so far, its bytes so far, how many are missing, and the
bounds of the next one. -/
structure Open where
  value : Nat
  seen : Nat
  missing : Nat
  low : Nat
  high : Nat

/-- What a first byte says about its sequence. -/
inductive Lead where
  | single (c : Char)
  | start (sequence : Open)
  | invalid

/-- The sequence that a first byte starts. -/
def lead (b : Nat) : Lead :=
  if b < 0x80 then .single (Char.ofNat b)
  else if b < 0xC2 then .invalid
  else if b < 0xE0 then .start ⟨b - 0xC0, 1, 1, 0x80, 0xBF⟩
  else if b = 0xE0 then .start ⟨0, 1, 2, 0xA0, 0xBF⟩
  else if b = 0xED then .start ⟨0xD, 1, 2, 0x80, 0x9F⟩
  else if b < 0xF0 then .start ⟨b - 0xE0, 1, 2, 0x80, 0xBF⟩
  else if b = 0xF0 then .start ⟨0, 1, 3, 0x90, 0xBF⟩
  else if b < 0xF4 then .start ⟨b - 0xF0, 1, 3, 0x80, 0xBF⟩
  else if b = 0xF4 then .start ⟨4, 1, 3, 0x80, 0x8F⟩
  else .invalid

/-- The byte goes on with the sequence. -/
def Open.accepts (s : Open) (b : Nat) : Bool := s.low ≤ b && b ≤ s.high

/-- The value with one more byte. -/
def Open.extended (s : Open) (b : Nat) : Nat := s.value * 64 + b % 64

/-- The sequence with one more byte. -/
def Open.next (s : Open) (b : Nat) : Open := ⟨s.extended b, s.seen + 1, s.missing - 1, 0x80, 0xBF⟩

/-- The character that stands for an ill-formed sequence. -/
def replacement : Char := Char.ofNat 0xFFFD

/-- Reads on after a byte that does not belong to an open sequence. -/
def restart (b : Nat) (go : Option Open → Text) : Text :=
  match lead b with
  | .single c => c :: go none
  | .start s => go (some s)
  | .invalid => replacement :: go none

/-- Reads bytes leniently, with the sequence that is open. -/
def decodeFrom : List UInt8 → Option Open → Text
  | [], none => []
  | [], some _ => [replacement]
  | b :: rest, none => restart b.toNat (decodeFrom rest)
  | b :: rest, some s =>
    if s.accepts b.toNat then
      if s.missing = 1 then Char.ofNat (s.extended b.toNat) :: decodeFrom rest none
      else decodeFrom rest (some (s.next b.toNat))
    else replacement :: restart b.toNat (decodeFrom rest)

/-- The text of some bytes, with U+FFFD for what is ill-formed. -/
def decode (bytes : List UInt8) : Text := decodeFrom bytes none

/-- Why bytes are not a text. -/
inductive Flaw where
  | badStart
  | badContinuation
  | ended
deriving DecidableEq

/-- The first ill-formed sequence: its first byte, its offset and its length. -/
structure Defect where
  flaw : Flaw
  byte : Nat
  offset : Nat
  length : Nat
deriving DecidableEq

/-- Reads bytes strictly; `first` is the first byte of the open sequence. -/
def readFrom : List UInt8 → Nat → Nat → Option Open → Except Defect Text
  | [], _, _, none => .ok []
  | [], offset, first, some s => .error ⟨.ended, first, offset - s.seen, s.seen⟩
  | b :: rest, offset, _, none =>
    match lead b.toNat with
    | .single c => (readFrom rest (offset + 1) 0 none).map (c :: ·)
    | .start s => readFrom rest (offset + 1) b.toNat (some s)
    | .invalid => .error ⟨.badStart, b.toNat, offset, 1⟩
  | b :: rest, offset, first, some s =>
    if s.accepts b.toNat then
      if s.missing = 1 then
        (readFrom rest (offset + 1) 0 none).map (Char.ofNat (s.extended b.toNat) :: ·)
      else readFrom rest (offset + 1) first (some (s.next b.toNat))
    else .error ⟨.badContinuation, first, offset - s.seen, s.seen⟩

/-- The text of some bytes, or the first defect. -/
def read (bytes : List UInt8) : Except Defect Text := readFrom bytes 0 0 none

end Utf8

/-- A text with every line end written as a single line feed. -/
def Text.unifyLineEnds : Text → Text
  | '\r' :: '\n' :: rest => '\n' :: unifyLineEnds rest
  | '\r' :: rest => '\n' :: unifyLineEnds rest
  | c :: rest => c :: unifyLineEnds rest
  | [] => []

end TemplateLint
