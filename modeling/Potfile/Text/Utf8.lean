/-! # Reading bytes as UTF-8

Decoding never fails. A byte sequence that is no character becomes one replacement
character for each *maximal part*: the longest run of bytes that starts a character
and is then broken off, or else a single byte.

* `lead`: what a first byte promises, namely how many bytes follow and in which range the
  next one lies (this range excludes overlong forms, surrogates and what lies above U+10FFFF).
* `decode`: all characters of a byte list.
-/

namespace Potfile.Text.Utf8

/-- What a first byte of several promises. -/
structure Lead where
  /-- The bits that the first byte contributes. -/
  bits : Nat
  following : Nat
  low : Nat
  high : Nat

/-- The promise of a first byte; `none` where no character of several bytes starts with it. -/
def lead (b : UInt8) : Option Lead :=
  let n := b.toNat
  if n < 0xC2 then none
  else if n < 0xE0 then some ⟨n - 0xC0, 1, 0x80, 0xBF⟩
  else if n == 0xE0 then some ⟨0, 2, 0xA0, 0xBF⟩
  else if n == 0xED then some ⟨0xD, 2, 0x80, 0x9F⟩
  else if n < 0xF0 then some ⟨n - 0xE0, 2, 0x80, 0xBF⟩
  else if n == 0xF0 then some ⟨0, 3, 0x90, 0xBF⟩
  else if n < 0xF4 then some ⟨n - 0xF0, 3, 0x80, 0xBF⟩
  else if n == 0xF4 then some ⟨4, 3, 0x80, 0x8F⟩
  else none

/-- The character that stands for bytes that are none. -/
def replacement : Char := '\uFFFD'

/-- Reads `count` more bytes into `bits`, the next of them between `low` and `high`. Where a
    byte is missing, the replacement character takes the place of those read so far. -/
def continuation : (count bits low high : Nat) → List UInt8 → Char × List UInt8
  | 0, bits, _, _, rest => (Char.ofNat bits, rest)
  | _ + 1, _, _, _, [] => (replacement, [])
  | count + 1, bits, low, high, b :: rest =>
    if low ≤ b.toNat ∧ b.toNat ≤ high then
      continuation count (bits * 64 + (b.toNat - 0x80)) 0x80 0xBF rest
    else (replacement, b :: rest)

theorem length_continuation_le (count bits low high : Nat) (bs : List UInt8) :
    (continuation count bits low high bs).2.length ≤ bs.length := by
  induction count generalizing bits low high bs with
  | zero => simp [continuation]
  | succ n inductionHypothesis =>
    cases bs with
    | nil => simp [continuation]
    | cons b rest =>
      simp only [continuation]
      split
      · exact Nat.le_succ_of_le (inductionHypothesis ..)
      · exact Nat.le_refl _

/-- The first character of `b :: rest` and the bytes behind it. -/
def first (b : UInt8) (rest : List UInt8) : Char × List UInt8 :=
  if b.toNat < 0x80 then (Char.ofNat b.toNat, rest)
  else match lead b with
    | none => (replacement, rest)
    | some l => continuation l.following l.bits l.low l.high rest

theorem length_first_le (b : UInt8) (rest : List UInt8) :
    (first b rest).2.length ≤ rest.length := by
  unfold first
  split
  · exact Nat.le_refl _
  · split
    · exact Nat.le_refl _
    · exact length_continuation_le ..

def decode : List UInt8 → List Char
  | [] => []
  | b :: rest => (first b rest).1 :: decode (first b rest).2
termination_by bs => bs.length
decreasing_by exact Nat.lt_succ_of_le (length_first_le b rest)

def decodeLossy (bytes : ByteArray) : String :=
  String.ofList (decode bytes.toList)

end Potfile.Text.Utf8
