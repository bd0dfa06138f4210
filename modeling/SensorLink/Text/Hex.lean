import SensorLink.Wire.Word

/-!
# Hexadecimal text

Numbers are shown in upper-case hexadecimal, at a fixed width where they are a field of a frame and
at their own width otherwise; payloads are shown two digits to a byte. Payloads are also *read* from
such text, in a command table and on the command line, and there the digits may be of either case
and may have white space between them (the caller has taken it out).

What is read has two ways to be wrong, and the order in which they are looked for is part of the
answer: an odd count of digits is found first, and only then the first character that is no digit.
Positions and the count are in bytes of the UTF-8 text, so a character outside ASCII is named by
one of its bytes.
-/

namespace SensorLink.Hex

/-- The upper-case digit of a number below sixteen. -/
def digit (n : Nat) : Char :=
  if n < 10 then Char.ofNat (48 + n) else Char.ofNat (55 + n)

/-- The value of a digit of either case. -/
def digitValue? (c : Char) : Option Nat :=
  if '0' ≤ c ∧ c ≤ '9' then some (c.toNat - 48)
  else if 'A' ≤ c ∧ c ≤ 'F' then some (c.toNat - 55)
  else if 'a' ≤ c ∧ c ≤ 'f' then some (c.toNat - 87)
  else none

/-- A digit that was written is read as what it was written for. -/
theorem digitValue?_digit : ∀ n < 16, digitValue? (digit n) = some n := by decide

theorem digitValue?_lt {c : Char} {n : Nat} (h : digitValue? c = some n) : n < 16 := by
  unfold digitValue? at h
  split at h
  · rename_i hc
    have := Char.le_def.mp hc.2
    have : c.toNat ≤ 57 := this
    simp only [Option.some.injEq] at h
    omega
  split at h
  · rename_i hc
    have : c.toNat ≤ 70 := Char.le_def.mp hc.2
    simp only [Option.some.injEq] at h
    omega
  split at h
  · rename_i hc
    have : c.toNat ≤ 102 := Char.le_def.mp hc.2
    simp only [Option.some.injEq] at h
    omega
  · cases h

/-! ## Numbers -/

/-- The last `width` digits of a number, leading zeros kept. -/
def fixedDigits : Nat → Nat → List Char
  | 0, _ => []
  | width + 1, n => fixedDigits width (n / 16) ++ [digit (n % 16)]

@[simp] theorem length_fixedDigits (width n : Nat) : (fixedDigits width n).length = width := by
  induction width generalizing n with
  | zero => rfl
  | succ width ih => simp [fixedDigits, ih]

/-- The number that a list of digits spells, `none` if one of them is no digit. -/
def value? (cs : List Char) : Option Nat :=
  cs.foldl (fun acc c => acc.bind fun n => (digitValue? c).map fun d => 16 * n + d) (some 0)

/-- One more digit at the end is worth its value and makes all before it worth sixteen times as
much. -/
theorem value?_append_singleton (cs : List Char) (c : Char) :
    value? (cs ++ [c]) = (value? cs).bind fun n => (digitValue? c).map fun d => 16 * n + d := by
  simp [value?]

/-- Fixed-width digits read back as the number that fits in them. -/
theorem value?_fixedDigits (width n : Nat) :
    value? (fixedDigits width n) = some (n % 16 ^ width) := by
  induction width generalizing n with
  | zero => simp [fixedDigits, value?, Nat.mod_one]
  | succ width ih =>
    rw [fixedDigits, value?_append_singleton, ih,
      digitValue?_digit _ (Nat.mod_lt _ (by decide)), Nat.pow_succ, Nat.mul_comm (16 ^ width) 16,
      Nat.mod_mul]
    simp [Nat.add_comm]

/-- A number at a fixed width. -/
def fixed (width n : Nat) : String := String.ofList (fixedDigits width n)

/-- A byte as two digits. -/
def byte (b : UInt8) : String := fixed 2 b.toNat

/-- A 16-bit word as four digits. -/
def word (w : UInt16) : String := fixed 4 w.toNat

/-- A 64-bit identifier as sixteen digits. -/
def id64 (v : UInt64) : String := fixed 16 v.toNat

/-- A number at its own width, with no leading zero. -/
def minimal (n : Nat) : String := String.ofList ((Nat.toDigits 16 n).map Char.toUpper)

/-! ## Byte strings -/

/-- The digits of a byte string, two for each byte. -/
def digitsOf : Bytes → List Char
  | [] => []
  | b :: rest => digit (b.toNat / 16) :: digit (b.toNat % 16) :: digitsOf rest

/-- A byte string as upper-case text. -/
def encode (bytes : Bytes) : String := String.ofList (digitsOf bytes)

/-- Why a text is not the digits of a byte string. -/
inductive Fault where
  /-- The count of bytes is odd. -/
  | oddLength
  /-- The byte at this position is no digit. -/
  | badDigit (found : UInt8) (position : Nat)
  deriving DecidableEq, Repr

/-- The digits at `position` and after, two by two. -/
def decodeFrom (position : Nat) : Bytes → Except Fault Bytes
  | [] => .ok []
  | [_] => .error .oddLength
  | hi :: lo :: rest =>
    match digitValue? (Char.ofNat hi.toNat), digitValue? (Char.ofNat lo.toNat) with
    | none, _ => .error (.badDigit hi position)
    | some _, none => .error (.badDigit lo (position + 1))
    | some h, some l =>
      (decodeFrom (position + 2) rest).map (UInt8.ofNat (16 * h + l) :: ·)

/-- Reads a byte string from the UTF-8 bytes of its digits; an odd count is found before anything
else. -/
def decode (text : Bytes) : Except Fault Bytes :=
  if text.length % 2 = 1 then .error .oddLength else decodeFrom 0 text

end SensorLink.Hex
