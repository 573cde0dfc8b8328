import BufferedStreams.Bytes

/-!
# Sizes

The sizes a stream or a memory device is made with, and the setting in the environment that
changes the size of stream buffers.  The setting is text, a decimal numeral that may stand between
white space.  It is looked up once: `BufferSetting` keeps what it meant then, and later changes of the
environment have no effect.
-/

namespace BufferedStreams

/-! ## numerals between white space -/

namespace Text

/-- the first and last code points of the runs of white space -/
def blankRanges : List (Nat × Nat) :=
  [(0x09, 0x0d), (0x20, 0x20), (0x85, 0x85), (0xa0, 0xa0), (0x1680, 0x1680), (0x2000, 0x200a),
    (0x2028, 0x2029), (0x202f, 0x202f), (0x205f, 0x205f), (0x3000, 0x3000)]

def isBlank (c : Char) : Bool :=
  blankRanges.any fun r => decide (r.1 ≤ c.toNat) && decide (c.toNat ≤ r.2)

/-- white space at both ends is removed -/
def trim (cs : List Char) : List Char :=
  ((cs.dropWhile isBlank).reverse.dropWhile isBlank).reverse

theorem isBlank_of_isWhitespace {c : Char} (h : c.isWhitespace = true) : isBlank c = true := by
  simp only [Char.isWhitespace, Bool.or_eq_true, decide_eq_true_eq] at h
  rcases h with ((h | h) | h) | h <;> subst h <;> decide

/-- the value of a decimal digit -/
def digit? (c : Char) : Option Nat :=
  if '0' ≤ c ∧ c ≤ '9' then some (c.toNat - '0'.toNat) else none

/-- the number written by the digits `cs` behind digits worth `acc` -/
def digitsFrom? (acc : Nat) : List Char → Option Nat
  | [] => some acc
  | c :: cs =>
    match digit? c with
    | some d => digitsFrom? (10 * acc + d) cs
    | none => none

/-- the value of a numeral, which is one or more digits behind an optional plus sign; none for any
other text -/
def numeral? : List Char → Option Nat
  | [] => none
  | '+' :: [] => none
  | '+' :: cs => digitsFrom? 0 cs
  | cs => digitsFrom? 0 cs

end Text

/-! ## sizes -/

/-- sizes and unsigned offsets are below this, the power 64 of two -/
def wordRange : Nat := 0x10000000000000000
/-- signed offsets are below this, the power 63 of two, and not below its negative -/
def offsetRange : Nat := 0x8000000000000000

/-- allocations up to this size succeed, the power 40 of two -/
def allocatable : Nat := 0x10000000000

def usualBuffer : Nat := 8192
/-- how many bytes can be pushed back -/
def pushbackRoom : Nat := 16
/-- the smallest buffer that can be asked for -/
def leastBuffer : Nat := 16
/-- the largest buffer that can be asked for -/
def mostBuffer : Nat := 0x1000000

/-- the sizes a stream or a memory device is made with -/
structure Sizing where
  buffer : Nat := usualBuffer
  /-- memory devices grow in multiples of this -/
  block : Nat := usualBuffer
  deriving DecidableEq, Repr

/-! ## the setting -/

/-- the buffer size that a setting stands for: the value of a numeral, white space around it
allowed, brought into range; the usual size for anything else, also for a numeral beyond the range
of sizes -/
def bufferSize (setting : List Char) : Nat :=
  match Text.numeral? (Text.trim setting) with
  | some n => if n < wordRange then min (max n leastBuffer) mostBuffer else usualBuffer
  | none => usualBuffer

/-- the same for the raw bytes of a setting, which may be missing or not be text -/
def bufferSizeOf (setting : Option Bytes) : Nat :=
  match setting with
  | none => usualBuffer
  | some raw =>
    match String.fromUTF8? ⟨raw.toArray⟩ with
    | some text => bufferSize text.toList
    | none => usualBuffer

/-- the buffer size taken from the environment, once it has been looked up -/
structure BufferSetting where
  resolved : Option Nat := none
  deriving DecidableEq, Repr

/-- the buffer size in force, given what the environment says now -/
def BufferSetting.resolve (s : BufferSetting) (setting : Option Bytes) : Nat × BufferSetting :=
  match s.resolved with
  | some n => (n, s)
  | none => (bufferSizeOf setting, ⟨some (bufferSizeOf setting)⟩)

/-- the sizes in force, given what the environment says now -/
def BufferSetting.sizing (s : BufferSetting) (setting : Option Bytes) : Sizing × BufferSetting :=
  let (n, s) := s.resolve setting
  ({ buffer := n }, s)

end BufferedStreams
