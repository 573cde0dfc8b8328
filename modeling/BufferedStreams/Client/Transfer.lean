import BufferedStreams.Client
import BufferedStreams.Stream.Input
import BufferedStreams.Stream.Output

/-!
# Moving bytes in C
-/

namespace BufferedStreams.Client

variable {κ : Type} [Cookie κ]

/-- what a transfer call returns, the bytes that came in, and what is behind the count pointer -/
structure Receipt where
  status : Int
  bytes : Bytes := []
  count : Option Nat
  deriving DecidableEq, Repr

/-- reads at most `room` bytes; a destination that is null has room for none.  The count is stored
unless the stream is null -/
def read (p : Pointer) (room : Option Nat) (count : Option Nat) (c : Client κ) :
    Receipt × Client κ :=
  if (c.stream? p).isNone then ({ status := failure, count }, c.leave Errno.badFile)
  else
    match c.perform p (Stream.read (room.getD 0)) with
    | (some bytes, c) => ({ status := 0, bytes, count := storeBehind bytes.length count }, c)
    | (none, c) => ({ status := failure, count := storeBehind 0 count }, c)

/-- writes bytes; a source that is null has none.  The count is stored unless the stream is null -/
def write (p : Pointer) (bytes : Option Bytes) (count : Option Nat) (c : Client κ) :
    Receipt × Client κ :=
  if (c.stream? p).isNone then ({ status := failure, count }, c.leave Errno.badFile)
  else
    match c.perform p (Stream.write (bytes.getD [])) with
    | (some n, c) => ({ status := 0, count := storeBehind n count }, c)
    | (none, c) => ({ status := failure, count := storeBehind 0 count }, c)

def fgetc (p : Pointer) (c : Client κ) : Int × Client κ :=
  match c.perform p Stream.getc with
  | (some (some byte), c) => (byte.toNat, c)
  | (some none, c) => (failure, c)
  | (none, c) => (failure, c)

def fputc (ch : Int) (p : Pointer) (c : Client κ) : Int × Client κ :=
  let byte := UInt8.ofInt ch
  match c.perform p (Stream.putc byte) with
  | (some (), c) => (byte.toNat, c)
  | (none, c) => (failure, c)

/-- pushes the low byte of a number back, unless the number is `EOF` or there is no room; neither
leaves an error number -/
def ungetc (ch : Int) (p : Pointer) (c : Client κ) : Int × Client κ :=
  if ch = failure then (failure, c)
  else
    let byte := UInt8.ofInt ch
    match c.perform p (Stream.unread [byte]) with
    | (some n, c) => (if n = 1 then byte.toNat else failure, c)
    | (none, c) => (failure, c)

/-- shows buffered input, if both pointers for it are given -/
def peek (p : Pointer) (given : Bool) (c : Client κ) : Option Bytes × Client κ :=
  if (c.stream? p).isNone then (none, c.leave Errno.badFile)
  else if given then c.perform p Stream.peek
  else (none, c.leave Errno.invalid)

/-- consumes bytes that were shown -/
def skip (p : Pointer) (n : Nat) (c : Client κ) : Int × Client κ :=
  status (c.perform p (Stream.skip n))

end BufferedStreams.Client
