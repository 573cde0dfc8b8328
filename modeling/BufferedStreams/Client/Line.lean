import BufferedStreams.Client
import BufferedStreams.Stream.Line

/-!
# Reading lines in C

The caller keeps a block of memory and its size from call to call.  A line goes to the block with a
zero byte behind it, and the block is made larger if the line does not fit.
-/

namespace BufferedStreams

/-- a block of memory for a line, null at first, and its size as the caller knows it -/
structure LineBuffer where
  block : Option Slab := none
  size : Nat := 0

namespace LineBuffer

def ofSize (size : Nat) : LineBuffer := { block := some (Slab.blank size), size }

/-- is there a block that is known to hold `needed` bytes? -/
def holds (b : LineBuffer) (needed : Nat) : Bool := b.block.isSome && decide (needed ≤ b.size)

/-- a block of at least `needed` bytes, if it may be allocated where a new one is needed -/
def reserve (grants : Nat → Bool) (needed : Nat) (b : LineBuffer) : Option LineBuffer :=
  if b.holds needed then some b
  else if grants needed then
    some { block := some ((b.block.getD (Slab.blank 0)).grow needed), size := needed }
  else none

def store (grants : Nat → Bool) (line : Bytes) (b : LineBuffer) : Option LineBuffer :=
  (b.reserve grants (line.length + 1)).map fun b =>
    { b with block := b.block.map fun block => block.store 0 (line ++ [0]) }

/-- the first `n` bytes of the block -/
def bytes (b : LineBuffer) (n : Nat) : Bytes :=
  match b.block with
  | some block => block.slice 0 n
  | none => []

end LineBuffer

namespace Client

variable {κ : Type} [Cookie κ]

/-- the next line as a byte string -/
def lineOf (limit : Nat) (s : Stream (Memory ⊕ Callback κ)) :
    Except Fault Bytes × Stream (Memory ⊕ Callback κ) :=
  let (r, line, s) := s.readLine limit []
  (r.map fun _ => line, s)

/-- reads one line of fewer bytes than a limit above zero and returns its length; at the end of the
data it fails like a failure does.  `b` is none if a pointer to the block or its size is null -/
def readLine (grants : Nat → Bool) (p : Pointer) (limit : Nat) (b : Option LineBuffer)
    (c : Client κ) : Int × Option LineBuffer × Client κ :=
  if (c.stream? p).isNone then (failure, b, c.leave Errno.badFile)
  else
    match b with
    | none => (failure, b, c.leave Errno.invalid)
    | some b =>
      match c.perform p (lineOf limit) with
      | (none, c) => (failure, some b, c)
      | (some line, c) =>
        if line.isEmpty then (failure, some b, c)
        else
          match b.store grants line with
          | none => (failure, some b, c.leave Errno.noMemory)
          | some b => (line.length, some b, c)

/-- reads one line of any length -/
def getline (grants : Nat → Bool) (b : Option LineBuffer) (p : Pointer) (c : Client κ) :
    Int × Option LineBuffer × Client κ :=
  c.readLine grants p 0 b

end Client

end BufferedStreams
