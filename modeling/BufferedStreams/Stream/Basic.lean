import BufferedStreams.Device
import BufferedStreams.OpenMode
import BufferedStreams.Tally

/-!
# Streams

A stream is a device with a buffer in front of it.  It works in one direction at a time: while it
is writing, the buffer collects output, otherwise it holds read-ahead and pushback.

The device cursor is not where the user of the stream is.  `base` is the device position of the
start of the buffer, and the logical position is `base` plus the buffer cursor less what is pushed
back (`Stream.tell`).

Every operation takes a stream and gives its result and the stream afterwards; a stream that has
failed goes on from where the failure left it.
-/

namespace BufferedStreams

/-- what has happened to a stream and was not cleared since -/
structure Marks where
  /-- a read came to the end of the data -/
  eof : Bool := false
  /-- an operation failed -/
  err : Bool := false
  deriving DecidableEq, Repr

/-- a buffered stream over a device -/
structure Stream (δ : Type) where
  device : δ
  /-- what the device announced when the stream was made -/
  abilities : Abilities
  mode : OpenMode
  buffer : Buffer
  strategy : Buffering := .full
  /-- does the buffer collect output? -/
  writing : Bool
  /-- the device position of the start of the buffer -/
  base : Nat := 0
  marks : Marks := {}
  name : Option String := none
  closed : Bool := false
  /-- what this stream has done -/
  tally : Tally := {}

namespace Stream

variable {δ : Type}

/-- a new stream; it starts out writing if it may write -/
def ofDevice [Device δ] (d : δ) (m : OpenMode) (capacity : Nat) : Stream δ where
  device := d
  abilities := Device.abilities d
  mode := m
  buffer := Buffer.ofCapacity capacity
  writing := m.isWritable

/-- the logical position -/
def tell (s : Stream δ) : Nat := s.base + s.buffer.cursor - s.buffer.pushed.length

def fail (s : Stream δ) : Stream δ :=
  { s with marks := { s.marks with err := true }, tally := s.tally.tick .errors }

def markEnd (s : Stream δ) : Stream δ := { s with marks := { s.marks with eof := true } }

def clearMarks (s : Stream δ) : Stream δ := { s with marks := {} }

def count (s : Stream δ) (c : Counter) (n : Nat) : Stream δ := { s with tally := s.tally.count c n }

/-- read-ahead and pushback are dropped where the device cursor is: the logical position moves
there -/
def dropAhead (s : Stream δ) : Stream δ :=
  { s with base := s.base + s.buffer.filled, buffer := s.buffer.clear }

def rename (s : Stream δ) (name : String) : Stream δ := { s with name := some name }

/-- the name shown for a stream that has none -/
def unnamed : String := "[?]"

def shownName (s : Stream δ) : String := s.name.getD unnamed

end Stream

end BufferedStreams
