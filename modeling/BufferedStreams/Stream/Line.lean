import BufferedStreams.Device.Memory
import BufferedStreams.Stream.Close
import BufferedStreams.Stream.Input
import BufferedStreams.Stream.Output

/-!
# Reading lines

A line is collected piece by piece from what `peek` shows, up to and with the first line end, up to
a limit, or to the end of the input.  The pieces go to a scratch stream over memory, and the line is
read back from there in one go; what the scratch stream did counts for the stream that reads.
-/

namespace BufferedStreams.Stream

variable {δ : Type} [Device δ]

/-- a stream over memory for the pieces of a line -/
def scratch : Stream Memory := ofDevice (Memory.ofPlan {}) OpenMode.both usualBuffer

/-- lines longer than this cannot be collected -/
def longestLine : Nat := allocatable + usualBuffer

/-- what of the bytes in view belongs to the line, if it may still have `room` bytes -/
def linePiece (room : Option Nat) (view : Bytes) : Bytes :=
  uptoNewline (match room with
    | some n => view.take n
    | none => view)

/-- collects the pieces of a line that has `size` bytes so far and may get `room` more, and tells
how many bytes it got; `done` is where they are -/
def collect (room : Option Nat) (size : Nat) (s : Stream δ) (done : Stream Memory) :
    Except Fault Nat × Stream Memory × Stream δ :=
  if room = some 0 then (.ok size, done, s)
  else
    match s.peek with
    | (.error f, s) => (.error f, done, s)
    | (.ok view, s) =>
      let piece := linePiece room view
      if piece.length = 0 then (.ok size, done, s)
      else if longestLine < size then (.error .outOfMemory, done, s)
      else
        match done.writeAll piece with
        | (.error f, done) => (.error f, done, s)
        | (.ok (), done) =>
          match s.skip piece.length with
          | (.error f, s) => (.error f, done, s)
          | (.ok (), s) =>
            if endsLine piece then (.ok (size + piece.length), done, s)
            else collect (room.map (· - piece.length)) (size + piece.length) s done
termination_by longestLine + 1 - size
decreasing_by
  simp only [piece] at *
  omega

/-- reads until there are `n` bytes or the data ends -/
def readFully (n : Nat) (s : Stream δ) : Except Fault Bytes × Stream δ :=
  if n = 0 then (.ok [], s)
  else
    match s.read n with
    | (.error f, s) => (.error f, s)
    | (.ok [], s) => (.ok [], s)
    | (.ok (b :: bytes), s) =>
      let (r, s) := readFully (n - (b :: bytes).length) s
      (r.map (b :: bytes ++ ·), s)
termination_by n

/-- reads the `n` bytes collected on a scratch stream back, and closes it -/
def readBack (n : Nat) (done : Stream Memory) : Except Fault Bytes × Stream Memory :=
  match done.seek 0 .start with
  | (.error f, done) => (.error f, done)
  | (.ok _, done) =>
    match done.readFully n with
    | (.error f, done) => (.error f, done)
    | (.ok bytes, done) =>
      let (r, done) := done.close
      (r.map fun _ => bytes, done)

/-- how many bytes a line may have under a length limit: one less than the limit, and any number if
the limit is zero -/
def lineRoom (limit : Nat) : Option Nat := if limit = 0 then none else some (limit - 1)

/-- the next line; at the end of the data it is empty and the end mark is set, unless the limit
left no room for a byte -/
def nextLine (limit : Nat) (s : Stream δ) : Except Fault Bytes × Stream δ :=
  match s.collect (lineRoom limit) 0 scratch with
  | (.error f, done, s) => (.error f, { s with tally := s.tally + done.tally })
  | (.ok size, done, s) =>
    if size = 0 then (.ok [], if limit = 1 then s else s.markEnd)
    else
      let (r, done) := done.readBack size
      (r, { s with tally := s.tally + done.tally })

/-- reads one line, its line end included, in place of `line`, and tells its length; with a limit
above zero the line has fewer bytes than the limit.  On a failure `line` stays as it was and the
error mark is set -/
def readLine (limit : Nat) (line : Bytes) (s : Stream δ) : Except Fault Nat × Bytes × Stream δ :=
  match s.nextLine limit with
  | (.ok bytes, s) => (.ok bytes.length, bytes, s)
  | (.error f, s) => (.error f, line, { s with marks := { s.marks with err := true } })

def getLine (line : Bytes) (s : Stream δ) : Except Fault Nat × Bytes × Stream δ :=
  s.readLine 0 line

end BufferedStreams.Stream
