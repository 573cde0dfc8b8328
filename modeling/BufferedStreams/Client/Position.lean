import BufferedStreams.Client
import BufferedStreams.Stream.Turn

/-!
# Positions, flushing and marks in C
-/

namespace BufferedStreams.Client

variable {κ : Type}

/-! ## what a look at the stream tells -/

/-- the position of a stream, if a signed offset can express it -/
def ftell (p : Pointer) (c : Client κ) : Int × Client κ :=
  match c.stream? p with
  | none => (failure, c.leave Errno.badFile)
  | some s => if s.tell < offsetRange then (s.tell, c) else (failure, c.leave Errno.overflow)

/-- one of the marks of a stream as a number; zero without a stream -/
def mark (f : Marks → Bool) (p : Pointer) (c : Client κ) : Int × Client κ :=
  match c.stream? p with
  | none => (0, c.leave Errno.badFile)
  | some s => (if f s.marks then 1 else 0, c)

def feof (p : Pointer) (c : Client κ) : Int × Client κ := c.mark Marks.eof p

def ferror (p : Pointer) (c : Client κ) : Int × Client κ := c.mark Marks.err p

def clearerr (p : Pointer) (c : Client κ) : Client κ :=
  (c.perform p fun s => (.ok (), s.clearMarks)).2

/-! ## what the device takes part in -/

variable [Cookie κ]

def fseek (p : Pointer) (off whence : Int) (c : Client κ) : Int × Client κ :=
  if (c.stream? p).isNone then (failure, c.leave Errno.badFile)
  else
    match Whence.ofCode? whence with
    | none => (failure, c.leave Errno.invalid)
    | some w => status (c.perform p (Stream.seek off w))

/-- moves a stream to its start; a failure only shows in `errno` and in the error mark -/
def rewind (p : Pointer) (c : Client κ) : Client κ := (c.perform p Stream.rewind).2

/-- hands collected output over, of every stream if the pointer is null -/
def fflush (p : Pointer) (c : Client κ) : Int × Client κ :=
  if (c.stream? p).isNone then
    let (r, desk) := c.desk.flushAll
    status (settle r { c with desk })
  else status (c.perform p Stream.flush)

def setvbuf (p : Pointer) (mode : Int) (c : Client κ) : Int × Client κ :=
  if (c.stream? p).isNone then (failure, c.leave Errno.badFile)
  else
    match Buffering.ofCode? mode with
    | none => (failure, c.leave Errno.invalid)
    | some b => status (c.perform p (Stream.setStrategy b))

end BufferedStreams.Client
