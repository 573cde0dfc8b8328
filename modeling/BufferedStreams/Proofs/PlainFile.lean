import BufferedStreams.Stream.Input
import BufferedStreams.Stream.Output

/-!
# Plain files

A plain file has bytes, a position, and bytes pushed back in front of it.  Nothing is buffered.

* `PlainFile`           the file, and `PlainFile.answer`, what it answers to a request;
* `Request.perform`     what a stream answers to the same request;
* `PlainFile.answers`, `Stream.replies`   the answers to a list of requests, each with the marks
                        afterwards.

A write or a seek to a place in front of the first byte is refused: it sets the error mark and
changes nothing else.
-/

namespace BufferedStreams

inductive Fault.Kind where
  | unsupported
  | invalid
  | outOfSpace
  | outOfMemory
  | io
  deriving DecidableEq, Repr

def Fault.kind : Fault → Fault.Kind
  | .unsupported _ => .unsupported
  | .invalid _ => .invalid
  | .outOfSpace => .outOfSpace
  | .outOfMemory => .outOfMemory
  | .io _ => .io

/-- what a user asks of a stream -/
inductive Request where
  | read (n : Nat)
  | getc
  | write (bytes : Bytes)
  | writeAll (bytes : Bytes)
  | putc (byte : UInt8)
  | unread (bytes : Bytes)
  | seek (off : Int) (w : Whence)
  | rewind
  | flush
  | setStrategy (b : Buffering)
  | tell
  deriving DecidableEq, Repr

/-- what a user is told -/
inductive Reply where
  | done
  | bytes (bytes : Bytes)
  | byte (byte : Option UInt8)
  | count (n : Nat)
  | failed (k : Fault.Kind)
  deriving DecidableEq, Repr

def Reply.ofResult {α : Type} (f : α → Reply) : Except Fault α → Reply
  | .ok a => f a
  | .error e => .failed e.kind

namespace Request

variable {δ : Type} [Device δ]

def perform (s : Stream δ) : Request → Reply × Stream δ
  | read n => (.ofResult .bytes (s.read n).1, (s.read n).2)
  | getc => (.ofResult .byte s.getc.1, s.getc.2)
  | write bytes => (.ofResult .count (s.write bytes).1, (s.write bytes).2)
  | writeAll bytes => (.ofResult (fun _ => .done) (s.putAll bytes).1, (s.putAll bytes).2)
  | putc byte => (.ofResult (fun _ => .done) (s.putc byte).1, (s.putc byte).2)
  | unread bytes => (.ofResult .count (s.unread bytes).1, (s.unread bytes).2)
  | seek off w => (.ofResult .count (s.seek off w).1, (s.seek off w).2)
  | rewind => (.ofResult (fun _ => .done) s.rewind.1, s.rewind.2)
  | flush => (.ofResult (fun _ => .done) s.flush.1, s.flush.2)
  | setStrategy b => (.ofResult (fun _ => .done) (s.setStrategy b).1, (s.setStrategy b).2)
  | tell => (.count s.tell, s)

end Request

structure PlainFile where
  content : Bytes
  pos : Nat := 0
  /-- the next one to be read first -/
  pushed : Bytes := []
  marks : Marks := {}
  deriving DecidableEq, Repr

namespace PlainFile

variable (f : PlainFile)

/-- where the next byte to be read counts as being; in front of the file if more is pushed back than
was read -/
def place : Int := f.pos - f.pushed.length

def base : Whence → Int
  | .start => 0
  | .current => f.place
  | .finish => f.content.length

def refuse : PlainFile := { f with marks := { f.marks with err := true } }

/-- pushed back bytes are read first; a read that comes short sets the end mark -/
def read (n : Nat) : Bytes × PlainFile :=
  if n = 0 then ([], f)
  else
    let bytes := (f.pushed ++ f.content.drop f.pos).take n
    (bytes, { f with
      pos := f.pos + (bytes.length - f.pushed.length)
      pushed := f.pushed.drop n
      marks := if bytes.length < n then { f.marks with eof := true } else f.marks })

/-- writes at the place, over what is there and beyond the end -/
def write (bytes : Bytes) (r : Reply) : Reply × PlainFile :=
  if f.place < 0 then (.failed .invalid, f.refuse)
  else
    (r, { f with
      content := overlay f.content f.place.toNat bytes
      pos := f.place.toNat + bytes.length
      pushed := [] })

/-- pushes back what fits; a byte that fits clears the end mark -/
def unread (bytes : Bytes) : Nat × PlainFile :=
  let fitting := bytes.take (pushbackRoom - f.pushed.length)
  (fitting.length, { f with
    pushed := fitting.reverse ++ f.pushed
    marks := if fitting.length = 0 then f.marks else { f.marks with eof := false } })

/-- moves to a position, with zero bytes up to there if it is beyond the end -/
def moveTo (pos : Nat) : PlainFile where
  content := f.content ++ zeros (pos - f.content.length)
  pos := pos

/-- moves, drops what is pushed back, and clears both marks -/
def seek (off : Int) (w : Whence) : Reply × PlainFile :=
  if f.base w + off < 0 then (.failed .invalid, f.refuse)
  else (.count (f.base w + off).toNat, f.moveTo (f.base w + off).toNat)

def answer : Request → Reply × PlainFile
  | .read n => (.bytes (f.read n).1, (f.read n).2)
  | .getc => (.byte (f.read 1).1.head?, (f.read 1).2)
  | .write bytes => if bytes = [] then (.count 0, f) else f.write bytes (.count bytes.length)
  | .writeAll bytes => if bytes = [] then (.done, f) else f.write bytes .done
  | .putc byte => f.write [byte] .done
  | .unread bytes => (.count (f.unread bytes).1, (f.unread bytes).2)
  | .seek off w => f.seek off w
  | .rewind => (.done, f.moveTo 0)
  | .flush => (.done, f)
  | .setStrategy _ => (.done, f)
  | .tell => (.count f.place.toNat, f)

def after : List Request → PlainFile → PlainFile
  | [], f => f
  | r :: rs, f => after rs (f.answer r).2

/-- the answers to a list of requests, each with the marks afterwards -/
def answers : List Request → PlainFile → List (Reply × Marks)
  | [], _ => []
  | r :: rs, f => ((f.answer r).1, (f.answer r).2.marks) :: answers rs (f.answer r).2

/-- no position is above `top` -/
def Within (top : Nat) : List Request → PlainFile → Prop
  | [], f => f.pos ≤ top
  | r :: rs, f => f.pos ≤ top ∧ Within top rs (f.answer r).2

instance decidableWithin (top : Nat) : (rs : List Request) → (f : PlainFile) →
    Decidable (Within top rs f)
  | [], f => inferInstanceAs (Decidable (f.pos ≤ top))
  | r :: rs, f =>
    have := decidableWithin top rs (f.answer r).2
    inferInstanceAs (Decidable (f.pos ≤ top ∧ Within top rs (f.answer r).2))

end PlainFile

end BufferedStreams
