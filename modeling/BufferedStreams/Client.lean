import BufferedStreams.Desk.Open
import BufferedStreams.Desk.Shared

/-!
# Clients of the C interface

The functions of the C interface take a pointer to a stream, which may be null.  A failure shows in
the return value, a null pointer or `-1` (which C also calls `EOF`), and its error number is left in
`errno`.  A call that does not fail leaves `errno` alone, except for what callbacks do to it.

* `Client`    a thread of a C program, with the streams on its desk and its `errno`;
* `Client.perform`   an operation on the stream behind a pointer, which is how most calls work.

A pointer behind which there is no stream any more counts as null.
-/

namespace BufferedStreams

/-- a pointer to a stream; none is the null pointer -/
abbrev Pointer := Option Handle

/-- stores a value behind a pointer that may be null -/
def storeBehind {α : Type} (a : α) (cell : Option α) : Option α := cell.map fun _ => a

/-- a thread of a C program over cookies of one kind; what its devices share is its `errno` -/
structure Client (κ : Type) where
  desk : Desk (Memory ⊕ Callback κ) Errno := { shared := 0 }
  /-- the sizes that streams are made with -/
  sizing : Sizing := {}

namespace Client

variable {κ α : Type}

def errno (c : Client κ) : Errno := c.desk.shared

def leave (e : Errno) (c : Client κ) : Client κ := { c with desk := { c.desk with shared := e } }

/-- the stream behind a pointer -/
def stream? (c : Client κ) (p : Pointer) : Option (Stream (Memory ⊕ Callback κ)) :=
  p.bind c.desk.find?

/-- the cookie of a stream; memory has none -/
def cookie? (s : Stream (Memory ⊕ Callback κ)) : Option κ :=
  match s.device with
  | .inl _ => none
  | .inr d => some d.cookie

/-- a failure leaves its error number behind -/
def settle (r : Except Fault α) (c : Client κ) : Option α × Client κ :=
  match r with
  | .ok a => (some a, c)
  | .error f => (none, c.leave f.errno)

/-- an operation on the stream behind a pointer; without a stream it fails -/
def perform (p : Pointer)
    (f : Stream (Memory ⊕ Callback κ) → Except Fault α × Stream (Memory ⊕ Callback κ))
    (c : Client κ) : Option α × Client κ :=
  match p.bind fun h => c.desk.visit h f with
  | none => (none, c.leave Errno.badFile)
  | some (r, desk) => settle r { c with desk }

def failure : Int := -1

/-- the return value of a call that has nothing to tell but its success -/
def status (r : Option α × Client κ) : Int × Client κ :=
  (if r.1.isSome then 0 else failure, r.2)

end Client

end BufferedStreams
