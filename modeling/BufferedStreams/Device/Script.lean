import BufferedStreams.Device

/-!
# Scripted devices

A script is a byte sequence with a cursor whose calls follow a plan: each kind of call has a queue
of actions that make a call fail, move fewer bytes, or report something else than it did.  When a
queue is used up the calls behave plainly.  Every call is recorded, with what it reported.

* `Script`     the byte sequence and its calls, which fail with a `Mishap`;
* `Scripted`   a script as a device of a stream, with the abilities it announces.
-/

namespace BufferedStreams

/-- why a call on a script failed -/
inductive Mishap where
  /-- the system reports an error number -/
  | code (e : Errno)
  /-- a cause given in words -/
  | other (text : String)
  /-- the call was interrupted before it did anything -/
  | interrupted
  deriving DecidableEq, Repr

namespace Mishap

def interrupts : Mishap → Bool
  | .code e => e == Errno.intr
  | .other _ => false
  | .interrupted => true

/-- the cause that a stream learns from a system call -/
def cause : Mishap → Cause
  | .code e => .system e
  | .other text => .other text
  | .interrupted => .interrupted

/-- the fault that a stream learns from a device of its own kind, which may name any fault by its
error number -/
def fault : Mishap → Fault
  | .code e => .ofErrno e
  | m => .io m.cause

/-- the error number that a callback leaves behind -/
def errno : Mishap → Errno
  | .code e => e
  | .other _ => Errno.ioError
  | .interrupted => Errno.intr

end Mishap

/-- what a planned call does -/
inductive Action where
  /-- what it would do without a plan -/
  | plain
  /-- it fails and has no effect -/
  | fail (m : Mishap)
  /-- it moves at most so many bytes -/
  | atMost (n : Nat)
  /-- it reports so many bytes more than it could move -/
  | over (n : Nat)
  /-- it reports a position and does not move -/
  | claim (pos : Int)
  deriving DecidableEq, Repr

/-- a recorded call, with what it reported -/
inductive Call where
  | read (room : Nat) (r : Except Mishap Nat)
  | write (bytes : Bytes) (r : Except Mishap Nat)
  | flush (r : Except Mishap Unit)
  | seek (off : Int) (w : Whence) (r : Except Mishap Int)
  | close (r : Except Mishap Unit)
  | snatch

/-- a byte sequence whose calls follow a plan -/
structure Script where
  data : Bytes := []
  cursor : Nat := 0
  /-- every write goes to the end of the data -/
  append : Bool := false
  /-- does it give its data away? -/
  generous : Bool := false
  reads : List Action := []
  writes : List Action := []
  flushes : List Action := []
  seeks : List Action := []
  closes : List Action := []
  /-- the calls so far, the first one first -/
  calls : List Call := []

namespace Script

/-- writes behind this position fail -/
def farthest : Nat := 0x100000

/-- the next action of a queue, and the rest of the queue -/
def next : List Action → Action × List Action
  | [] => (.plain, [])
  | a :: rest => (a, rest)

def record (s : Script) (c : Call) : Script := { s with calls := s.calls ++ [c] }

/-- how many bytes a call that wants `n` bytes moves under an action -/
def moved (n : Nat) : Action → Nat
  | .atMost k => min n k
  | _ => n

/-- how many bytes more than it moved a call reports under an action -/
def surplus : Action → Nat
  | .over k => k
  | _ => 0

/-- what ends up in a destination of `room` bytes: the bytes read, and question marks in the rest
where more bytes are reported than there is room for -/
def delivery (room : Nat) (bytes : Bytes) : Action → Delivery
  | .over k => ⟨bytes ++ List.replicate (room - bytes.length) 63, room + k⟩
  | _ => ⟨bytes, bytes.length⟩

/-- reads into a destination of `room` bytes -/
def read (room : Nat) (s : Script) : Except Mishap Delivery × Script :=
  let (a, rest) := next s.reads
  let s := { s with reads := rest }
  match a with
  | .fail m => (.error m, s.record (.read room (.error m)))
  | a =>
    let bytes := (s.data.drop s.cursor).take (moved room a)
    let d := delivery room bytes a
    (.ok d, { s with cursor := s.cursor + bytes.length }.record (.read room (.ok d.count)))

/-- where a write goes -/
def target (s : Script) : Nat := if s.append then s.data.length else s.cursor

/-- writes `bytes`, or the start of them -/
def write (bytes : Bytes) (s : Script) : Except Mishap Nat × Script :=
  let (a, rest) := next s.writes
  let s := { s with writes := rest }
  match a with
  | .fail m => (.error m, s.record (.write bytes (.error m)))
  | a =>
    let n := moved bytes.length a
    let reported := n + surplus a
    if n = 0 then (.ok reported, s.record (.write bytes (.ok reported)))
    else if farthest < s.target then
      (.error (.code 27), { s with cursor := s.target }.record (.write bytes (.error (.code 27))))
    else
      (.ok reported,
        { s with data := overlay s.data s.target (bytes.take n), cursor := s.target + n }.record
          (.write bytes (.ok reported)))

def flush (s : Script) : Except Mishap Unit × Script :=
  let (a, rest) := next s.flushes
  let s := { s with flushes := rest }
  match a with
  | .fail m => (.error m, s.record (.flush (.error m)))
  | _ => (.ok (), s.record (.flush (.ok ())))

def base (s : Script) : Whence → Nat
  | .start => 0
  | .current => s.cursor
  | .finish => s.data.length

/-- moves the cursor to any position in the range of offsets -/
def seek (off : Int) (w : Whence) (s : Script) : Except Mishap Int × Script :=
  let (a, rest) := next s.seeks
  let s := { s with seeks := rest }
  let refuse (m : Mishap) : Except Mishap Int × Script :=
    (.error m, s.record (.seek off w (.error m)))
  match a with
  | .fail m => refuse m
  | .claim pos => (.ok pos, s.record (.seek off w (.ok pos)))
  | _ =>
    let pos := (s.base w : Int) + off
    if pos < 0 then refuse (.code Errno.invalid)
    else if (offsetRange : Int) ≤ pos then refuse (.code Errno.overflow)
    else (.ok pos, { s with cursor := pos.toNat }.record (.seek off w (.ok pos)))

/-- is done with -/
def close (s : Script) : Except Mishap Unit × Script :=
  let (a, rest) := next s.closes
  let s := { s with closes := rest }
  match a with
  | .fail m => (.error m, s.record (.close (.error m)))
  | _ => (.ok (), s.record (.close (.ok ())))

/-- gives a copy of the data away, if it is generous -/
def snatch (s : Script) : Option Bytes × Script :=
  (if s.generous then some s.data else none, s.record .snatch)

end Script

/-- a script as a device -/
structure Scripted where
  script : Script
  announced : Abilities

/-- an answer of a script, as a device gives it -/
def Scripted.answer {α β : Type} (d : Scripted) (f : α → β) (r : Except Mishap α × Script) :
    Except Fault β × Scripted :=
  ((r.1.map f).mapError Mishap.fault, { d with script := r.2 })

instance : Device Scripted where
  abilities := Scripted.announced
  read n d := d.answer id (d.script.read n)
  write bytes d := d.answer id (d.script.write bytes)
  flush d := d.answer id d.script.flush
  seek off w d := d.answer Int.toNat (d.script.seek off w)
  close d := d.answer id d.script.close
  snatch d := (d.script.snatch.1, { d with script := d.script.snatch.2 })

end BufferedStreams
