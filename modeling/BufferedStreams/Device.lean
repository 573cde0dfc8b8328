import BufferedStreams.Buffer

/-!
# Devices

A device is the source and sink of the bytes of a stream: memory, a file, a peer.  It announces
which of the four operations read, write, seek and close it has, and a stream does not call an
operation that was not announced.  A flush carries no data: it tells the device that all collected
output has been handed over.
-/

namespace BufferedStreams

/-- where a seek is measured from -/
inductive Whence where
  /-- the first byte -/
  | start
  /-- the cursor -/
  | current
  /-- behind the last byte -/
  | finish
  deriving DecidableEq, Repr

/-- the origin that a number of POSIX stands for -/
def Whence.ofCode? (code : Int) : Option Whence :=
  if code = 0 then some .start
  else if code = 1 then some .current
  else if code = 2 then some .finish
  else none

def Whence.code : Whence → Int
  | .start => 0
  | .current => 1
  | .finish => 2

theorem Whence.ofCode?_code (w : Whence) : Whence.ofCode? w.code = some w := by
  cases w <;> rfl

structure Abilities where
  read : Bool := false
  write : Bool := false
  seek : Bool := false
  close : Bool := false
  deriving DecidableEq, Repr

def Abilities.all : Abilities := { read := true, write := true, seek := true, close := true }

/-- a state machine that can stand below a stream; a device that leaves an operation out does not
support it, except that there is nothing to do on a flush or a close -/
class Device (δ : Type) where
  abilities : δ → Abilities
  /-- delivers at most the given number of bytes; none means the end of the data -/
  read : Nat → δ → Except Fault Delivery × δ := fun _ d => (.error (.unsupported .read), d)
  /-- takes bytes and tells how many it took -/
  write : Bytes → δ → Except Fault Nat × δ := fun _ d => (.error (.unsupported .write), d)
  /-- is told that all output was handed over -/
  flush : δ → Except Fault Unit × δ := fun d => (.ok (), d)
  /-- moves the cursor and tells its new position -/
  seek : Int → Whence → δ → Except Fault Nat × δ := fun _ _ d => (.error (.unsupported .seek), d)
  close : δ → Except Fault Unit × δ := fun d => (.ok (), d)
  /-- gives its storage away, if it has storage to give -/
  snatch : δ → Option Bytes × δ := fun d => (none, d)

/-! ## one of two devices -/

section Sum

variable {α β γ : Type}

def onLeft (r : γ × α) : γ × (α ⊕ β) := (r.1, .inl r.2)
def onRight (r : γ × β) : γ × (α ⊕ β) := (r.1, .inr r.2)

instance [Device α] [Device β] : Device (α ⊕ β) where
  abilities
    | .inl a => Device.abilities a
    | .inr b => Device.abilities b
  read
    | n, .inl a => onLeft (Device.read n a)
    | n, .inr b => onRight (Device.read n b)
  write
    | bytes, .inl a => onLeft (Device.write bytes a)
    | bytes, .inr b => onRight (Device.write bytes b)
  flush
    | .inl a => onLeft (Device.flush a)
    | .inr b => onRight (Device.flush b)
  seek
    | off, w, .inl a => onLeft (Device.seek off w a)
    | off, w, .inr b => onRight (Device.seek off w b)
  close
    | .inl a => onLeft (Device.close a)
    | .inr b => onRight (Device.close b)
  snatch
    | .inl a => onLeft (Device.snatch a)
    | .inr b => onRight (Device.snatch b)

end Sum

/-! ## a device without operations -/

/-- a device that announces what it likes and supports nothing -/
structure Mute where
  announced : Abilities
  deriving DecidableEq, Repr

instance : Device Mute where
  abilities := Mute.announced

end BufferedStreams
