import BufferedStreams.Fault
import BufferedStreams.Sizing

/-!
# The buffer of a stream

One slab of fixed size serves both directions.  While input is read it holds read-ahead: the bytes
from `cursor` to `filled` are still to be handed out.  While output is collected it holds the bytes
up to `cursor`, of which the device has already taken the first `drained`.  In front of the slab
lies a small pushback area.

* `Buffer.readable`   input that is buffered and not yet handed out;
* `Buffer.pushed`     bytes pushed back, in the order in which they will be read;
* `Buffer.pending`    output that the device has not taken yet.
-/

namespace BufferedStreams

/-- how much is buffered before the device is called -/
inductive Buffering where
  /-- output waits until the buffer is full -/
  | full
  /-- output up to the last line end goes out at once -/
  | line
  /-- every call reaches the device -/
  | direct
  deriving DecidableEq, Repr

/-- the strategy that a mode number of POSIX stands for -/
def Buffering.ofCode? (code : Int) : Option Buffering :=
  if code = 0 then some .full
  else if code = 1 then some .line
  else if code = 2 then some .direct
  else none

/-- what one device read left in a destination: the bytes stored at its start, and the number of
bytes the device says it delivered -/
structure Delivery where
  bytes : Bytes
  count : Nat
  deriving DecidableEq, Repr

/-- the first `n` bytes of a zeroed destination after a delivery -/
def Delivery.part (d : Delivery) (n : Nat) : Bytes :=
  let part := d.bytes.take n
  part ++ zeros (n - part.length)

@[simp] theorem Delivery.length_part (d : Delivery) (n : Nat) : (d.part n).length = n := by
  simp only [part, List.length_append, List.length_take, length_zeros]
  omega

/-- the buffer of a stream -/
structure Buffer where
  slot : Slab
  /-- how many bytes of the slot are valid -/
  filled : Nat := 0
  /-- the read position, or the fill level while output is collected -/
  cursor : Nat := 0
  /-- how much collected output the device has taken -/
  drained : Nat := 0
  /-- bytes pushed back, the next one to be read first -/
  pushed : Bytes := []

namespace Buffer

/-- an empty buffer for at least one byte -/
def ofCapacity (n : Nat) : Buffer := { slot := Slab.blank (max n 1) }

def capacity (b : Buffer) : Nat := b.slot.size

@[simp] theorem capacity_ofCapacity (n : Nat) : (ofCapacity n).capacity = max n 1 := rfl

def clear (b : Buffer) : Buffer := { b with filled := 0, cursor := 0, pushed := [] }

/-! ## input -/

def readableSize (b : Buffer) : Nat := b.filled - b.cursor

/-- the buffered input -/
def readable (b : Buffer) : Bytes := b.slot.slice b.cursor b.readableSize

/-- the first `n` bytes of the slot become the buffered input -/
def expose (b : Buffer) (n : Nat) : Buffer :=
  { b with filled := min n b.capacity, cursor := 0 }

/-- a delivery goes to the start of the slot, the rest of which keeps what it held, and becomes the
buffered input; a count beyond the slot is brought down to it -/
def receive (b : Buffer) (d : Delivery) : Buffer :=
  { b with slot := b.slot.store 0 d.bytes }.expose d.count

/-- hands out at most `n` bytes of the buffered input -/
def take (b : Buffer) (n : Nat) : Bytes × Buffer :=
  let k := min n b.readableSize
  (b.slot.slice b.cursor k, { b with cursor := b.cursor + k })

/-- steps over `n` bytes of the buffered input -/
def consume (b : Buffer) (n : Nat) : Except Fault Buffer :=
  if b.readableSize < n then .error (.invalid .pastBuffered)
  else .ok { b with cursor := b.cursor + n }

/-! ## pushback -/

/-- pushes bytes back one by one, as many as there is room for, and tells how many -/
def pushBack (b : Buffer) (bytes : Bytes) : Nat × Buffer :=
  let fitting := bytes.take (pushbackRoom - b.pushed.length)
  (fitting.length, { b with pushed := fitting.reverse ++ b.pushed })

/-- hands out at most `n` pushed back bytes -/
def takePushed (b : Buffer) (n : Nat) : Bytes × Buffer :=
  (b.pushed.take n, { b with pushed := b.pushed.drop n })

/-- steps over `n` pushed back bytes -/
def dropPushed (b : Buffer) (n : Nat) : Except Fault Buffer :=
  if b.pushed.length < n then .error (.invalid .pastPushback)
  else .ok { b with pushed := b.pushed.drop n }

/-! ## output -/

def space (b : Buffer) : Nat := b.capacity - b.cursor

/-- collects as much of `bytes` as there is room for, and tells how much -/
def append (b : Buffer) (bytes : Bytes) : Nat × Buffer :=
  let fitting := bytes.take b.space
  let level := b.cursor + fitting.length
  (fitting.length, { b with slot := b.slot.store b.cursor fitting, filled := level, cursor := level })

/-- how much output the device has not taken -/
def pendingSize (b : Buffer) : Nat := b.cursor - b.drained

/-- the output that the device has not taken -/
def pending (b : Buffer) : Bytes := b.slot.slice b.drained b.pendingSize

/-- the device has taken `n` more bytes of output, or all there is -/
def markDrained (b : Buffer) (n : Nat) : Buffer :=
  { b with drained := min (b.drained + n) b.cursor }

/-- all output is forgotten -/
def forgetOutput (b : Buffer) : Buffer := { b with filled := 0, cursor := 0, drained := 0 }

theorem pendingSize_markDrained (b : Buffer) (n : Nat) :
    (b.markDrained n).pendingSize = b.pendingSize - n := by
  simp [markDrained, pendingSize]
  omega

end Buffer

end BufferedStreams
