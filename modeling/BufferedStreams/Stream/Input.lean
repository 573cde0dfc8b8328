import BufferedStreams.Stream.Turn

/-!
# Reading from a stream

Input comes from three places in this order: bytes pushed back, read-ahead, and the device.  How
the device is asked depends on the strategy: a direct stream reads straight into the destination,
any other stream reads a whole buffer at a time.

A read that moved some bytes before it failed is a success; its failure shows in the error mark.
-/

namespace BufferedStreams

/-- the bytes an operation brought in before it stopped, and the failure that stopped it, if any -/
structure Intake where
  bytes : Bytes := []
  stop : Option Fault := none
  deriving DecidableEq, Repr

namespace Intake

/-- the same with bytes in front -/
def after (t : Intake) (bytes : Bytes) : Intake := { t with bytes := bytes ++ t.bytes }

/-- a failure only shows if no byte was moved -/
def result (t : Intake) : Except Fault Bytes :=
  match t.stop with
  | some f => if t.bytes.isEmpty then .error f else .ok t.bytes
  | none => .ok t.bytes

end Intake

namespace Stream

variable {δ : Type} [Device δ]

/-- replaces the buffer contents by one device read -/
def fill (s : Stream δ) : Except Fault Unit × Stream δ :=
  let s := { s with base := s.base + s.buffer.filled }
  if s.abilities.read then
    match Device.read s.buffer.capacity s.device with
    | (.ok got, d) =>
      let s := { s with device := d, buffer := s.buffer.receive got }
      let s := if s.buffer.filled = 0 then s.markEnd else s
      (.ok (), (s.count .fills 1).count .bytesRead s.buffer.filled)
    | (.error f, d) => (.error f, { s with device := d, buffer := s.buffer.expose 0 }.fail)
  else (.error (.unsupported .read), { s with buffer := s.buffer.expose 0 }.fail)

/-- reads `n` bytes straight from the device; a device that claims more than it was asked for has
delivered everything -/
def pull (n : Nat) (s : Stream δ) : Intake × Stream δ :=
  if n = 0 then ({}, s)
  else
    match Device.read n s.device with
    | (.ok ⟨_, 0⟩, d) => ({}, { s with device := d }.markEnd)
    | (.ok ⟨bytes, c + 1⟩, d) =>
      let k := min (c + 1) n
      let (t, s) :=
        pull (n - k) ({ s with device := d, base := s.base + k }.count .bytesRead k)
      (t.after (Delivery.part ⟨bytes, c + 1⟩ k), s)
    | (.error f, d) => ({ stop := some f }, { s with device := d }.fail)
termination_by n

/-- hands out what is left of the read-ahead, then reads straight from the device -/
def readDirect (n : Nat) (s : Stream δ) : Intake × Stream δ :=
  let (bytes, b) := s.buffer.take n
  let s := { s with buffer := b }
  if bytes.length = n then ({ bytes }, s)
  else
    let s := s.dropAhead
    if s.abilities.read then
      let (t, s) := s.pull (n - bytes.length)
      (t.after bytes, s)
    else ({ bytes, stop := some (.unsupported .read) }, s.fail)

/-- fills the buffer if its read-ahead is used up -/
def stock (s : Stream δ) : Except Fault Unit × Stream δ :=
  if s.buffer.readableSize = 0 then s.fill else (.ok (), s)

/-- hands out read-ahead, and refills the buffer whenever it is used up and more is wanted -/
def readStocked (n : Nat) (s : Stream δ) : Intake × Stream δ :=
  if n = 0 then ({}, s)
  else
    match s.stock with
    | (.error f, s) => ({ stop := some f }, s)
    | (.ok (), s) =>
      if s.buffer.readableSize = 0 then ({}, s)
      else
        let k := min n s.buffer.readableSize
        let (t, u) := readStocked (n - k) { s with buffer := (s.buffer.take n).2 }
        (t.after (s.buffer.take n).1, u)
termination_by n

/-- reads at most `n` bytes -/
def intake (n : Nat) (s : Stream δ) : Intake × Stream δ :=
  match s.turnToRead with
  | (.error f, s) => ({ stop := some f }, s)
  | (.ok (), s) =>
    let (bytes, b) := s.buffer.takePushed n
    let s := { s with buffer := b }
    if bytes.length = n then ({ bytes }, s)
    else
      let rest := n - bytes.length
      let (t, s) := if s.strategy = .direct then s.readDirect rest else s.readStocked rest
      (t.after bytes, s)

/-- reads at most `n` bytes; a read of none touches nothing -/
def read (n : Nat) (s : Stream δ) : Except Fault Bytes × Stream δ :=
  if n = 0 then (.ok [], s)
  else
    let (t, s) := s.intake n
    (t.result, s)

def getc (s : Stream δ) : Except Fault (Option UInt8) × Stream δ :=
  let (r, s) := s.read 1
  (r.map List.head?, s)

/-- pushes bytes back, as many as fit, and tells how many; one that fits clears the end mark -/
def unread (bytes : Bytes) (s : Stream δ) : Except Fault Nat × Stream δ :=
  match s.turnToRead with
  | (.error f, s) => (.error f, s)
  | (.ok (), s) =>
    let (n, b) := s.buffer.pushBack bytes
    let s := { s with buffer := b }
    (.ok n, if n = 0 then s else { s with marks := { s.marks with eof := false } })

/-- shows buffered input without consuming it: pushback if there is any, otherwise read-ahead, for
which the buffer is filled if it is used up; nothing at the end of the data -/
def peek (s : Stream δ) : Except Fault Bytes × Stream δ :=
  match s.turnToRead with
  | (.error f, s) => (.error f, s)
  | (.ok (), s) =>
    if s.buffer.pushed ≠ [] then (.ok s.buffer.pushed, s)
    else
      match s.stock with
      | (.ok (), s) => (.ok s.buffer.readable, s)
      | (.error f, s) => (.error f, s)

/-- the buffer without the first `n` bytes of what `peek` shows -/
def skipped (n : Nat) (b : Buffer) : Except Fault Buffer :=
  if b.pushed ≠ [] then b.dropPushed n else b.consume n

/-- consumes `n` bytes of what `peek` showed; a refusal changes nothing -/
def skip (n : Nat) (s : Stream δ) : Except Fault Unit × Stream δ :=
  if s.writing then (.error (.invalid .skipWhileWriting), s)
  else
    match skipped n s.buffer with
    | .ok b => (.ok (), { s with buffer := b })
    | .error f => (.error f, s)

end Stream

end BufferedStreams
