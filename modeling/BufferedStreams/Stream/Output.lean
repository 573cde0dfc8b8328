import BufferedStreams.Payload
import BufferedStreams.Stream.Turn

/-!
# Writing to a stream

A direct stream hands every byte to the device at once.  A fully buffered stream collects bytes and
drains the buffer whenever it is full.  A line buffered stream writes everything up to the last line
end directly and collects the rest.

A write that moved some bytes before it failed is a success; its failure shows in the error mark.
-/

namespace BufferedStreams

/-- the number of bytes an operation moved before it stopped, and the failure that stopped it, if
any -/
structure Outcome where
  count : Nat := 0
  stop : Option Fault := none
  deriving DecidableEq, Repr

namespace Outcome

/-- the same with `n` bytes moved before -/
def after (t : Outcome) (n : Nat) : Outcome := { t with count := n + t.count }

/-- a failure only shows if no byte was moved -/
def result (t : Outcome) : Except Fault Nat :=
  match t.stop with
  | some f => if t.count = 0 then .error f else .ok t.count
  | none => .ok t.count

end Outcome

namespace Stream

variable {δ : Type} [Device δ]

/-- writes bytes straight to the device until it has taken all of them; a device that takes no byte
at all has failed, and one that claims more than it was offered has taken everything -/
def push (bytes : Bytes) (s : Stream δ) : Outcome × Stream δ :=
  if bytes.length = 0 then ({}, s.syncAppend)
  else
    match Device.write bytes s.device with
    | (.ok 0, d) => ({ stop := some (.io .nothingAccepted) }, { s with device := d }.fail)
    | (.ok (n + 1), d) =>
      let k := min (n + 1) bytes.length
      let (t, s) := push (bytes.drop k)
        ({ s with device := d, base := s.base + k }.count .bytesWritten k)
      (t.after k, s)
    | (.error f, d) => ({ stop := some f }, { s with device := d }.fail)
termination_by bytes.length
decreasing_by
  simp only [List.length_drop]
  omega

/-- hands collected output over, then writes straight to the device -/
def writeDirect (bytes : Bytes) (s : Stream δ) : Outcome × Stream δ :=
  match s.drain with
  | (.error f, s) => ({ stop := some f }, s)
  | (.ok (), s) =>
    if s.abilities.write then s.push bytes
    else ({ stop := some (.unsupported .write) }, s.fail)

/-- makes room in a full buffer -/
def makeSpace (s : Stream δ) : Except Fault Unit × Stream δ :=
  if s.buffer.space = 0 then s.drain else (.ok (), s)

/-- collects bytes, and drains the buffer whenever it is full and more is to come; a buffer that
stays full after a drain takes nothing -/
def stow (bytes : Bytes) (s : Stream δ) : Outcome × Stream δ :=
  if bytes.length = 0 then ({}, s)
  else
    match s.makeSpace with
    | (.error f, s) => ({ stop := some f }, s)
    | (.ok (), s) =>
      if s.buffer.space = 0 then ({}, s)
      else
        let k := min bytes.length s.buffer.space
        let (t, u) := stow (bytes.drop k) { s with buffer := (s.buffer.append bytes).2 }
        (t.after k, u)
termination_by bytes.length
decreasing_by
  simp only [List.length_drop]
  omega

/-- writes everything up to the last line end, then collects the rest -/
def writeLines (bytes : Bytes) (s : Stream δ) : Outcome × Stream δ :=
  match splitLastLine? bytes with
  | none => s.stow bytes
  | some (lines, tail) =>
    match s.writeDirect lines with
    | ({ count, stop := some f }, s) => ({ count, stop := some f }, s)
    | ({ count, stop := none }, s) =>
      let (t, s) := s.stow tail
      (t.after count, s)

/-- writes by the strategy in force -/
def emit (bytes : Bytes) (s : Stream δ) : Outcome × Stream δ :=
  match s.turnToWrite with
  | (.error f, s) => ({ stop := some f }, s)
  | (.ok (), s) =>
    match s.strategy with
    | .direct => s.writeDirect bytes
    | .full => s.stow bytes
    | .line => s.writeLines bytes

/-- writes bytes and tells how many were taken; a write of none touches nothing -/
def write (bytes : Bytes) (s : Stream δ) : Except Fault Nat × Stream δ :=
  if bytes.isEmpty then (.ok 0, s)
  else
    let (t, s) := s.emit bytes
    (t.result, s)

/-- starts writing and writes all of the bytes, or fails -/
def writeAll (bytes : Bytes) (s : Stream δ) : Except Fault Unit × Stream δ :=
  let (t, s) := s.emit bytes
  match t.stop with
  | some f => (.error f, s)
  | none => (if t.count < bytes.length then .error .outOfSpace else .ok (), s)

/-- writes all of the bytes, or fails; without bytes nothing is touched, not even the direction of
the stream -/
def putAll (bytes : Bytes) (s : Stream δ) : Except Fault Unit × Stream δ :=
  if bytes.isEmpty then (.ok (), s) else s.writeAll bytes

def putc (byte : UInt8) (s : Stream δ) : Except Fault Unit × Stream δ := s.writeAll [byte]

end Stream

end BufferedStreams
