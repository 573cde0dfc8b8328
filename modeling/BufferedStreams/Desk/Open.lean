import BufferedStreams.Desk
import BufferedStreams.Device.Memory
import BufferedStreams.Stream.Output

/-!
# Opening streams

A stream is opened over a device of the caller's, or over memory.  The mode string is read first;
if it is no mode, nothing happens.  Memory streams stand beside the other devices of a desk, so they
are opened on a desk whose devices are memory or something else.
-/

namespace BufferedStreams

/-- how a stream is made -/
structure Opening where
  capacity : Nat
  strategy : Buffering := .full
  name : Option String := none
  deriving DecidableEq, Repr

/-- the usual way to make a stream, with the sizes in force -/
def Opening.ofSizing (z : Sizing) : Opening := { capacity := z.buffer }

namespace Desk

variable {δ σ : Type}

/-- puts a new stream on the desk -/
def place [Device δ] (o : Opening) (device : δ) (m : OpenMode) (d : Desk δ σ) : Handle × Desk δ σ :=
  let s := Stream.ofDevice device m o.capacity
  let (h, d) := d.register { s with strategy := o.strategy, name := o.name }
  (h, { d with retired := d.retired.tick .opened })

/-- opens a stream over a device; what the making of the device did to what is shared stays done,
also if there will be no stream -/
def openOn [Device δ] [Shares δ σ] (o : Opening) (device : δ) (mode : String) (d : Desk δ σ) :
    Except Fault Handle × Desk δ σ :=
  let d := { d with shared := Shares.settle device d.shared }
  match OpenMode.parse mode with
  | .error f => (.error f, d)
  | .ok m =>
    let (h, d) := d.place o device m
    (.ok h, d)

variable [Device δ]

/-- opens a stream over new memory that may grow up to a limit -/
def openMemory (z : Sizing) (limit : Option Nat) (mode : String) (d : Desk (Memory ⊕ δ) σ) :
    Except Fault Handle × Desk (Memory ⊕ δ) σ :=
  match OpenMode.parse mode with
  | .error f => (.error f, d)
  | .ok m =>
    let plan := { Memory.Plan.ofMode m with block := z.block, limit }
    let (h, d) := d.place (Opening.ofSizing z) (.inl (Memory.ofPlan plan)) m
    (.ok h, d)

/-- writes the first contents of a stream and goes back to its start -/
def load (bytes : Bytes) (s : Stream (Memory ⊕ δ)) : Except Fault Unit × Stream (Memory ⊕ δ) :=
  match s.writeAll bytes with
  | (.error f, s) => (.error f, s)
  | (.ok (), s) =>
    match s.seek 0 .start with
    | (.error f, s) => (.error f, s)
    | (.ok _, s) => (.ok (), s)

/-- opens a stream over new memory that holds `bytes`; if they do not fit, the stream is closed
again -/
def openMemoryWith [Shares (Memory ⊕ δ) σ] (z : Sizing) (limit : Option Nat) (mode : String)
    (bytes : Bytes) (d : Desk (Memory ⊕ δ) σ) : Except Fault Handle × Desk (Memory ⊕ δ) σ :=
  match d.openMemory z limit mode with
  | (.error f, d) => (.error f, d)
  | (.ok h, d) =>
    if bytes.isEmpty then (.ok h, d)
    else
      match d.visit h (load bytes) with
      | none => (.ok h, d)
      | some (.ok (), d) => (.ok h, d)
      | some (.error f, d) =>
        match d.close h with
        | none => (.error f, d)
        | some (_, _, d) => (.error f, d)

end Desk

end BufferedStreams
