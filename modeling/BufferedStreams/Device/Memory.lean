import BufferedStreams.Device
import BufferedStreams.OpenMode

/-!
# Memory devices

A growable byte storage with a cursor.  The first `length` bytes of the storage are data; the
storage grows in multiples of a block, up to a limit if there is one.

* a write past the storage makes it grow, or is cut short where the storage may not grow;
* a seek past the data fills the gap with zero bytes;
* required sizes are checked first against the range of sizes, then against the limit, and only
  then is storage allocated.
-/

namespace BufferedStreams

/-- how a memory device is made -/
structure Memory.Plan where
  /-- storage grows in multiples of this; zero counts as one -/
  block : Nat := usualBuffer
  grows : Bool := true
  /-- the storage may not grow beyond this -/
  limit : Option Nat := none
  /-- every write goes to the end of the data -/
  append : Bool := false
  deriving DecidableEq, Repr

namespace Memory.Plan

/-- the usual plan, with the append setting of a mode -/
def ofMode (m : OpenMode) : Plan := { append := m.append }

/-- is the size beyond the limit? -/
def exceeds (p : Plan) (size : Nat) : Bool :=
  match p.limit with
  | some most => decide (most < size)
  | none => false

/-- the size brought down to the limit -/
def capped (p : Plan) (size : Nat) : Nat :=
  match p.limit with
  | some most => min size most
  | none => size

/-- `size` rounded up to a multiple of the block -/
def rounded (p : Plan) (size : Nat) : Nat :=
  let block := max p.block 1
  (size + block - 1) / block * block

/-- the size that storage has to take so as to hold `required` bytes -/
def grown (p : Plan) (required : Nat) : Except Fault Nat :=
  if p.exceeds required then .error .outOfSpace
  else if wordRange ≤ p.rounded required then .error (.invalid .sizeOverflow)
  else if allocatable < p.capped (p.rounded required) then .error .outOfMemory
  else .ok (p.capped (p.rounded required))

end Memory.Plan

structure Memory where
  plan : Memory.Plan
  storage : Slab := Slab.blank 0
  cursor : Nat := 0
  /-- how many bytes of the storage are data -/
  length : Nat := 0

namespace Memory

/-- no storage yet; it comes with the first write or seek -/
def ofPlan (plan : Plan) : Memory := { plan }

/-- storage that holds `bytes`, the cursor at the start -/
def ofData (bytes : Bytes) (plan : Plan) : Memory :=
  { plan, storage := Slab.ofList bytes, length := bytes.length }

/-- storage supplied by the caller, zero-extended to `size` bytes, of which the first `length` are
data -/
def ofParts (storage : Option Bytes) (size length : Nat) (plan : Plan) : Except Fault Memory :=
  match storage with
  | none =>
    if size = 0 ∧ length = 0 then .ok (ofPlan plan) else .error (.invalid .missingMemory)
  | some bytes =>
    if size < length then .error (.invalid .dataTooLong)
    else if h : size < bytes.length then .error (.invalid .memoryTooLong)
    else .ok { plan, storage := ⟨size, bytes, Nat.le_of_not_lt h⟩, length }

def data (m : Memory) : Bytes := m.storage.slice 0 m.length

def capacity (m : Memory) : Nat := m.storage.size

/-- storage for at least `required` bytes -/
def extend (m : Memory) (required : Nat) : Except Fault Memory :=
  if required ≤ m.capacity then .ok m
  else
    match m.plan.grown required with
    | .ok size => .ok { m with storage := m.storage.grow size }
    | .error f => .error f

/-- stores bytes for which there is room -/
def put (m : Memory) (bytes : Bytes) : Memory :=
  let past := m.cursor + bytes.length
  { m with storage := m.storage.store m.cursor bytes, cursor := past, length := max m.length past }

/-- the cursor where a write starts: at the end of the data in append mode -/
def forWrite (m : Memory) : Memory := if m.plan.append then { m with cursor := m.length } else m

def read (n : Nat) (m : Memory) : Except Fault Delivery × Memory :=
  let k := min n (m.length - m.cursor)
  (.ok ⟨m.storage.slice m.cursor k, k⟩, { m with cursor := m.cursor + k })

/-- writes at the cursor, or at the end of the data in append mode -/
def write (bytes : Bytes) (m : Memory) : Except Fault Nat × Memory :=
  if bytes.isEmpty then (.ok 0, m)
  else
    let m := m.forWrite
    let room := m.capacity - m.cursor
    if bytes.length ≤ room then (.ok bytes.length, m.put bytes)
    else if m.plan.grows then
      if wordRange ≤ m.cursor + bytes.length then (.error (.invalid .sizeOverflow), m)
      else
        match m.extend (m.cursor + bytes.length) with
        | .ok m => (.ok bytes.length, m.put bytes)
        | .error f => (.error f, m)
    else (.ok room, m.put (bytes.take room))

def base (m : Memory) : Whence → Nat
  | .start => 0
  | .current => m.cursor
  | .finish => m.length

/-- the cursor at `pos`, and data up to there -/
def moveTo (m : Memory) (pos : Nat) : Memory :=
  { m with
    storage := m.storage.wipe m.length (pos - m.length)
    length := max m.length pos
    cursor := pos }

/-- storage for a seek to `pos` -/
def makeRoom (m : Memory) (pos : Nat) : Except Fault Memory :=
  if m.capacity < pos ∧ !m.plan.grows then .error .outOfSpace else m.extend pos

def seek (off : Int) (w : Whence) (m : Memory) : Except Fault Nat × Memory :=
  let pos := (m.base w : Int) + off
  if pos < 0 then (.error (.invalid .beforeStart), m)
  else if (wordRange : Int) ≤ pos then (.error (.invalid .offsetOverflow), m)
  else
    match m.makeRoom pos.toNat with
    | .ok m => (.ok pos.toNat, m.moveTo pos.toNat)
    | .error f => (.error f, m)

def emptied (m : Memory) : Memory := { m with storage := Slab.blank 0, cursor := 0, length := 0 }

instance : Device Memory where
  abilities _ := Abilities.all
  read := read
  write := write
  seek := seek
  close m := (.ok (), m.emptied)
  snatch m := (some m.data, m.emptied)

end Memory

end BufferedStreams
