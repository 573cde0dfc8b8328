import BufferedStreams.Stream.Close

/-!
# Desks

A desk holds the open streams.  Each stream has a slot, and a handle names the slot and the
generation of its tenant.  A slot that was given up is used again, the one given up last first, and
its generation goes up, so that an old handle never names a newer tenant.

Devices may share something, for example a disk: it is kept on the desk, lent to a device while its
stream is at work, and taken back afterwards (`Shares`).

* `Desk.register`, `Desk.remove`   a stream gets a slot, or gives it up;
* `Desk.visit`      an operation on one stream;
* `Desk.visitAll`   an operation on every stream, in the order of the slots;
* `Desk.close`      a stream gives up its slot and is closed.
-/

namespace BufferedStreams

/-- what devices share -/
class Shares (δ σ : Type) where
  /-- the device gets what is shared as it is now -/
  lend : σ → δ → δ
  /-- what is shared, after the device has been at work -/
  settle : δ → σ → σ

/-- devices that share nothing -/
instance {δ : Type} : Shares δ Unit where
  lend _ d := d
  settle _ u := u

/-- names a tenant of a slot -/
structure Handle where
  index : Nat
  generation : UInt32
  deriving DecidableEq, Repr

/-- a place for one stream at a time -/
structure Slot (δ : Type) where
  /-- goes up whenever a tenant leaves, and wraps at `2 ^ 32` -/
  generation : UInt32
  tenant : Option (Stream δ)

/-- open streams, and what their devices share -/
structure Desk (δ σ : Type) where
  slots : List (Slot δ) := []
  /-- the slots that were given up, the one given up last first -/
  vacant : List Nat := []
  /-- how many streams there are -/
  live : Nat := 0
  shared : σ
  /-- what streams that have left the desk did, and how many came and left -/
  retired : Tally := {}

namespace Desk

variable {δ σ : Type}

/-! ## slots -/

/-- the stream that a handle names -/
def find? (d : Desk δ σ) (h : Handle) : Option (Stream δ) :=
  match d.slots[h.index]? with
  | some slot => if slot.generation = h.generation then slot.tenant else none
  | none => none

def contains (d : Desk δ σ) (h : Handle) : Bool := (d.find? h).isSome

/-- puts a stream where one is already -/
def replace (d : Desk δ σ) (h : Handle) (s : Stream δ) : Desk δ σ :=
  { d with slots := d.slots.set h.index ⟨h.generation, some s⟩ }

/-- gives a stream a slot -/
def register (d : Desk δ σ) (s : Stream δ) : Handle × Desk δ σ :=
  match d.vacant with
  | i :: rest =>
    let generation := (d.slots[i]?.map Slot.generation).getD 0
    (⟨i, generation⟩,
      { d with
        slots := d.slots.set i ⟨generation, some s⟩
        vacant := rest
        live := d.live + 1 })
  | [] =>
    (⟨d.slots.length, 1⟩,
      { d with slots := d.slots ++ [⟨1, some s⟩], live := d.live + 1 })

/-- takes the stream that a handle names out of its slot -/
def remove (d : Desk δ σ) (h : Handle) : Option (Stream δ × Desk δ σ) :=
  match d.find? h with
  | none => none
  | some s =>
    some (s,
      { d with
        slots := d.slots.set h.index ⟨h.generation + 1, none⟩
        vacant := h.index :: d.vacant
        live := d.live - 1 })

/-! ## what a desk tells -/

/-- what all streams ever on the desk did -/
def tally (d : Desk δ σ) : Tally :=
  d.slots.foldl (fun t slot => match slot.tenant with
    | some s => t + s.tally
    | none => t) d.retired

/-- the diagnostic text of a desk -/
def describe (d : Desk δ σ) : String := "StreamRegistry \x7b live: " ++ toString d.live ++ " \x7d"

/-! ## operations on streams -/

variable [Shares δ σ]

/-- an operation on a stream, on loan of what is shared -/
def borrow {α : Type} (f : Stream δ → α × Stream δ) (shared : σ) (s : Stream δ) :
    α × Stream δ × σ :=
  let (a, s) := f { s with device := Shares.lend shared s.device }
  (a, s, Shares.settle s.device shared)

/-- an operation on the stream that a handle names -/
def visit {α : Type} (d : Desk δ σ) (h : Handle) (f : Stream δ → α × Stream δ) :
    Option (α × Desk δ σ) :=
  match d.find? h with
  | none => none
  | some s =>
    let (a, s, shared) := borrow f d.shared s
    some (a, { d.replace h s with shared })

/-- an operation on every open stream of a list of slots, with a value handed from one to the next -/
def visitSlots {α : Type} (f : α → Stream δ → α × Stream δ) (a : α) (shared : σ) :
    List (Slot δ) → α × σ × List (Slot δ)
  | [] => (a, shared, [])
  | slot :: rest =>
    match slot.tenant with
    | none =>
      let (a, shared, rest) := visitSlots f a shared rest
      (a, shared, slot :: rest)
    | some s =>
      if s.closed then
        let (a, shared, rest) := visitSlots f a shared rest
        (a, shared, slot :: rest)
      else
        let (a, s, shared) := borrow (f a) shared s
        let (a, shared, rest) := visitSlots f a shared rest
        (a, shared, { slot with tenant := some s } :: rest)

/-- an operation on every open stream, in the order of the slots, with a value handed from one to
the next -/
def visitAll {α : Type} (d : Desk δ σ) (f : α → Stream δ → α × Stream δ) (a : α) : α × Desk δ σ :=
  let (a, shared, slots) := visitSlots f a d.shared d.slots
  (a, { d with slots, shared })

/-- an operation on every open stream that answers with some bits: all bits of all answers -/
def gather {α : Type} (d : Desk δ σ) (f : α → Stream δ → UInt32 × α × Stream δ) (a : α) :
    UInt32 × α × Desk δ σ :=
  let ((bits, a), d) := d.visitAll
    (fun (acc : UInt32 × α) s =>
      let (bits, a, s) := f acc.2 s
      ((acc.1 ||| bits, a), s))
    (0, a)
  (bits, a, d)

variable [Device δ]

/-- hands the collected output of every writing stream over; all are tried, and one failure is
enough to fail -/
def flushAll (d : Desk δ σ) : Except Fault Unit × Desk δ σ :=
  let (failed, d) := d.visitAll
    (fun failed s =>
      if s.writing then
        let (r, s) := s.flush
        (failed || !r.toBool, s)
      else (failed, s))
    false
  (if failed then .error (.io .notAllFlushed) else .ok (), d)

/-- closes the stream that a handle names, once it has given up its slot; what is left of the stream
goes to the caller -/
def close (d : Desk δ σ) (h : Handle) : Option (Except Fault Unit × Stream δ × Desk δ σ) :=
  match d.remove h with
  | none => none
  | some (s, d) =>
    let (r, s, shared) := borrow Stream.close d.shared s
    some (r, s, { d with shared, retired := (d.retired + s.tally).tick .closed })

/-- the same, but the storage of the device goes to the caller, unless something failed -/
def closeSnatch (d : Desk δ σ) (h : Handle) : Option (Except Fault Bytes × Stream δ × Desk δ σ) :=
  match d.visit h Stream.snatch with
  | none => none
  | some (snatched, d) =>
    match d.close h with
    | none => none
    | some (closed, s, d) =>
      some (match snatched, closed with
        | .error f, _ => .error f
        | .ok _, .error f => .error f
        | .ok bytes, .ok () => .ok bytes,
        s, d)

end Desk

end BufferedStreams
