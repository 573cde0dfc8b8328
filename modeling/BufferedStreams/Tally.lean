/-!
# Tallies

Counters of what streams have done.  A tally adds up; every counter wraps at `2 ^ 64`.
-/

namespace BufferedStreams

/-- what is counted -/
inductive Counter where
  | opened
  | closed
  /-- refills of a buffer -/
  | fills
  /-- buffers handed over to a device -/
  | flushes
  /-- bytes that devices delivered -/
  | bytesRead
  /-- bytes that devices accepted -/
  | bytesWritten
  /-- seeks asked for -/
  | seeks
  /-- operations that set an error mark -/
  | errors
  deriving DecidableEq, Repr

/-- one number for each counter -/
structure Tally where
  opened : UInt64 := 0
  closed : UInt64 := 0
  fills : UInt64 := 0
  flushes : UInt64 := 0
  bytesRead : UInt64 := 0
  bytesWritten : UInt64 := 0
  seeks : UInt64 := 0
  errors : UInt64 := 0
  deriving DecidableEq, Repr

namespace Tally

def count (t : Tally) (c : Counter) (n : Nat) : Tally :=
  match c with
  | .opened => { t with opened := t.opened + .ofNat n }
  | .closed => { t with closed := t.closed + .ofNat n }
  | .fills => { t with fills := t.fills + .ofNat n }
  | .flushes => { t with flushes := t.flushes + .ofNat n }
  | .bytesRead => { t with bytesRead := t.bytesRead + .ofNat n }
  | .bytesWritten => { t with bytesWritten := t.bytesWritten + .ofNat n }
  | .seeks => { t with seeks := t.seeks + .ofNat n }
  | .errors => { t with errors := t.errors + .ofNat n }

def tick (t : Tally) (c : Counter) : Tally := t.count c 1

/-- the sum of two tallies, counter by counter -/
def add (a b : Tally) : Tally where
  opened := a.opened + b.opened
  closed := a.closed + b.closed
  fills := a.fills + b.fills
  flushes := a.flushes + b.flushes
  bytesRead := a.bytesRead + b.bytesRead
  bytesWritten := a.bytesWritten + b.bytesWritten
  seeks := a.seeks + b.seeks
  errors := a.errors + b.errors

instance : Add Tally := ⟨add⟩

/-- how many streams came and went -/
def turnover (t : Tally) : UInt64 × UInt64 := (t.opened, t.closed)

theorem turnover_opened (t : Tally) :
    (t.tick .opened).turnover = (t.turnover.1 + 1, t.turnover.2) := rfl

theorem turnover_closed (t : Tally) :
    (t.tick .closed).turnover = (t.turnover.1, t.turnover.2 + 1) := rfl

/-- a tally that counts no coming and going adds nothing to the two counters -/
theorem turnover_add (a : Tally) {b : Tally} (h : b.turnover = (0, 0)) :
    (a + b).turnover = a.turnover := by
  obtain ⟨opened, closed⟩ := Prod.mk.inj h
  show (a.opened + b.opened, a.closed + b.closed) = _
  rw [opened, closed, UInt64.add_zero, UInt64.add_zero]
  rfl

end Tally

end BufferedStreams
