import BufferedStreams.Device.Script

/-!
# Readers and writers

An endpoint is one end of a pipe or a terminal: it can be read or written and cannot seek, and its
calls may be interrupted before they do anything.  A reader or a writer makes a device of an
endpoint: it tries interrupted calls again, and after it was closed it answers that the file is
not open.

* `Endpoint`   the calls, with a bound on the interruptions still to come, so that trying again ends;
* `retry`      a call that is repeated while it is interrupted;
* `Reader`, `Writer`   the devices.
-/

namespace BufferedStreams

/-- something that can be read, written and flushed, with interruptions; `interruptions` bounds how
many are still to come -/
class Endpoint (ε : Type) where
  read : Nat → ε → Except Mishap Delivery × ε
  write : Bytes → ε → Except Mishap Nat × ε
  flush : ε → Except Mishap Unit × ε
  interruptions : ε → Nat
  read_interrupted : ∀ n e m e', read n e = (.error m, e') → m.interrupts = true →
    interruptions e' < interruptions e
  write_interrupted : ∀ bytes e m e', write bytes e = (.error m, e') → m.interrupts = true →
    interruptions e' < interruptions e
  flush_interrupted : ∀ e m e', flush e = (.error m, e') → m.interrupts = true →
    interruptions e' < interruptions e

/-- repeats a call while it is interrupted -/
def retry {ε α : Type} (call : ε → Except Mishap α × ε) (bound : ε → Nat)
    (drops : ∀ e m e', call e = (.error m, e') → m.interrupts = true → bound e' < bound e)
    (e : ε) : Except Mishap α × ε :=
  match h : call e with
  | (.ok a, e') => (.ok a, e')
  | (.error m, e') =>
    if hm : m.interrupts = true then
      have := drops e m e' h hm
      retry call bound drops e'
    else (.error m, e')
termination_by bound e

/-- a fault for a mishap of an endpoint -/
def Mishap.systemFault (m : Mishap) : Fault := .io m.cause

/-! ## the devices -/

/-- an endpoint to read from -/
structure Reader (ε : Type) where
  endpoint : ε
  isOpen : Bool := true

/-- an endpoint to write to -/
structure Writer (ε : Type) where
  endpoint : ε
  isOpen : Bool := true

/-- what a closed reader or writer answers -/
def notOpen : Fault := .io (.system Errno.badFile)

section

variable {ε α : Type} [Endpoint ε]

def Reader.read (n : Nat) (r : Reader ε) : Except Fault Delivery × Reader ε :=
  if r.isOpen then
    let (a, e) := retry (Endpoint.read n) Endpoint.interruptions (Endpoint.read_interrupted n)
      r.endpoint
    (a.mapError Mishap.systemFault, { r with endpoint := e })
  else (.error notOpen, r)

def Reader.close (r : Reader ε) : Except Fault Unit × Reader ε := (.ok (), { r with isOpen := false })

instance : Device (Reader ε) where
  abilities _ := { read := true, close := true }
  read := Reader.read
  close := Reader.close

def Writer.write (bytes : Bytes) (w : Writer ε) : Except Fault Nat × Writer ε :=
  if w.isOpen then
    let (a, e) := retry (Endpoint.write bytes) Endpoint.interruptions
      (Endpoint.write_interrupted bytes) w.endpoint
    (a.mapError Mishap.systemFault, { w with endpoint := e })
  else (.error notOpen, w)

def Writer.flush (w : Writer ε) : Except Fault Unit × Writer ε :=
  if w.isOpen then
    let (a, e) := retry Endpoint.flush Endpoint.interruptions Endpoint.flush_interrupted w.endpoint
    (a.mapError Mishap.systemFault, { w with endpoint := e })
  else (.error notOpen, w)

/-- the endpoint is flushed once more, without a second try, and then given up -/
def Writer.close (w : Writer ε) : Except Fault Unit × Writer ε :=
  if w.isOpen then
    let (a, e) := Endpoint.flush w.endpoint
    (a.mapError Mishap.systemFault, { endpoint := e, isOpen := false })
  else (.ok (), w)

instance : Device (Writer ε) where
  abilities _ := { write := true, close := true }
  write := Writer.write
  flush := Writer.flush
  close := Writer.close

end

/-! ## scripts as endpoints -/

namespace Script

/-- how many actions of its queues a script has not used yet -/
def planned (s : Script) : Nat := s.reads.length + s.writes.length + s.flushes.length

theorem next_fail {q rest : List Action} {m : Mishap} (h : next q = (.fail m, rest)) :
    rest.length < q.length := by
  cases q with
  | nil => simp [next] at h
  | cons a q => simp [next] at h; simp [h.2]

theorem planned_read (n : Nat) (s : Script) (m : Mishap) (s' : Script)
    (h : s.read n = (.error m, s')) : s'.planned < s.planned := by
  unfold read at h
  split at h
  next a rest hq =>
    dsimp only at h
    split at h
    · next m' =>
      have := next_fail hq
      simp only [Prod.mk.injEq] at h
      rw [← h.2]
      simp only [planned, record]
      omega
    · simp at h

theorem planned_write (bytes : Bytes) (s : Script) (m : Mishap) (s' : Script)
    (h : s.write bytes = (.error m, s')) (hm : m.interrupts = true) : s'.planned < s.planned := by
  unfold write at h
  split at h
  next a rest hq =>
    dsimp only at h
    split at h
    · next m' =>
      have := next_fail hq
      simp only [Prod.mk.injEq] at h
      rw [← h.2]
      simp only [planned, record]
      omega
    · split at h
      · simp at h
      · split at h
        · simp only [Prod.mk.injEq, Except.error.injEq] at h
          rw [← h.1] at hm
          simp [Mishap.interrupts, Errno.intr] at hm
        · simp at h

theorem planned_flush (s : Script) (m : Mishap) (s' : Script)
    (h : s.flush = (.error m, s')) : s'.planned < s.planned := by
  unfold flush at h
  split at h
  next a rest hq =>
    dsimp only at h
    split at h
    · next m' =>
      have := next_fail hq
      simp only [Prod.mk.injEq] at h
      rw [← h.2]
      simp only [planned, record]
      omega
    · simp at h

end Script

instance : Endpoint Script where
  read := Script.read
  write := Script.write
  flush := Script.flush
  interruptions := Script.planned
  read_interrupted n e m e' h _ := Script.planned_read n e m e' h
  write_interrupted := Script.planned_write
  flush_interrupted e m e' h _ := Script.planned_flush e m e' h

end BufferedStreams
