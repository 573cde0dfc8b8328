import BufferedStreams.Proofs.Contract

/-!
# Recorded devices

A recorded device does what the device inside it does, and keeps every call with its answer.  So a
stream over a recorded device runs as over the device inside, and what happened at the device can be
told afterwards.

* `Event`             one call with its answer;
* `Recorded δ`        a device with its events, the first one first;
* `Recorded.accepted` the bytes the device took;
* `Recorded.failedReads` how many of its reads failed.
-/

namespace BufferedStreams

/-- a call of a device, with its answer -/
inductive Event where
  | read (n : Nat) (r : Except Fault Delivery)
  | write (bytes : Bytes) (r : Except Fault Nat)
  | flush (r : Except Fault Unit)
  | seek (off : Int) (w : Whence) (r : Except Fault Nat)
  | close (r : Except Fault Unit)

/-- the bytes a call took; a claim to have taken more than was offered means all of it -/
def Event.accepted : Event → Bytes
  | write bytes (.ok n) => bytes.take n
  | _ => []

def Event.failedRead : Event → Bool
  | read _ (.error _) => true
  | _ => false

structure Recorded (δ : Type) where
  inner : δ
  events : List Event := []

namespace Recorded

variable {δ : Type}

/-- the device after a call -/
def keep {α : Type} (d : Recorded δ) (event : α → Event) (r : α × δ) : α × Recorded δ :=
  (r.1, ⟨r.2, d.events ++ [event r.1]⟩)

instance [Device δ] : Device (Recorded δ) where
  abilities d := Device.abilities d.inner
  read n d := d.keep (.read n) (Device.read n d.inner)
  write bytes d := d.keep (.write bytes) (Device.write bytes d.inner)
  flush d := d.keep .flush (Device.flush d.inner)
  seek off w d := d.keep (.seek off w) (Device.seek off w d.inner)
  close d := d.keep .close (Device.close d.inner)
  snatch d := ((Device.snatch d.inner).1, ⟨(Device.snatch d.inner).2, d.events⟩)

def accepted (d : Recorded δ) : Bytes := d.events.flatMap Event.accepted

def failedReads (d : Recorded δ) : Nat := d.events.countP Event.failedRead

theorem keep_accepted {α : Type} {d d' : Recorded δ} {event : α → Event} {r : α × δ} {a : α}
    (h : d.keep event r = (a, d')) : d'.accepted = d.accepted ++ (event a).accepted := by
  obtain ⟨rfl, rfl⟩ := Prod.mk.inj h
  rw [accepted, List.flatMap_append, List.flatMap_singleton, accepted]

variable [Device δ] {d d' : Recorded δ}

theorem accepted_write {bytes : Bytes} {r : Except Fault Nat} (h : Device.write bytes d = (r, d')) :
    d'.accepted = d.accepted ++ (Event.write bytes r).accepted :=
  keep_accepted (show d.keep (.write bytes) _ = (r, d') from h)

/-- a write that takes nothing adds nothing -/
theorem accepted_refusal {bytes : Bytes} {r : Except Fault Nat}
    (h : Device.write bytes d = (r, d')) (none : ∀ n, r = .ok n → n = 0) :
    d'.accepted = d.accepted := by
  rw [accepted_write h]
  cases r with
  | error f => exact List.append_nil _
  | ok n =>
    obtain rfl := none n rfl
    exact List.append_nil _

theorem accepted_read {n : Nat} {r : Except Fault Delivery} (h : Device.read n d = (r, d')) :
    d'.accepted = d.accepted :=
  (keep_accepted (show d.keep (.read n) _ = (r, d') from h)).trans (List.append_nil _)

theorem accepted_flush {r : Except Fault Unit} (h : Device.flush d = (r, d')) :
    d'.accepted = d.accepted :=
  (keep_accepted (show d.keep .flush _ = (r, d') from h)).trans (List.append_nil _)

theorem accepted_seek {off : Int} {w : Whence} {r : Except Fault Nat}
    (h : Device.seek off w d = (r, d')) : d'.accepted = d.accepted :=
  (keep_accepted (show d.keep (.seek off w) _ = (r, d') from h)).trans (List.append_nil _)

theorem accepted_close {r : Except Fault Unit} (h : Device.close d = (r, d')) :
    d'.accepted = d.accepted :=
  (keep_accepted (show d.keep .close _ = (r, d') from h)).trans (List.append_nil _)

theorem inner_read {n : Nat} {r : Except Fault Delivery} (h : Device.read n d = (r, d')) :
    Device.read n d.inner = (r, d'.inner) := by
  obtain ⟨rfl, rfl⟩ := Prod.mk.inj (show d.keep (.read n) _ = (r, d') from h)
  rfl

theorem failedReads_read {n : Nat} {r : Except Fault Delivery} (h : Device.read n d = (r, d')) :
    d'.failedReads = d.failedReads + if (Event.read n r).failedRead then 1 else 0 := by
  obtain ⟨rfl, rfl⟩ := Prod.mk.inj (show d.keep (.read n) _ = (r, d') from h)
  rw [failedReads, List.countP_append, List.countP_singleton, failedReads]

end Recorded

/-- a recorded device delivers what the device inside does, and knows which reads failed -/
def Contents.recorded {δ : Type} [Device δ] (c : Contents δ) : Source (Recorded δ) where
  valid d := c.valid d.inner
  rest d := c.rest d.inner
  failures := Recorded.failedReads
  read ok n_pos call := c.read ok n_pos (Recorded.inner_read call)
  count _ _ call := by
    have h := Recorded.failedReads_read call
    refine ⟨?_, ?_⟩
    · rintro f rfl
      rw [h]
      exact Nat.lt_succ_self _
    · rintro got rfl
      exact h

end BufferedStreams
