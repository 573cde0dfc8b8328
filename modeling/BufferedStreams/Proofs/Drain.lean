import BufferedStreams.Proofs.Sound

/-!
# How a drain goes

`Stream.drain` offers the pending output again and again.  Seen from the first offer there are five
cases, and `drain_induct` is the induction over them:

* there is nothing to hand over, or the device cannot write;
* the device takes nothing, and the drain fails;
* the device takes a part, and the drain goes on;
* the device takes the rest, the buffer is empty again, and the device is told.
-/

namespace BufferedStreams.Stream

variable {δ : Type} [Device δ]

theorem drain_idle {s : Stream δ} (h : s.buffer.pendingSize = 0) : s.drain = (.ok (), s) := by
  rw [drain, if_pos h]

theorem drain_lacking {s : Stream δ} (h : s.buffer.pendingSize ≠ 0)
    (able : s.abilities.write = false) : s.drain = (.error (.unsupported .write), s.fail) := by
  rw [drain, if_neg h, if_neg (by simp [able])]

/-- the failure of a write that took nothing -/
def refusal : Except Fault Nat → Fault
  | .ok _ => .io .nothingAccepted
  | .error f => f

theorem drain_refusal {s : Stream δ} {r : Except Fault Nat} {d : δ}
    (h : s.buffer.pendingSize ≠ 0) (able : s.abilities.write = true)
    (call : Device.write s.buffer.pending s.device = (r, d)) (none : ∀ n, r = .ok n → n = 0) :
    s.drain = (.error (refusal r), { s with device := d }.fail) := by
  rw [drain, if_neg h, if_pos able, pump, if_neg h, call]
  cases r with
  | error f => rfl
  | ok n =>
    obtain rfl := none n rfl
    rfl

/-- a device that takes nothing makes the drain fail -/
theorem drain_refused {s : Stream δ} {r : Except Fault Nat} {d : δ}
    (h : s.buffer.pendingSize ≠ 0) (able : s.abilities.write = true)
    (call : Device.write s.buffer.pending s.device = (r, d)) (none : ∀ n, r = .ok n → n = 0) :
    ∃ f, s.drain = (.error f, { s with device := d }.fail) :=
  ⟨_, drain_refusal h able call none⟩

/-- the stream after the device took the first `n` bytes of the pending output -/
def afterPart (s : Stream δ) (n : Nat) (d : δ) : Stream δ :=
  { s with device := d, buffer := s.buffer.markDrained n }.count .bytesWritten n

/-- the stream after the device took all pending output -/
def afterAll (s : Stream δ) (d : δ) : Stream δ :=
  (s.afterPart s.buffer.pendingSize d).advance.syncAppend.settleDrain

/-- a device that takes a part leaves a drain of the rest -/
theorem drain_part {s : Stream δ} {n : Nat} {d : δ} (able : s.abilities.write = true)
    (call : Device.write s.buffer.pending s.device = (.ok n, d)) (n_pos : 0 < n)
    (part : n < s.buffer.pendingSize) : s.drain = (s.afterPart n d).drain := by
  obtain ⟨m, rfl⟩ : ∃ m, n = m + 1 := ⟨n - 1, by omega⟩
  have hp : s.buffer.pendingSize ≠ 0 := by omega
  have hq : (s.buffer.markDrained (m + 1)).pendingSize ≠ 0 := by
    rw [Buffer.pendingSize_markDrained]
    omega
  have hk : min (m + 1) s.buffer.pendingSize = m + 1 := Nat.min_eq_left (Nat.le_of_lt part)
  rw [drain, if_neg hp, if_pos able, pump, if_neg hp, call, afterPart, drain]
  simp only [hk]
  rw [if_neg (by exact hq), if_pos (by exact able)]

theorem drain_all {s : Stream δ} {n : Nat} {d : δ} (able : s.abilities.write = true)
    (call : Device.write s.buffer.pending s.device = (.ok n, d))
    (some : 0 < s.buffer.pendingSize) (all : s.buffer.pendingSize ≤ n) :
    s.drain = (s.afterAll d).notify := by
  obtain ⟨m, rfl⟩ : ∃ m, n = m + 1 := ⟨n - 1, by omega⟩
  have hp : s.buffer.pendingSize ≠ 0 := by omega
  have hq : (s.buffer.markDrained s.buffer.pendingSize).pendingSize = 0 := by
    rw [Buffer.pendingSize_markDrained, Nat.sub_self]
  have hk : min (m + 1) s.buffer.pendingSize = s.buffer.pendingSize := Nat.min_eq_right all
  rw [drain, if_neg hp, if_pos able, pump, if_neg hp, call]
  simp only [hk]
  rw [pump, if_pos (by exact hq)]
  rfl

/-- induction over the offers of a drain -/
theorem drain_induct {P : Stream δ → Prop}
    (idle : ∀ s : Stream δ, s.buffer.pendingSize = 0 → P s)
    (lacking : ∀ s : Stream δ, s.buffer.pendingSize ≠ 0 → s.abilities.write = false → P s)
    (refused : ∀ (s : Stream δ) (r : Except Fault Nat) (d : δ), s.buffer.pendingSize ≠ 0 →
      s.abilities.write = true → Device.write s.buffer.pending s.device = (r, d) →
      (∀ n, r = .ok n → n = 0) → P s)
    (part : ∀ (s : Stream δ) (n : Nat) (d : δ), s.abilities.write = true →
      Device.write s.buffer.pending s.device = (.ok n, d) → 0 < n → n < s.buffer.pendingSize →
      P (s.afterPart n d) → P s)
    (all : ∀ (s : Stream δ) (n : Nat) (d : δ), s.abilities.write = true →
      Device.write s.buffer.pending s.device = (.ok n, d) → 0 < s.buffer.pendingSize →
      s.buffer.pendingSize ≤ n → P s)
    (s : Stream δ) : P s := by
  -- the measure is the size of the pending output
  induction hn : s.buffer.pendingSize using Nat.strongRecOn generalizing s with
  | _ k ih =>
    by_cases h0 : s.buffer.pendingSize = 0
    · exact idle s h0
    · cases able : s.abilities.write with
      | false => exact lacking s h0 able
      | true =>
        rcases call : Device.write s.buffer.pending s.device with ⟨r, d⟩
        cases r with
        | error f => exact refused s _ d h0 able call (by simp)
        | ok n =>
          by_cases hn0 : n = 0
          · exact refused s _ d h0 able call (by rintro _ ⟨⟩; exact hn0)
          · by_cases hlt : n < s.buffer.pendingSize
            · refine part s n d able call (Nat.pos_of_ne_zero hn0) hlt (ih _ ?_ _ rfl)
              have hq := Buffer.pendingSize_markDrained s.buffer n
              have hs : (s.afterPart n d).buffer = s.buffer.markDrained n := rfl
              rw [hs, hq]
              omega
            · exact all s n d able call (Nat.pos_of_ne_zero h0) (Nat.le_of_not_lt hlt)

/-- a stream without pending output after everything was taken, whatever else happened -/
theorem afterAll_eq (s : Stream δ) (d : δ) :
    s.afterAll d = { ({ s with
      device := d
      base := s.base + s.buffer.cursor
      buffer := s.buffer.forgetOutput } : Stream δ).syncAppend with
        tally := (s.tally.count .bytesWritten s.buffer.pendingSize).count .flushes 1 } := by
  unfold afterAll syncAppend afterPart advance count
  dsimp only
  split
  · split <;> rfl
  · rfl

@[simp] theorem afterAll_pendingSize (s : Stream δ) (d : δ) :
    (s.afterAll d).buffer.pendingSize = 0 := rfl

@[simp] theorem notify_buffer (s : Stream δ) : s.notify.2.buffer = s.buffer := by
  unfold notify
  split <;> rfl

/-- a drain that succeeds leaves nothing pending -/
theorem drain_ok {s s' : Stream δ} (h : s.drain = (.ok (), s')) : s'.buffer.pendingSize = 0 := by
  induction s using drain_induct with
  | idle s h0 =>
    rw [drain_idle h0] at h
    cases h
    exact h0
  | lacking s h0 able =>
    rw [drain_lacking h0 able] at h
    cases h
  | refused s r d h0 able call none =>
    obtain ⟨f, hf⟩ := drain_refused h0 able call none
    rw [hf] at h
    cases h
  | part s n d able call n_pos hlt ih => exact ih (drain_part able call n_pos hlt ▸ h)
  | all s n d able call some hle =>
    rw [drain_all able call some hle] at h
    have hs : s' = (s.afterAll d).notify.2 := by rw [h]
    rw [hs, notify_buffer, afterAll_pendingSize]

end BufferedStreams.Stream
