import BufferedStreams.Proofs.SparseFile

/-!
# Calls that fail

A call of a memory device that fails leaves the storage and the data as they were, and the cursor too,
with one exception: a write of an append device goes to the end of the data before it finds that there
is no room, and stays there (`failed_call_atomic`).

* `FileCall.effect`   what a call amounts to: itself if it succeeds; a failed write of an append
                      device amounts to a seek to the end of the data, any other failed call to
                      nothing;
* `after_effects`     a run leaves the device as the effects of its calls do.
-/

namespace BufferedStreams

theorem Slab.wipe_zero (s : Slab) (pos : Nat) : s.wipe pos 0 = s := by
  unfold wipe
  split
  · rfl
  · next lt =>
    have cut : s.known.take pos ++ s.known.drop pos = s.known := List.take_append_drop _ _
    simp only [Nat.add_zero, if_neg lt, zeros_zero, List.nil_append, cut]

namespace Memory

variable {m : Memory}

/-! ## one call -/

theorem writeHere_error {bytes : Bytes} {f : Fault} {d : Memory}
    (h : m.writeHere bytes = (.error f, d)) : d = m := by
  unfold writeHere at h
  dsimp only at h
  split at h
  · cases h
  · split at h
    · split at h
      · cases h
        rfl
      · split at h
        · cases h
        · cases h
          rfl
    · cases h

/-- a failed write has gone to the place where it would have started -/
theorem write_error {bytes : Bytes} {f : Fault} {d : Memory} (h : m.write bytes = (.error f, d)) :
    d = m.forWrite := by
  rw [write_writeHere] at h
  split at h
  · cases h
  · exact writeHere_error h

theorem seek_error {off : Int} {w : Whence} {f : Fault} {d : Memory}
    (h : m.seek off w = (.error f, d)) : d = m := by
  rcases seek_cases m off w with ⟨g, hs⟩ | ⟨pos, size, -, hs, -⟩
  · rw [hs] at h
    cases h
    rfl
  · rw [hs] at h
    cases h

/-- A call that fails changes neither the storage nor the length of the data.  It leaves the cursor
where it was, unless it is a write of an append device, which leaves the cursor at the end of the
data. -/
theorem failed_call_atomic (m : Memory) :
    (∀ bytes f d, m.write bytes = (.error f, d) →
        d = { m with cursor := if m.plan.append then m.length else m.cursor }) ∧
      ∀ off w f d, m.seek off w = (.error f, d) → d = m := by
  refine ⟨?_, ?_⟩
  · intro bytes f d h
    rw [write_error h, forWrite]
    split <;> rfl
  · intro off w f d h
    exact seek_error h

/-- no room for one more byte behind four, and no place in front of the first one -/
theorem failed_call_atomic_four :
    let m := ofData [1, 2, 3, 4] { limit := some 4 }
    (∃ d, m.write [5, 6, 7, 8, 9] = (.error .outOfSpace, d) ∧ d = m) ∧
      ∃ d, m.seek (-1) .start = (.error (.invalid .beforeStart), d) ∧ d = m :=
  have atomic := failed_call_atomic (ofData [1, 2, 3, 4] { limit := some 4 })
  ⟨⟨_, rfl, atomic.1 [5, 6, 7, 8, 9] .outOfSpace _ rfl⟩,
    ⟨_, rfl, atomic.2 (-1) .start (.invalid .beforeStart) _ rfl⟩⟩

/-- the cursor of an append device goes to the end of the data by a write that fails -/
theorem failed_append_moves :
    let p : Plan := { limit := some 4, append := true }
    let m := ofData [1, 2, 3, 4] p
    Made p m [1, 2, 3, 4] 4 ∧ (m.write [5]).1 = .error .outOfSpace ∧
      m.cursor = 0 ∧ (m.write [5]).2.cursor = 4 :=
  ⟨.ofData _, rfl, rfl, rfl⟩

/-! ## a run -/

/-- what a call amounts to -/
def FileCall.effect (m : Memory) (c : FileCall) : List FileCall :=
  match (c.perform m).1, c with
  | .failed _, .write _ => if m.plan.append then [.seek 0 .finish] else []
  | .failed _, _ => []
  | _, _ => [c]

def effects : List FileCall → Memory → List FileCall
  | [], _ => []
  | c :: cs, m => c.effect m ++ effects cs (c.perform m).2

theorem after_append (cs cs' : List FileCall) (m : Memory) :
    after (cs ++ cs') m = after cs' (after cs m) := by
  induction cs generalizing m with
  | nil => rfl
  | cons c cs ih => exact ih _

/-- a sound device whose storage is not too large for a seek to its end -/
structure Countable (m : Memory) : Prop extends m.Sound where
  small : m.capacity < wordRange

theorem Countable.grown (h : m.Countable) {size : Nat} (le : size ≤ allocatable) :
    (m.grown size).Countable where
  toSound := sound_grown h.toSound size
  small := by
    have small := h.small
    have : allocatable < wordRange := by decide
    rw [capacity_grown]
    omega

theorem Countable.forWrite (h : m.Countable) : m.forWrite.Countable where
  toSound := sound_forWrite h.toSound
  small := by
    rw [capacity_forWrite]
    exact h.small

theorem Countable.perform (h : m.Countable) (c : FileCall) : (c.perform m).2.Countable := by
  cases c with
  | read n => exact ⟨sound_forward h.toSound n, h.small⟩
  | write bytes =>
    by_cases hb : bytes = []
    · rw [hb]
      exact h
    · show (m.write bytes).2.Countable
      rcases write_cases h.toSound hb with ⟨f, hw⟩ | ⟨n, size, le, hw, hn, fits⟩
      · rw [hw]
        exact h.forWrite
      · rw [hw]
        have grown := h.forWrite.grown le
        refine ⟨sound_put grown.toSound ?_, ?_⟩
        · rw [List.length_take_of_le hn]
          exact fits
        · rw [capacity_put]
          exact grown.small
  | seek off w =>
    show (m.seek off w).2.Countable
    rcases seek_cases m off w with ⟨f, hs⟩ | ⟨pos, size, le, hs, fits⟩
    · rw [hs]
      exact h
    · rw [hs]
      have grown := h.grown le
      refine ⟨sound_moveTo grown.toSound fits, ?_⟩
      rw [capacity_moveTo]
      exact grown.small

/-- a seek to the end of the data moves the cursor there -/
theorem seek_finish (h : m.Countable) :
    m.seek 0 .finish = (.ok m.length, { m with cursor := m.length }) := by
  have small := h.small
  have le := h.length_le
  have here : (m.base .finish : Int) + 0 = m.length := Int.add_zero _
  obtain ⟨hs, -⟩ := seek_within h.toSound here (Nat.le_refl _) (by omega)
  rw [hs, moveTo, Nat.sub_self, Slab.wipe_zero, Nat.max_self]

/-- a call leaves what it amounts to leaves -/
theorem after_effect (h : m.Countable) (c : FileCall) :
    after (c.effect m) m = (c.perform m).2 := by
  cases c with
  | read n => rfl
  | write bytes =>
    rcases hw : m.write bytes with ⟨f | n, d⟩
    · simp only [FileCall.effect, FileCall.perform, hw, FileAnswer.ofCount]
      rw [write_error hw, Memory.forWrite]
      split
      · simp only [after, FileCall.perform, seek_finish h]
      · rfl
    · simp only [FileCall.effect, FileCall.perform, hw, FileAnswer.ofCount, after]
  | seek off w =>
    rcases hs : m.seek off w with ⟨f | n, d⟩
    · simp only [FileCall.effect, FileCall.perform, hs, FileAnswer.ofCount, after]
      exact (seek_error hs).symm
    · simp only [FileCall.effect, FileCall.perform, hs, FileAnswer.ofCount, after]

theorem Countable.effects (h : m.Countable) (calls : List FileCall) :
    after (effects calls m) m = after calls m := by
  induction calls generalizing m with
  | nil => rfl
  | cons c calls ih =>
    rw [Memory.effects, after_append, after_effect h]
    exact ih (h.perform c)

/-- Take a memory device just made, and any calls.  The device is left as by the calls that succeed
alone, if each failed write of an append device is made a seek to the end of the data. -/
theorem after_effects {p : Plan} {content : Bytes} {first : Nat} (made : Made p m content first)
    (small : first < offsetRange) (calls : List FileCall) :
    after (effects calls m) m = after calls m := by
  have stands := made.stands small
  have countable : m.Countable := by
    refine ⟨stands.sound, Nat.lt_trans stands.small ?_⟩
    decide
  exact countable.effects calls

end Memory

end BufferedStreams
