import BufferedStreams.Proofs.Drain
import BufferedStreams.Stream.Close

/-!
# How a stream turns and moves

The paths of the operations that hand output over, turn a stream around or move it.  A turn either
succeeds or leaves the stream in its direction: `turnToRead_cases`, `turnToWrite_cases`.  The end of a
stream is on no path, but all that it counts is counted by its flush: `close_turnover`,
`snatch_turnover`.

Main statements: `drain_path`, `flush_path`, `setStrategy_path`, `seek_path`, `rewind_path`.
-/

namespace BufferedStreams.Stream

variable {δ : Type} [Device δ] {s s' s'' : Stream δ} {g t : Bytes} {leaps : Bool}

/-! ## marks and counters -/

theorem Path.snoc_noted (h : Path leaps s g t s') (m : Marks) (c : Tally) (upto : s'.marks.Upto m)
    (kept : c.turnover = s'.turnover) :
    Path leaps s g t { s' with marks := m, tally := c } := by
  have := h.trans (Step.noted (s := s') m c upto kept).path
  rwa [List.append_nil, List.append_nil] at this

theorem Path.snoc (h : Path leaps s g t s') (h' : Path leaps s' [] [] s'') :
    Path leaps s g t s'' := by
  have := h.trans h'
  rwa [List.append_nil, List.append_nil] at this

theorem Path.snoc_count (h : Path leaps s g t s') (c : Counter) (n : Nat)
    (kept : (s'.count c n).turnover = s'.turnover) : Path leaps s g t (s'.count c n) :=
  h.snoc_noted s'.marks _ (Marks.upto_refl _) kept

theorem Path.snoc_fail (h : Path leaps s g t s') : Path leaps s g t s'.fail :=
  h.snoc_noted _ _ ⟨id, fun _ => rfl⟩ rfl

theorem Path.snoc_markEnd (h : Path leaps s g t s') : Path leaps s g t s'.markEnd :=
  h.snoc_noted _ s'.tally ⟨fun _ => rfl, id⟩ rfl

/-! ## handing output over -/

theorem notify_path (w : s.writing = true) (able : s.abilities.write = true)
    (settled : s.buffer.pendingSize = 0) : Path leaps s [] [] s.notify.2 := by
  unfold notify
  rcases call : Device.flush s.device with ⟨r, d⟩
  have h : Path leaps s [] [] { s with device := d } :=
    (Step.notified w able settled call).path
  cases r with
  | ok _ => exact h
  | error f => exact h.snoc_fail

theorem drain_path (w : s.writing = true) : Path leaps s [] [] s.drain.2 := by
  induction s using drain_induct with
  | idle s h0 =>
    rw [drain_idle h0]
    exact .refl _ _
  | lacking s h0 able =>
    rw [drain_lacking h0 able]
    exact (Path.refl _ _).snoc_fail
  | refused s r d h0 able call none =>
    obtain ⟨f, hf⟩ := drain_refused h0 able call none
    rw [hf]
    exact (Step.refused w able call none).path.snoc_fail
  | part s n d able call n_pos hlt ih =>
    rw [drain_part able call n_pos hlt]
    have h : Path leaps s [] [] (s.afterPart n d) :=
      (Step.accepted w able call n_pos hlt).path.snoc_count _ _ rfl
    exact h.trans (ih w)
  | all s n d able call some hle =>
    rw [drain_all able call some hle]
    have h : Path leaps s [] [] (s.afterAll d) := by
      rw [afterAll_eq]
      have h : Path leaps s [] [] _ :=
        (Step.cleared w able call (Nat.lt_of_lt_of_le some hle) hle).path
      have h' := h.snoc_noted _ ((s.tally.count .bytesWritten s.buffer.pendingSize).count .flushes 1)
        (Marks.upto_refl _) (by
          rw [syncAppend_turnover]
          rfl)
      exact h'
    refine h.trans (notify_path ?_ ?_ (afterAll_pendingSize s d))
    · rw [afterAll_eq]
      simpa using w
    · rw [afterAll_eq]
      simpa using able

theorem flush_path : Path leaps s [] [] s.flush.2 := by
  unfold flush
  split
  · next w => exact drain_path w
  · exact .refl _ _

/-- a flush of a writing stream that succeeds leaves nothing pending -/
theorem flush_ok (h : s.flush = (.ok (), s')) (w : s.writing = true) :
    s'.buffer.pendingSize = 0 := by
  rw [flush, if_pos w] at h
  exact drain_ok h

theorem setStrategy_path (b : Buffering) : Path leaps s [] [] (s.setStrategy b).2 := by
  have h : Path leaps s [] [] s.flush.2 := flush_path
  unfold setStrategy
  rcases hf : s.flush with ⟨_ | _, u⟩
  · rw [hf] at h
    exact h
  · rw [hf] at h
    refine h.snoc (Step.restyled b u.name fun w => ?_).path
    -- a stream that writes now wrote before its flush
    have hw : u.writing = s.writing := by
      have h' : Path false s [] [] s.flush.2 := flush_path
      rw [hf] at h'
      exact h'.writing
    exact flush_ok hf (hw ▸ w)

/-! ## turning and moving -/

/-- did the stream turn around? -/
def turns (s s' : Stream δ) : Bool := s.writing != s'.writing

/-- a turn to reading hands the output over; if that fails the stream writes on -/
theorem turnToRead_cases (s : Stream δ) :
    (∃ f s', s.turnToRead = (.error f, s') ∧ s.writing = true ∧ Path false s [] [] s') ∨
      ∃ s', s.turnToRead = (.ok (), s') ∧ s'.writing = false ∧ Path s.writing s [] [] s' := by
  unfold turnToRead
  cases w : s.writing with
  | false =>
    rw [if_neg (by simp)]
    exact .inr ⟨s, rfl, w, .refl _ _⟩
  | true =>
    rw [if_pos rfl]
    have h : Path false s [] [] s.drain.2 := drain_path w
    rcases hd : s.drain with ⟨_ | _, u⟩
    · rw [hd] at h
      exact .inl ⟨_, _, rfl, rfl, h⟩
    · rw [hd] at h
      have hu : u.writing = true := h.writing.trans w
      exact .inr ⟨_, rfl, rfl, h.loose.trans (Leap.turned hu (drain_ok hd)).path⟩

/-- a turn to reading that succeeds leaves the stream reading -/
theorem turnToRead_ok (h : s.turnToRead = (.ok (), s')) : s'.writing = false := by
  rcases turnToRead_cases s with ⟨f, u, ht, -, -⟩ | ⟨u, ht, r, -⟩
  · rw [ht] at h
    cases h
  · rw [ht] at h
    cases h
    exact r

theorem turnToRead_reading (r : s.writing = false) : s.turnToRead = (.ok (), s) := by
  rw [turnToRead, if_neg (by simp [r])]

/-- moving the device moves the stream, or nothing if the device refuses -/
theorem moveDevice_cases (off : Int) (w : Whence) (r : s.writing = false)
    (able : s.abilities.seek = true) :
    (∃ f d, s.moveDevice off w = (.error f, { s with device := d }) ∧
        Path true s [] [] { s with device := d }) ∨
      ∃ pos s', s.moveDevice off w = (.ok pos, s') ∧ s'.writing = false ∧
        s'.buffer = s.buffer.clear ∧ Path true s [] [] s' := by
  unfold moveDevice
  dsimp only
  generalize (if w = .current then off - s.ahead else off) = target
  split
  · exact .inl ⟨_, s.device, rfl, .refl _ _⟩
  · rcases call : Device.seek target w s.device with ⟨_ | pos, d⟩
    · exact .inl ⟨_, d, rfl, (Leap.unmoved r able call).path⟩
    · exact .inr ⟨_, _, rfl, r, rfl, (Leap.moved r able call).path⟩

/-- a turn to writing moves the device back or drops the read-ahead; if the device refuses the stream
reads on as before -/
theorem turnToWrite_cases (s : Stream δ) :
    (∃ f d, s.turnToWrite = (.error f, { s with device := d }.fail) ∧ s.writing = false ∧
        Path true s [] [] { s with device := d }.fail) ∨
      ∃ s', s.turnToWrite = (.ok (), s') ∧ s'.writing = true ∧ Path (!s.writing) s [] [] s' := by
  unfold turnToWrite
  split
  · next w =>
    exact .inr ⟨s, rfl, w, .refl _ _⟩
  · next hw =>
    have r : s.writing = false := Bool.eq_false_iff.mpr hw
    have hb : (!s.writing) = true := by rw [r]; rfl
    have start : ∀ u : Stream δ, u.writing = false → u.buffer.filled = 0 → u.buffer.pushed = [] →
        Path true u [] [] { u with writing := true } :=
      fun u r hf hp => (Leap.started r hf hp).path
    rw [hb]
    split
    · next able =>
      rcases moveDevice_cases 0 .current r able with ⟨f, d, hm, h⟩ | ⟨pos, u, hm, hu, hc, h⟩
      · rw [hm]
        dsimp only
        split
        · exact .inr ⟨_, rfl, rfl, h.snoc (.leap (.dropped r) (start _ r rfl rfl))⟩
        · exact .inl ⟨_, d, rfl, r, h.snoc_fail⟩
      · rw [hm]
        exact .inr ⟨_, rfl, rfl, h.trans (start u hu (by rw [hc]; rfl) (by rw [hc]; rfl))⟩
    · exact .inr ⟨_, rfl, rfl, .leap (.dropped r) (start _ r rfl rfl)⟩

theorem turnToWrite_writing (w : s.writing = true) : s.turnToWrite = (.ok (), s) := by
  rw [turnToWrite, if_pos w]

/-- a turn to writing drops read-ahead and pushback -/
theorem turnToWrite_clears (h : s.turnToWrite = (.ok (), s')) (r : s.writing = false) :
    s'.buffer = s.buffer.clear := by
  rw [turnToWrite, if_neg (by simp [r])] at h
  split at h
  · next able =>
    rcases moveDevice_cases 0 .current r able with ⟨f, d, hm, -⟩ | ⟨pos, u, hm, -, cleared, -⟩
    · rw [hm] at h
      dsimp only at h
      split at h
      · cases h
        rfl
      · cases h
    · rw [hm] at h
      cases h
      exact cleared
  · cases h
    rfl

theorem seek_path (off : Int) (w : Whence) : Path true s [] [] (s.seek off w).2 := by
  unfold seek
  cases able : s.abilities.seek with
  | false =>
    rw [if_neg (by simp)]
    exact (Path.refl _ _).snoc_fail
  | true =>
    rw [if_pos rfl]
    rcases turnToRead_cases s with ⟨f, u, ht, -, h⟩ | ⟨u, ht, r, h⟩
    · rw [ht]
      exact h.loose
    · rw [ht]
      dsimp only
      have able' : u.abilities.seek = true := by rw [h.constant.2.1, able]
      rcases moveDevice_cases off w r able' with ⟨f, d, hm, h'⟩ | ⟨pos, v, hm, -, -, h'⟩
      · rw [hm]
        exact (h.to_true.trans h').snoc_fail
      · rw [hm]
        exact ((h.to_true.trans h').snoc (Leap.unmarked {}).path).snoc_count _ _ rfl

/-- a seek that succeeds leaves the stream reading -/
theorem seek_reading {off : Int} {w : Whence} {pos : Nat} (h : s.seek off w = (.ok pos, s')) :
    s'.writing = false := by
  unfold seek at h
  split at h
  · next able =>
    rcases turnToRead_cases s with ⟨f, u, ht, -, -⟩ | ⟨u, ht, r, hp⟩
    · rw [ht] at h
      cases h
    · rw [ht] at h
      dsimp only at h
      have able' : u.abilities.seek = true := by rw [hp.constant.2.1, able]
      rcases moveDevice_cases off w r able' with ⟨f, d, hm, -⟩ | ⟨p, v, hm, hv, -, -⟩
      · rw [hm] at h
        cases h
      · rw [hm] at h
        cases h
        exact hv
  · cases h

theorem rewind_path : Path true s [] [] s.rewind.2 := by
  have h : Path true s [] [] (s.seek 0 .start).2 := seek_path 0 .start
  unfold rewind
  rcases hs : s.seek 0 .start with ⟨_ | pos, u⟩
  · rw [hs] at h
    exact h
  · rw [hs] at h
    exact h.snoc (Leap.unmarked {}).path

/-! ## the end -/

theorem close_turnover (s : Stream δ) : s.close.2.turnover = s.turnover := by
  have path : Path false s [] [] s.flush.2 := flush_path
  have released : s.flush.2.release.2.turnover = s.flush.2.turnover := by
    unfold release
    split <;> rfl
  unfold close
  split
  · rfl
  · exact released.trans path.turnover

theorem snatch_turnover (s : Stream δ) : s.snatch.2.turnover = s.turnover := by
  have path : Path false s [] [] s.flush.2 := flush_path
  unfold snatch
  rcases hf : s.flush with ⟨_ | _, u⟩ <;> rw [hf] at path
  · exact path.turnover
  · dsimp only
    split <;> exact path.turnover

end BufferedStreams.Stream
