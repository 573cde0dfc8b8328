import BufferedStreams.Proofs.Runs
import BufferedStreams.Proofs.Trace

/-!
# No output is lost

Every byte that writes took is either at the device or still pending, once and in order:

  what the device accepted ++ what is outstanding = what was taken

Every step and every leap keeps this balance (`Step.output`, `Leap.output`), so every run does
(`output_conserved`).  What leaves nothing outstanding has therefore brought everything to the device.
-/

namespace BufferedStreams.Stream

variable {δ : Type}

/-- the output that was taken and is not at the device; a reading stream has none -/
def outstanding (s : Stream δ) : Bytes := if s.writing then s.buffer.pending else []

theorem outstanding_writing {s : Stream δ} (w : s.writing = true) :
    s.outstanding = s.buffer.pending := by
  rw [outstanding, if_pos w]

theorem outstanding_reading {s : Stream δ} (r : s.writing = false) : s.outstanding = [] := by
  rw [outstanding, if_neg (by simp [r])]

theorem outstanding_settled {s : Stream δ} (h : s.writing = true → s.buffer.pendingSize = 0) :
    s.outstanding = [] := by
  cases w : s.writing with
  | false => exact outstanding_reading w
  | true => rw [outstanding_writing w, Buffer.pending_eq_nil (h w)]

theorem length_outstanding {s : Stream δ} (w : s.writing = true) (sound : s.Sound) :
    s.outstanding.length = s.buffer.pendingSize := by
  rw [outstanding_writing w, Buffer.length_pending sound.buffer]

/-- a stream that keeps reading keeps its balance if the device accepts nothing -/
theorem output_reading {s s' : Stream (Recorded δ)} (r : s.writing = false)
    (r' : s'.writing = false) (h : s'.device.accepted = s.device.accepted) :
    s'.device.accepted ++ s'.outstanding = s.device.accepted ++ s.outstanding := by
  rw [outstanding_reading r, outstanding_reading r', h]

variable [Device δ] {s s' : Stream (Recorded δ)} {g t : Bytes} {leaps : Bool}

theorem syncAppend_accepted (s : Stream (Recorded δ)) :
    s.syncAppend.device.accepted = s.device.accepted := by
  unfold syncAppend
  split
  · rcases call : Device.seek 0 .current s.device with ⟨_ | pos, d⟩
    · exact Recorded.accepted_seek call
    · exact Recorded.accepted_seek call
  · rfl

/-- a step brings what it takes into the balance and nothing else -/
theorem Step.output (h : Step s g t s') (sound : s.Sound) :
    s'.device.accepted ++ s'.outstanding = s.device.accepted ++ s.outstanding ++ t := by
  cases h with
  | @accepted n d w able call n_pos part =>
    rw [outstanding_writing w, outstanding_writing (by exact w), Recorded.accepted_write call,
      Buffer.pending_markDrained (sound.collecting w).drained_le, List.append_nil,
      List.append_assoc]
    exact congrArg _ (List.take_append_drop n s.buffer.pending)
  | @cleared n d w able call n_pos all =>
    have hp : s.buffer.pending.take n = s.buffer.pending := by
      rw [List.take_of_length_le]
      rw [Buffer.length_pending sound.buffer]
      exact all
    rw [outstanding_writing w, syncAppend_accepted, outstanding_settled, List.append_nil,
      List.append_nil]
    · rw [Recorded.accepted_write call]
      exact congrArg _ hp
    · intro _
      rw [syncAppend_buffer]
      exact Buffer.pendingSize_forgetOutput s.buffer
  | refused w able call none =>
    rw [List.append_nil]
    exact congrArg (· ++ s.outstanding) (Recorded.accepted_refusal call none)
  | notified w able settled call =>
    rw [List.append_nil]
    exact congrArg (· ++ s.outstanding) (Recorded.accepted_flush call)
  | @wrote bytes n d w able settled call n_pos =>
    rw [outstanding_settled fun _ => settled, outstanding_settled (by exact fun _ => settled),
      List.append_nil, List.append_nil]
    exact Recorded.accepted_write call
  | synced w settled =>
    rw [syncAppend_accepted, List.append_nil, outstanding, outstanding, syncAppend_writing,
      syncAppend_buffer]
  | stored bytes w space =>
    rw [outstanding_writing w, outstanding_writing (by exact w),
      Buffer.pending_append sound.buffer, List.append_assoc]
  | filled r able dry bare call =>
    rw [List.append_nil]
    exact output_reading r r (Recorded.accepted_read call)
  | unfilled r able dry bare call =>
    rw [List.append_nil]
    exact output_reading r r (Recorded.accepted_read call)
  | lacking r dry bare =>
    rw [List.append_nil]
    exact output_reading r r rfl
  | pulled r able empty start bare n_pos call =>
    rw [List.append_nil]
    exact output_reading r r (Recorded.accepted_read call)
  | balked r able n_pos call =>
    rw [List.append_nil]
    exact output_reading r r (Recorded.accepted_read call)
  | handed n r bare =>
    rw [List.append_nil]
    exact output_reading r r rfl
  | returned n r =>
    rw [List.append_nil]
    exact output_reading r r rfl
  | emptied r dry bare =>
    rw [List.append_nil]
    exact output_reading r r rfl
  | noted m c upto => exact (List.append_nil _).symm
  | restyled b name settled => exact (List.append_nil _).symm

theorem Leap.output (h : Leap s s') (sound : s.Sound) :
    s'.device.accepted ++ s'.outstanding = s.device.accepted ++ s.outstanding := by
  cases h with
  | turned w settled => rw [outstanding_reading rfl, outstanding_settled fun _ => settled]
  | started r empty bare =>
    rw [outstanding_reading r, outstanding_settled]
    intro _
    have := (sound.serving r).cursor_le
    show s.buffer.cursor - s.buffer.drained = 0
    omega
  | dropped r => exact output_reading r r rfl
  | moved r able call => exact output_reading r r (Recorded.accepted_seek call)
  | unmoved r able call => exact output_reading r r (Recorded.accepted_seek call)
  | pushedBack bytes r => exact output_reading r r rfl
  | skipped r ok => exact output_reading r r rfl
  | unmarked m => rfl

theorem Path.output (h : Path leaps s g t s') (sound : s.Sound) :
    s'.device.accepted ++ s'.outstanding = s.device.accepted ++ s.outstanding ++ t := by
  induction h with
  | refl => exact (List.append_nil _).symm
  | step h _ ih => rw [ih (h.sound sound), h.output sound, List.append_assoc]
  | leap h _ ih => rw [ih (h.sound sound), h.output sound]

/-! ## what brings everything to the device -/

theorem flush_outstanding (h : s.flush = (.ok (), s')) : s'.outstanding = [] := by
  apply outstanding_settled
  intro w
  have hp : Path false s [] [] s.flush.2 := flush_path
  rw [h] at hp
  exact flush_ok h (hp.writing.symm.trans w)

theorem flush_accepted (h : s.flush = (.ok (), s')) (sound : s.Sound) :
    s'.device.accepted = s.device.accepted ++ s.outstanding := by
  have hp : Path false s [] [] s.flush.2 := flush_path
  have hb := hp.output sound
  rw [h, List.append_nil] at hb
  rwa [flush_outstanding h, List.append_nil] at hb

theorem seek_accepted {off : Int} {w : Whence} {pos : Nat} (h : s.seek off w = (.ok pos, s'))
    (sound : s.Sound) : s'.device.accepted = s.device.accepted ++ s.outstanding := by
  have hb := (seek_path off w : Path true s _ _ _).output sound
  rw [h, List.append_nil] at hb
  rwa [outstanding_reading (seek_reading h), List.append_nil] at hb

theorem release_accepted (s : Stream (Recorded δ)) :
    s.release.2.device.accepted = s.device.accepted := by
  unfold release
  split
  · rcases call : Device.close s.device with ⟨r, d⟩
    exact Recorded.accepted_close call
  · rfl

/-- a close that succeeds has flushed -/
theorem close_accepted (h : s.close = (.ok (), s')) (opn : s.closed = false) (sound : s.Sound) :
    s'.device.accepted = s.device.accepted ++ s.outstanding := by
  rw [close, if_neg (by simp [opn])] at h
  rcases hf : s.flush with ⟨_ | _, u⟩
  · rw [hf] at h
    cases h
  · rw [hf] at h
    obtain rfl : u.release.2.retire = s' := congrArg Prod.snd h
    exact (release_accepted u).trans (flush_accepted hf sound)

theorem close_pending (h : s.close = (.ok (), s')) (opn : s.closed = false) :
    s'.buffer.pending = [] := by
  rw [close, if_neg (by simp [opn])] at h
  have hs : s' = (s.flush.2.release).2.retire := (congrArg Prod.snd h).symm
  rw [hs]
  exact Buffer.pending_eq_nil rfl

/-- Whatever the device does, what writes took is what the device accepted and what is pending, once
and in order.  A flush of a writing stream, a seek or a close that succeeds leaves nothing pending,
and then all of it is at the device. -/
theorem output_conserved (o : Opening) (d : δ) (m : OpenMode) (ops : List Op) :
    let start := opened o ({ inner := d } : Recorded δ) m
    let s := after ops start
    s.device.accepted ++ s.outstanding = taken ops start ∧
      (∀ s', s.flush = (.ok (), s') → s.writing = true →
        s'.buffer.pending = [] ∧ s'.device.accepted = taken ops start) ∧
      (∀ off w pos s', s.seek off w = (.ok pos, s') →
        s'.writing = false ∧ s'.device.accepted = taken ops start) ∧
      (∀ s', s.close = (.ok (), s') →
        s'.buffer.pending = [] ∧ s'.device.accepted = taken ops start) := by
  intro start s
  have path : Path true start (given ops start) (taken ops start) s :=
    after_path ops (opened_sound _ _ _)
  have sound : s.Sound := after_sound ops (opened_sound _ _ _)
  have opn : s.closed = false := path.constant.2.2
  have balance : s.device.accepted ++ s.outstanding = taken ops start := by
    rw [path.output (opened_sound _ _ _)]
    have fresh : start.device.accepted ++ start.outstanding = [] := by
      rw [outstanding_settled fun _ => rfl]
      rfl
    rw [fresh, List.nil_append]
  refine ⟨balance, ?_, ?_, ?_⟩
  · intro s' h w
    exact ⟨Buffer.pending_eq_nil (flush_ok h w), (flush_accepted h sound).trans balance⟩
  · intro off w pos s' h
    exact ⟨seek_reading h, (seek_accepted h sound).trans balance⟩
  · intro s' h
    exact ⟨close_pending h opn, (close_accepted h opn sound).trans balance⟩

end BufferedStreams.Stream
