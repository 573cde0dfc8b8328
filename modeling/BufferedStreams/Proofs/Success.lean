import BufferedStreams.Proofs.Transfer

/-!
# What a success says

Operations that succeed leave the marks alone, and a write that does not stop early has taken all of
its bytes.

Main statements: `drain_marks`, `turnToRead_marks`, `turnToWrite_marks`, `emit_all`.
-/

namespace BufferedStreams.Stream

variable {δ : Type} [Device δ] {s s' : Stream δ}

/-! ## draining and turning -/

theorem notify_marks (h : s.notify = (.ok (), s')) : s'.marks = s.marks := by
  unfold notify at h
  split at h
  · cases h
    rfl
  · cases h

@[simp] theorem syncAppend_marks (s : Stream δ) : s.syncAppend.marks = s.marks := by
  obtain ⟨d, base, h⟩ := syncAppend_eq s
  rw [h]

theorem drain_marks (h : s.drain = (.ok (), s')) : s'.marks = s.marks := by
  induction s using drain_induct with
  | idle s h0 =>
    rw [drain_idle h0] at h
    cases h
    rfl
  | lacking s h0 able =>
    rw [drain_lacking h0 able] at h
    cases h
  | refused s r d h0 able call none =>
    obtain ⟨f, hf⟩ := drain_refused h0 able call none
    rw [hf] at h
    cases h
  | part s n d able call n_pos hlt ih => exact ih (drain_part able call n_pos hlt ▸ h)
  | all s n d able call some hle =>
    rw [drain_all able call some hle] at h
    rw [notify_marks h, afterAll_eq]
    exact syncAppend_marks _

theorem turnToRead_marks (h : s.turnToRead = (.ok (), s')) : s'.marks = s.marks := by
  unfold turnToRead at h
  split at h
  · rcases hd : s.drain with ⟨_ | _, u⟩
    · rw [hd] at h
      cases h
    · have hm : u.marks = s.marks := drain_marks hd
      rw [hd] at h
      cases h
      exact hm
  · cases h
    rfl

theorem moveDevice_marks (off : Int) (w : Whence) : (s.moveDevice off w).2.marks = s.marks := by
  unfold moveDevice
  dsimp only
  generalize (if w = .current then off - s.ahead else off) = target
  split
  · rfl
  · split <;> rfl

theorem turnToWrite_marks (h : s.turnToWrite = (.ok (), s')) : s'.marks = s.marks := by
  unfold turnToWrite at h
  split at h
  · cases h
    rfl
  · split at h
    · have hm := moveDevice_marks (s := s) 0 .current
      rcases hd : s.moveDevice 0 .current with ⟨f | pos, u⟩
      · rw [hd] at h hm
        dsimp only at h
        split at h
        · cases h
          exact hm
        · cases h
      · rw [hd] at h hm
        cases h
        exact hm
    · cases h
      rfl

/-! ## writing -/

/-- a write of `bytes` that nothing stops takes all of them and leaves the marks -/
def All (bytes : Bytes) (s : Stream δ) (r : Outcome × Stream δ) : Prop :=
  r.1.stop = none → r.1.count = bytes.length ∧ r.2.marks = s.marks

theorem push_all (bytes : Bytes) (s : Stream δ) : All bytes s (s.push bytes) := by
  intro h
  refine ⟨(push_count bytes s).2 h, ?_⟩
  fun_induction push bytes s with
  | case1 bytes s h0 => exact syncAppend_marks s
  | case2 bytes s h0 d call => cases h
  | case3 bytes s h0 n d call k t u hp ih =>
    rw [hp] at ih
    exact ih h
  | case4 bytes s h0 f d call => cases h

theorem writeDirect_all (bytes : Bytes) (s : Stream δ) : All bytes s (s.writeDirect bytes) := by
  intro h
  refine ⟨(writeDirect_count bytes s).2 h, ?_⟩
  unfold writeDirect at h ⊢
  rcases hd : s.drain with ⟨_ | _, u⟩
  · rw [hd] at h
    cases h
  · rw [hd] at h
    dsimp only at h ⊢
    split at h
    · next able =>
      rw [if_pos able, (push_all bytes u h).2]
      exact drain_marks hd
    · cases h

theorem makeSpace_marks (h : s.makeSpace = (.ok (), s')) : s'.marks = s.marks := by
  unfold makeSpace at h
  split at h
  · exact drain_marks h
  · cases h
    rfl

/-- a buffer that was drained has room -/
theorem drain_space (h : s.drain = (.ok (), s')) (w : s.writing = true) (sound : s.Sound) :
    0 < s'.buffer.space := by
  have hp : Path false s [] [] s.drain.2 := drain_path w
  rw [h] at hp
  have hc : s'.buffer.Collecting := (hp.sound sound).collecting (hp.writing.trans w)
  rw [Buffer.space, hc.settled (drain_ok h)]
  exact hc.room

theorem makeSpace_space (h : s.makeSpace = (.ok (), s')) (w : s.writing = true)
    (sound : s.Sound) : 0 < s'.buffer.space := by
  unfold makeSpace at h
  split at h
  · exact drain_space h w sound
  · next full =>
    cases h
    exact Nat.pos_of_ne_zero full

theorem stow_all (bytes : Bytes) (s : Stream δ) (w : s.writing = true) (sound : s.Sound) :
    All bytes s (s.stow bytes) := by
  intro h
  fun_induction stow bytes s with
  | case1 bytes s h0 => exact ⟨h0.symm, rfl⟩
  | case2 bytes s h0 f u hm => cases h
  | case3 bytes s h0 u hm full => exact absurd full (Nat.ne_of_gt (makeSpace_space hm w sound))
  | case4 bytes s h0 u hm full k t v hv ih =>
    have hp := makeSpace_path w
    rw [hm] at hp
    have hu : u.writing = true := hp.writing.trans w
    have hs : Step u [] _ { u with buffer := (u.buffer.append bytes).2 } :=
      .stored bytes hu (Nat.pos_of_ne_zero full)
    rw [hv, List.length_drop] at ih
    obtain ⟨count, marks⟩ := ih hu (hs.sound (hp.sound sound)) h
    have hk : k ≤ bytes.length := Nat.min_le_left _ _
    have hm' : u.marks = s.marks := makeSpace_marks hm
    refine ⟨?_, marks.trans hm'⟩
    show k + t.count = bytes.length
    dsimp only at count
    omega

theorem writeLines_all (bytes : Bytes) (w : s.writing = true) (sound : s.Sound) :
    All bytes s (s.writeLines bytes) := by
  intro h
  unfold writeLines at h ⊢
  rcases hb : splitLastLine? bytes with _ | ⟨lines, tail⟩
  · rw [hb] at h
    exact stow_all bytes s w sound h
  · rw [hb] at h
    have hl := congrArg List.length (splitLastLine?_eq_some hb)
    rw [List.length_append] at hl
    have path := writeDirect_path lines w
    have direct := writeDirect_all lines s
    dsimp only at h ⊢
    rcases hd : s.writeDirect lines with ⟨⟨count, _ | f⟩, u⟩
    · rw [hd] at h path direct
      obtain ⟨hc, hm⟩ := direct rfl
      obtain ⟨hc', hm'⟩ := stow_all tail u (path.writing.trans w) (path.sound sound) h
      refine ⟨?_, hm'.trans hm⟩
      show count + (u.stow tail).1.count = bytes.length
      dsimp only at hc
      omega
    · rw [hd] at h
      cases h

/-- a write that does not stop early takes all of its bytes and leaves the marks -/
theorem emit_all (bytes : Bytes) (sound : s.Sound) : All bytes s (s.emit bytes) := by
  intro h
  rcases turnToWrite_cases s with ⟨f, d, ht, -⟩ | ⟨u, ht, w, path⟩
  · rw [emit, ht] at h
    cases h
  · have hs := path.sound sound
    rw [emit, ht] at h ⊢
    rw [← turnToWrite_marks ht]
    dsimp only at h ⊢
    split at h
    · exact writeDirect_all bytes u h
    · exact stow_all bytes u w hs h
    · exact writeLines_all bytes w hs h

end BufferedStreams.Stream
