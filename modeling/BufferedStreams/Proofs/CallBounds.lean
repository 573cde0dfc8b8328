import BufferedStreams.Proofs.Strategy

/-!
# How often the device is called

Every round of a loop that calls the device ends the loop or moves a byte, whatever the device answers:
a count of zero ends it, a count beyond what was asked for is brought down, and a failure ends it.  So
the bytes to be moved bound the calls.

* `Recorded.Costs`   at most so many reads and so many writes between two states of a device;
* `drain_costs`, `push_costs`, `stow_costs`, `pull_costs`, `readStocked_costs`   one bound for each loop;
* `Rounds`           the loop of a buffered write without a look at whether its buffer has room, round
                     by round; `stow_rounds` runs it to its end;
* `calls_bounded`    the bounds in every state that a stream can come to.
-/

namespace BufferedStreams

namespace Event

def reads : Event → Bool
  | read _ _ => true
  | _ => false

def writes : Event → Bool
  | write _ _ => true
  | _ => false

end Event

namespace Recorded

variable {δ : Type} {d d' d'' : Recorded δ} {r w r' w' : Nat}

/-- between the two states the device is read at most `r` times and written at most `w` times -/
def Costs (r w : Nat) (d d' : Recorded δ) : Prop :=
  ∃ later, d'.events = d.events ++ later ∧ later.countP Event.reads ≤ r ∧
    later.countP Event.writes ≤ w

namespace Costs

theorem free (d : Recorded δ) : d.Costs 0 0 d := ⟨[], by simp⟩

theorem trans (h : d.Costs r w d') (h' : d'.Costs r' w' d'') : d.Costs (r + r') (w + w') d'' := by
  obtain ⟨first, e, reads, writes⟩ := h
  obtain ⟨second, e', reads', writes'⟩ := h'
  refine ⟨first ++ second, by rw [e', e, List.append_assoc], ?_, ?_⟩ <;> rw [List.countP_append] <;>
    omega

theorem mono (h : d.Costs r w d') (hr : r ≤ r') (hw : w ≤ w') : d.Costs r' w' d' := by
  obtain ⟨later, e, reads, writes⟩ := h
  exact ⟨later, e, Nat.le_trans reads hr, Nat.le_trans writes hw⟩

/-- one call is paid for -/
theorem call {e : Event} (h : d'.events = d.events ++ [e]) :
    d.Costs (if e.reads then 1 else 0) (if e.writes then 1 else 0) d' :=
  ⟨[e], h, by rw [List.countP_singleton], by rw [List.countP_singleton]⟩

end Costs

end Recorded

namespace Stream

open Recorded (Costs events_read events_write events_flush events_seek)

variable {δ : Type} [Device δ] {s s' : Stream (Recorded δ)}

/-! ## draining -/

theorem syncAppend_costs (s : Stream (Recorded δ)) : s.device.Costs 0 0 s.syncAppend.device := by
  unfold syncAppend
  split
  · rcases call : Device.seek 0 .current s.device with ⟨_ | pos, d⟩
    · exact Costs.call (events_seek call)
    · exact Costs.call (events_seek call)
  · exact .free _

theorem notify_costs (s : Stream (Recorded δ)) : s.device.Costs 0 0 s.notify.2.device := by
  unfold notify
  rcases call : Device.flush s.device with ⟨_ | _, d⟩
  · exact Costs.call (events_flush call)
  · exact Costs.call (events_flush call)

/-- each write of a drain takes a pending byte, or ends the drain with one left -/
theorem drain_costs (s : Stream (Recorded δ)) :
    s.device.Costs 0 s.buffer.pendingSize s.drain.2.device := by
  induction s using drain_induct with
  | idle s h0 =>
    rw [drain_idle h0, h0]
    exact .free _
  | lacking s h0 able =>
    rw [drain_lacking h0 able]
    exact (Costs.free s.device).mono (Nat.le_refl 0) (Nat.zero_le _)
  | refused s r d h0 able call none =>
    rw [drain_refusal h0 able call none]
    have cost : s.device.Costs 0 1 d := Costs.call (events_write call)
    exact cost.mono (Nat.le_refl 0) (Nat.pos_of_ne_zero h0)
  | part s n d able call n_pos hlt ih =>
    rw [drain_part able call n_pos hlt]
    have cost : s.device.Costs 0 1 (s.afterPart n d).device := Costs.call (events_write call)
    have left : (s.afterPart n d).buffer.pendingSize = s.buffer.pendingSize - n :=
      Buffer.pendingSize_markDrained s.buffer n
    exact (cost.trans ih).mono (Nat.le_refl 0) (by omega)
  | all s n d able call some hle =>
    rw [drain_all able call some hle]
    have write : s.device.Costs 0 1 (s.afterPart s.buffer.pendingSize d).device :=
      Costs.call (events_write call)
    have sync := syncAppend_costs (s.afterPart s.buffer.pendingSize d).advance
    have cost := (write.trans sync).trans (notify_costs (s.afterAll d))
    exact cost.mono (Nat.le_refl 0) (by omega)

theorem flush_costs (sound : s.Sound) :
    s.device.Costs 0 s.outstanding.length s.flush.2.device := by
  unfold flush
  split
  · next w =>
    rw [length_outstanding w sound]
    exact drain_costs s
  · exact (Costs.free s.device).mono (Nat.le_refl 0) (Nat.zero_le _)

/-! ## turning -/

theorem turnToRead_costs (sound : s.Sound) :
    s.device.Costs 0 s.outstanding.length s.turnToRead.2.device := by
  unfold turnToRead
  split
  · next w =>
    have drained := drain_costs s
    rw [length_outstanding w sound]
    rcases hd : s.drain with ⟨_ | _, u⟩ <;> rw [hd] at drained <;> exact drained
  · exact (Costs.free s.device).mono (Nat.le_refl 0) (Nat.zero_le _)

theorem moveDevice_costs (off : Int) (w : Whence) (s : Stream (Recorded δ)) :
    s.device.Costs 0 0 (s.moveDevice off w).2.device := by
  unfold moveDevice
  dsimp only
  generalize (if w = .current then off - s.ahead else off) = target
  split
  · exact .free _
  · rcases call : Device.seek target w s.device with ⟨_ | pos, d⟩
    · exact Costs.call (events_seek call)
    · exact Costs.call (events_seek call)

theorem turnToWrite_costs (s : Stream (Recorded δ)) :
    s.device.Costs 0 0 s.turnToWrite.2.device := by
  have moved := moveDevice_costs 0 .current s
  unfold turnToWrite
  split
  · exact .free _
  · split
    · rcases hm : s.moveDevice 0 .current with ⟨f | pos, u⟩
      · rw [hm] at moved
        dsimp only
        split <;> exact moved
      · rw [hm] at moved
        exact moved
    · exact .free _

/-- a turn to writing leaves no more to hand over than there was -/
theorem turnToWrite_pending (h : s.turnToWrite = (.ok (), s')) (sound : s.Sound) :
    s'.buffer.pendingSize = s.outstanding.length := by
  cases w : s.writing with
  | true =>
    rw [turnToWrite_writing w] at h
    cases h
    exact (length_outstanding w sound).symm
  | false =>
    rw [turnToWrite_clears h w, outstanding_reading w]
    exact Nat.zero_sub _

/-! ## writing -/

/-- each write of a direct transfer takes a byte, or ends the transfer with one left -/
theorem push_costs (bytes : Bytes) (s : Stream (Recorded δ)) :
    s.device.Costs 0 bytes.length (s.push bytes).2.device := by
  fun_induction push bytes s with
  | case1 bytes s h0 => exact (syncAppend_costs s).mono (Nat.le_refl 0) (Nat.zero_le _)
  | case2 bytes s h0 d call =>
    have cost : s.device.Costs 0 1 d := Costs.call (events_write call)
    exact cost.mono (Nat.le_refl 0) (Nat.pos_of_ne_zero h0)
  | case3 bytes s h0 n d call k t u hp ih =>
    rw [hp, List.length_drop] at ih
    have cost : s.device.Costs 0 1 d := Costs.call (events_write call)
    exact (cost.trans ih).mono (Nat.le_refl 0) (by omega)
  | case4 bytes s h0 f d call =>
    have cost : s.device.Costs 0 1 d := Costs.call (events_write call)
    exact cost.mono (Nat.le_refl 0) (Nat.pos_of_ne_zero h0)

theorem writeDirect_costs (bytes : Bytes) (s : Stream (Recorded δ)) :
    s.device.Costs 0 (s.buffer.pendingSize + bytes.length) (s.writeDirect bytes).2.device := by
  have drained := drain_costs s
  unfold writeDirect
  rcases hd : s.drain with ⟨_ | _, u⟩
  · rw [hd] at drained
    exact drained.mono (Nat.le_refl 0) (Nat.le_add_right _ _)
  · rw [hd] at drained
    dsimp only
    split
    · exact drained.trans (push_costs bytes u)
    · exact drained.mono (Nat.le_refl 0) (Nat.le_add_right _ _)

theorem push_buffer (bytes : Bytes) (s : Stream (Recorded δ)) :
    (s.push bytes).2.buffer = s.buffer := by
  fun_induction push bytes s with
  | case1 bytes s h0 => exact syncAppend_buffer s
  | case2 bytes s h0 d call => rfl
  | case3 bytes s h0 n d call k t u hp ih =>
    rw [hp] at ih
    exact ih
  | case4 bytes s h0 f d call => rfl

theorem writeDirect_settled {bytes : Bytes} (h : (s.writeDirect bytes).1.stop = none) :
    (s.writeDirect bytes).2.buffer.pendingSize = 0 := by
  unfold writeDirect at h ⊢
  rcases hd : s.drain with ⟨_ | _, u⟩
  · rw [hd] at h
    cases h
  · rw [hd] at h
    dsimp only at h ⊢
    split at h
    · next able =>
      rw [if_pos able, push_buffer]
      exact drain_ok hd
    · cases h

theorem makeSpace_costs (s : Stream (Recorded δ)) :
    s.device.Costs 0 s.buffer.pendingSize s.makeSpace.2.device := by
  unfold makeSpace
  split
  · exact drain_costs s
  · exact (Costs.free s.device).mono (Nat.le_refl 0) (Nat.zero_le _)

/-- what was written to make room is not pending any more -/
theorem makeSpace_paid (h : s.makeSpace = (.ok (), s')) :
    s.device.Costs 0 (s.buffer.pendingSize - s'.buffer.pendingSize) s'.device ∧
      s'.buffer.pendingSize ≤ s.buffer.pendingSize := by
  have costs := makeSpace_costs s
  rw [h] at costs
  unfold makeSpace at h
  split at h
  · rw [drain_ok h]
    exact ⟨costs, Nat.zero_le _⟩
  · cases h
    rw [Nat.sub_self]
    exact ⟨.free _, Nat.le_refl _⟩

/-- a buffered write pays for each write with a byte that was pending or that it was given -/
theorem stow_costs (bytes : Bytes) (s : Stream (Recorded δ)) :
    s.device.Costs 0 (s.buffer.pendingSize + bytes.length) (s.stow bytes).2.device := by
  fun_induction stow bytes s with
  | case1 bytes s h0 => exact (Costs.free s.device).mono (Nat.le_refl 0) (Nat.zero_le _)
  | case2 bytes s h0 f u hm =>
    have made := makeSpace_costs s
    rw [hm] at made
    exact made.mono (Nat.le_refl 0) (Nat.le_add_right _ _)
  | case3 bytes s h0 u hm full =>
    have made := makeSpace_costs s
    rw [hm] at made
    exact made.mono (Nat.le_refl 0) (Nat.le_add_right _ _)
  | case4 bytes s h0 u hm full k t v hv ih =>
    obtain ⟨made, less⟩ := makeSpace_paid hm
    have stored : (u.buffer.append bytes).2.pendingSize ≤ u.buffer.pendingSize + k := by
      rw [Buffer.pendingSize, Buffer.cursor_append, Buffer.drained_append, Buffer.pendingSize]
      omega
    rw [hv, List.length_drop] at ih
    dsimp only at ih
    exact (made.trans ih).mono (Nat.le_refl 0) (by omega)

theorem writeLines_costs (bytes : Bytes) (s : Stream (Recorded δ)) :
    s.device.Costs 0 (s.buffer.pendingSize + bytes.length) (s.writeLines bytes).2.device := by
  unfold writeLines
  rcases hb : splitLastLine? bytes with _ | ⟨lines, tail⟩
  · exact stow_costs bytes s
  · have whole := congrArg List.length (splitLastLine?_eq_some hb)
    rw [List.length_append] at whole
    have direct := writeDirect_costs lines s
    have settled : (s.writeDirect lines).1.stop = none → _ := writeDirect_settled
    dsimp only
    rcases hd : s.writeDirect lines with ⟨⟨count, _ | f⟩, u⟩
    · rw [hd] at direct settled
      have rest := stow_costs tail u
      rw [show u.buffer.pendingSize = 0 from settled rfl, Nat.zero_add] at rest
      exact (direct.trans rest).mono (Nat.le_refl 0) (by omega)
    · rw [hd] at direct
      exact direct.mono (Nat.le_refl 0) (by omega)

theorem emit_costs (bytes : Bytes) (sound : s.Sound) :
    s.device.Costs 0 (s.outstanding.length + bytes.length) (s.emit bytes).2.device := by
  have turned := turnToWrite_costs s
  rcases ht : s.turnToWrite with ⟨_ | _, u⟩
  · rw [ht] at turned
    rw [emit, ht]
    exact turned.mono (Nat.le_refl 0) (Nat.zero_le _)
  · rw [ht] at turned
    have written : u.device.Costs 0 (u.buffer.pendingSize + bytes.length) (s.emit bytes).2.device := by
      rw [emit, ht]
      dsimp only
      split
      · exact writeDirect_costs bytes u
      · exact stow_costs bytes u
      · exact writeLines_costs bytes u
    rw [turnToWrite_pending ht sound] at written
    exact (turned.trans written).mono (Nat.le_refl 0) (by omega)

/-! ## reading -/

theorem fill_costs (s : Stream (Recorded δ)) : s.device.Costs 1 0 s.fill.2.device := by
  unfold fill
  dsimp only
  split
  · rcases call : Device.read s.buffer.capacity s.device with ⟨f | got, d⟩
    · exact Costs.call (events_read call)
    · have cost : s.device.Costs 1 0 d := Costs.call (events_read call)
      dsimp only
      split <;> exact cost
  · exact (Costs.free s.device).mono (Nat.zero_le 1) (Nat.le_refl 0)

theorem stock_costs (s : Stream (Recorded δ)) : s.device.Costs 1 0 s.stock.2.device := by
  unfold stock
  split
  · exact fill_costs s
  · exact (Costs.free s.device).mono (Nat.zero_le 1) (Nat.le_refl 0)

/-- each read of a direct transfer brings a byte, or ends the transfer with one missing -/
theorem pull_costs (n : Nat) (s : Stream (Recorded δ)) :
    s.device.Costs n 0 (s.pull n).2.device := by
  fun_induction pull n s with
  | case1 s => exact .free _
  | case2 n s hn bytes d call =>
    have cost : s.device.Costs 1 0 d := Costs.call (events_read call)
    exact cost.mono (Nat.pos_of_ne_zero hn) (Nat.le_refl 0)
  | case3 n s hn bytes c d call k t u hp ih =>
    rw [hp] at ih
    have cost : s.device.Costs 1 0 d := Costs.call (events_read call)
    exact (cost.trans ih).mono (by omega) (Nat.le_refl 0)
  | case4 n s hn f d call =>
    have cost : s.device.Costs 1 0 d := Costs.call (events_read call)
    exact cost.mono (Nat.pos_of_ne_zero hn) (Nat.le_refl 0)

theorem readDirect_costs (n : Nat) (s : Stream (Recorded δ)) :
    s.device.Costs n 0 (s.readDirect n).2.device := by
  have pulled := pull_costs (n - (s.buffer.take n).1.length)
    ({ s with buffer := (s.buffer.take n).2 } : Stream (Recorded δ)).dropAhead
  unfold readDirect
  dsimp only
  split
  · exact (Costs.free s.device).mono (Nat.zero_le n) (Nat.le_refl 0)
  · split
    · exact pulled.mono (Nat.sub_le _ _) (Nat.le_refl 0)
    · exact (Costs.free s.device).mono (Nat.zero_le n) (Nat.le_refl 0)

/-- each filling of the buffer makes a byte readable, or ends the read with one missing -/
theorem readStocked_costs (n : Nat) (s : Stream (Recorded δ)) :
    s.device.Costs n 0 (s.readStocked n).2.device := by
  have stocked := stock_costs s
  fun_induction readStocked n s with
  | case1 s => exact .free _
  | case2 n s hn f u hs =>
    rw [hs] at stocked
    exact stocked.mono (Nat.pos_of_ne_zero hn) (Nat.le_refl 0)
  | case3 n s hn u hs dry =>
    rw [hs] at stocked
    exact stocked.mono (Nat.pos_of_ne_zero hn) (Nat.le_refl 0)
  | case4 n s hn u hs full k t v hv ih =>
    rw [hs] at stocked
    have rest := ih (stock_costs _)
    rw [hv] at rest
    exact (stocked.trans rest).mono (by omega) (Nat.le_refl 0)

theorem intake_costs (n : Nat) (sound : s.Sound) :
    s.device.Costs n s.outstanding.length (s.intake n).2.device := by
  have turned := turnToRead_costs sound
  unfold intake
  rcases ht : s.turnToRead with ⟨_ | _, u⟩
  · rw [ht] at turned
    exact turned.mono (Nat.zero_le n) (Nat.le_refl _)
  · rw [ht] at turned
    dsimp only
    split
    · exact turned.mono (Nat.zero_le n) (Nat.le_refl _)
    · have rest : 0 + (n - (u.buffer.takePushed n).1.length) ≤ n := by omega
      have direct := readDirect_costs (n - (u.buffer.takePushed n).1.length)
        { u with buffer := (u.buffer.takePushed n).2 }
      have stocked := readStocked_costs (n - (u.buffer.takePushed n).1.length)
        { u with buffer := (u.buffer.takePushed n).2 }
      split
      · exact (turned.trans direct).mono rest (Nat.le_refl _)
      · exact (turned.trans stocked).mono rest (Nat.le_refl _)

/-! ## the loop of a buffered write -/

/-- `n` rounds of the loop that collects `bytes`: make room, take what fits, go on with the rest.  A
round does not ask whether there is room now, so a buffer that stays full would go round for ever -/
inductive Rounds : Nat → Bytes → Stream δ → Outcome → Stream δ → Prop
  | done (s : Stream δ) : Rounds 0 [] s {} s
  | stuck {bytes : Bytes} {s u : Stream δ} {f : Fault} (nonempty : bytes ≠ [])
      (full : s.makeSpace = (.error f, u)) : Rounds 1 bytes s { stop := some f } u
  | round {n : Nat} {bytes : Bytes} {s u v : Stream δ} {t : Outcome} (nonempty : bytes ≠ [])
      (made : s.makeSpace = (.ok (), u))
      (rest : Rounds n (bytes.drop (u.buffer.append bytes).1)
        { u with buffer := (u.buffer.append bytes).2 } t v) :
      Rounds (n + 1) bytes s (t.after (u.buffer.append bytes).1) v

/-- the loop comes to its end, and after no more rounds than there are bytes -/
theorem stow_rounds (bytes : Bytes) (s : Stream δ) (w : s.writing = true) (sound : s.Sound) :
    ∃ n, n ≤ bytes.length ∧ Rounds n bytes s (s.stow bytes).1 (s.stow bytes).2 := by
  fun_induction stow bytes s with
  | case1 bytes s h0 =>
    obtain rfl : bytes = [] := List.length_eq_zero_iff.mp h0
    exact ⟨0, Nat.le_refl 0, .done s⟩
  | case2 bytes s h0 f u hm =>
    have nonempty : bytes ≠ [] := fun h => h0 (congrArg List.length h)
    exact ⟨1, Nat.pos_of_ne_zero h0, .stuck nonempty hm⟩
  | case3 bytes s h0 u hm full => exact absurd full (Nat.ne_of_gt (makeSpace_space hm w sound))
  | case4 bytes s h0 u hm room k t v hv ih =>
    have nonempty : bytes ≠ [] := fun h => h0 (congrArg List.length h)
    have path := makeSpace_path w
    rw [hm] at path
    have hw : u.writing = true := path.writing.trans w
    have stored : Step u [] _ { u with buffer := (u.buffer.append bytes).2 } :=
      .stored bytes hw (Nat.pos_of_ne_zero room)
    obtain ⟨n, few, rounds⟩ := ih hw (stored.sound (path.sound sound))
    have moved : (u.buffer.append bytes).1 = k := by
      simp only [Buffer.append, List.length_take]
      exact Nat.min_comm _ _
    rw [List.length_drop] at few
    rw [hv, ← moved] at rounds
    refine ⟨n + 1, by omega, ?_⟩
    show Rounds (n + 1) bytes s (t.after k) v
    rw [← moved]
    exact .round nonempty hm rounds

/-- Take a stream over any device, after anything that can happen to it, and let `p` bytes be pending.
A read of `n` bytes reads the device at most `n` times, and a flush writes to it at most `p` times; a
write of `n` bytes, of all of them too, writes to it at most `p + n` times and reads it never.  And the
loop of a buffered write ends, wherever it is entered, after no more rounds than it is given bytes. -/
theorem calls_bounded (o : Opening) (d : δ) (m : OpenMode) (acts : List Act) :
    let s := lived acts (opened o ({ inner := d } : Recorded δ) m)
    (∀ n, s.device.Costs n s.outstanding.length (s.read n).2.device) ∧
      (∀ bytes, s.device.Costs 0 (s.outstanding.length + bytes.length) (s.write bytes).2.device ∧
        s.device.Costs 0 (s.outstanding.length + bytes.length) (s.writeAll bytes).2.device) ∧
      s.device.Costs 0 s.outstanding.length s.flush.2.device ∧
      ∀ leaps g t u, Path leaps s g t u → u.writing = true → ∀ bytes,
        ∃ n, n ≤ bytes.length ∧ Rounds n bytes u (u.stow bytes).1 (u.stow bytes).2 := by
  intro s
  have sound : s.Sound := lived_sound acts (opened_sound o _ m)
  refine ⟨?_, ?_, flush_costs sound, ?_⟩
  · intro n
    unfold read
    split
    · exact (Costs.free s.device).mono (Nat.zero_le _) (Nat.zero_le _)
    · exact intake_costs n sound
  · intro bytes
    refine ⟨?_, ?_⟩
    · unfold write
      split
      · exact (Costs.free s.device).mono (Nat.le_refl 0) (Nat.zero_le _)
      · exact emit_costs bytes sound
    · rw [writeAll_snd]
      exact emit_costs bytes sound
  · intro leaps g t u path w bytes
    exact stow_rounds bytes u w (path.sound sound)

/-- a device that takes one byte, then claims to have taken more than it was offered, then fails -/
def fickle : Scripted :=
  { script := { writes := [.atMost 1, .over 5, .fail (.code 5)] }, announced := .all }

/-- two bytes of buffer, of which one is pending when four more are written -/
theorem calls_bounded_four :
    let s := lived [.op (.write [1])]
      (opened { capacity := 2 } ({ inner := fickle } : Recorded Scripted) .both)
    s.writing = true ∧ s.outstanding.length = 1 ∧
      s.device.Costs 0 (s.outstanding.length + 4) (s.write [2, 3, 4, 5]).2.device ∧
      ∃ n, n ≤ 4 ∧ Rounds n [2, 3, 4, 5] s (s.stow [2, 3, 4, 5]).1 (s.stow [2, 3, 4, 5]).2 := by
  intro s
  have w : s.writing = true := by decide +kernel
  have pending : s.outstanding.length = 1 := by decide +kernel
  obtain ⟨-, written, -, ends⟩ := calls_bounded { capacity := 2 } fickle .both [.op (.write [1])]
  exact ⟨w, pending, (written [2, 3, 4, 5]).1, ends false [] [] s (.refl _ _) w [2, 3, 4, 5]⟩

end Stream

end BufferedStreams
