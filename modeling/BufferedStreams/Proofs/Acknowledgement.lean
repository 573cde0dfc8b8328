import BufferedStreams.Device.Script
import BufferedStreams.Proofs.Strategy

/-!
# What a flush that succeeds says

A device that has taken all output is told so, and answers whether all is well.  On a fully buffered
stream it is told each time, before anything else is written; but the buffer forgets the output before
the device answers, so that a flush after a bad answer finds nothing to do and succeeds.

* `Recorded.told`           was the device told since it last took bytes?
* `Recorded.acknowledged`   and did it say that all is well?
* `DrainEnd`                how a drain of some output ends;
* `Stream.Attended`         where no output waits, the device was told: every operation on a fully
                            buffered stream keeps that (`Op.attended`);
* `flush_told`              so a flush that succeeds found the device told, or told it; and one that the
                            device does not acknowledge will not be repeated.
-/

namespace BufferedStreams

namespace Event

/-- does it tell the device that all output was handed over? -/
def tells : Event → Bool
  | flush _ => true
  | _ => false

/-- and does the device answer that all is well? -/
def assents : Event → Bool
  | flush (.ok _) => true
  | _ => false

theorem tells_of_assents {e : Event} (h : e.assents = true) : e.tells = true := by
  cases e with
  | flush r => rfl
  | _ => cases h

end Event

namespace Recorded

variable {δ : Type} {d d' : Recorded δ} {p : Event → Bool} {e : Event}

/-- is there a call of some kind after the last write that took bytes? -/
def lately (p : Event → Bool) (d : Recorded δ) : Bool :=
  (d.events.reverse.takeWhile (·.accepted.isEmpty)).any p

def told (d : Recorded δ) : Bool := d.lately Event.tells

def acknowledged (d : Recorded δ) : Bool := d.lately Event.assents

theorem lately_snoc (h : d'.events = d.events ++ [e]) :
    d'.lately p = (e.accepted.isEmpty && (p e || d.lately p)) := by
  rw [lately, h, List.reverse_append, List.reverse_singleton, List.singleton_append,
    List.takeWhile_cons]
  cases e.accepted.isEmpty with
  | false => rfl
  | true => rfl

/-- as long as the device takes nothing, what it was told stays told -/
theorem lately_quiet (past : d.events <+: d'.events) (quiet : d'.accepted = d.accepted)
    (h : d.lately p = true) : d'.lately p = true := by
  obtain ⟨more, events⟩ := past
  have none : more.flatMap Event.accepted = [] := by
    rw [accepted, accepted, ← events, List.flatMap_append] at quiet
    exact List.append_right_eq_self.mp quiet
  have all : ∀ e ∈ more.reverse, e.accepted.isEmpty = true := by
    intro e mem
    rw [List.flatMap_eq_nil_iff.mp none e (List.mem_reverse.mp mem)]
    rfl
  rw [lately, ← events, List.reverse_append, List.takeWhile_append_of_pos all, List.any_append]
  rw [lately] at h
  rw [h, Bool.or_true]

theorem told_of_acknowledged (h : d.acknowledged = true) : d.told = true := by
  obtain ⟨e, mem, assents⟩ := List.any_eq_true.mp h
  exact List.any_eq_true.mpr ⟨e, mem, Event.tells_of_assents assents⟩

end Recorded

namespace Stream

variable {δ : Type} [Device δ] {s s' : Stream (Recorded δ)} {g : Bytes} {leaps : Bool} {f : Fault}

/-! ## draining -/

theorem syncAppend_acknowledged (s : Stream (Recorded δ)) :
    s.syncAppend.device.acknowledged = s.device.acknowledged := by
  unfold syncAppend
  split
  · rcases call : Device.seek 0 .current s.device with ⟨_ | pos, d⟩
    · exact Recorded.lately_snoc (Recorded.events_seek call)
    · exact Recorded.lately_snoc (Recorded.events_seek call)
  · rfl

/-- the device took the rest, and was not told yet -/
theorem afterAll_acknowledged {n : Nat} {d : Recorded δ} (sound : s.buffer.Sound)
    (call : Device.write s.buffer.pending s.device = (.ok n, d)) (some : 0 < s.buffer.pendingSize)
    (all : s.buffer.pendingSize ≤ n) : (s.afterAll d).device.acknowledged = false := by
  have took : (Event.write s.buffer.pending (.ok n)).accepted ≠ [] := by
    show s.buffer.pending.take n ≠ []
    rw [← List.length_pos_iff, List.length_take, Buffer.length_pending sound]
    omega
  rw [afterAll_eq]
  show Recorded.acknowledged (Stream.syncAppend _).device = false
  rw [syncAppend_acknowledged]
  show d.acknowledged = false
  rw [Recorded.acknowledged, Recorded.lately_snoc (Recorded.events_write call),
    List.isEmpty_eq_false_iff.mpr took, Bool.false_and]

/-- How a drain of some output ends: the device has taken all and says that all is well, or it has
taken all and says something else, or some output is left. -/
inductive DrainEnd : Except Fault Unit → Stream (Recorded δ) → Prop
  | acknowledged {u : Stream (Recorded δ)} (settled : u.buffer.pendingSize = 0)
      (acknowledged : u.device.acknowledged = true) : DrainEnd (.ok ()) u
  | unacknowledged {f : Fault} {u : Stream (Recorded δ)} (settled : u.buffer.pendingSize = 0)
      (told : u.device.told = true) (unacknowledged : u.device.acknowledged = false) :
      DrainEnd (.error f) u
  | stuck {f : Fault} {u : Stream (Recorded δ)} (left : u.buffer.pendingSize ≠ 0) :
      DrainEnd (.error f) u

theorem notify_drainEnd (settled : s.buffer.pendingSize = 0) (untold : s.device.acknowledged = false) :
    DrainEnd s.notify.1 s.notify.2 := by
  unfold notify
  rcases call : Device.flush s.device with ⟨e | _, d⟩
  · have events := Recorded.events_flush call
    refine .unacknowledged settled ?_ ?_
    · exact Recorded.lately_snoc events
    · show d.acknowledged = false
      rw [Recorded.acknowledged, Recorded.lately_snoc events]
      exact untold
  · exact .acknowledged settled (Recorded.lately_snoc (Recorded.events_flush call))

theorem drain_drainEnd (output : s.buffer.pendingSize ≠ 0) (sound : s.buffer.Sound) :
    DrainEnd s.drain.1 s.drain.2 := by
  induction s using drain_induct with
  | idle s h0 => exact absurd h0 output
  | lacking s h0 able =>
    rw [drain_lacking h0 able]
    exact .stuck h0
  | refused s r d h0 able call none =>
    rw [drain_refusal h0 able call none]
    exact .stuck h0
  | part s n d able call n_pos hlt ih =>
    rw [drain_part able call n_pos hlt]
    refine ih ?_ (sound.markDrained n)
    show (s.buffer.markDrained n).pendingSize ≠ 0
    rw [Buffer.pendingSize_markDrained]
    omega
  | all s n d able call some hle =>
    rw [drain_all able call some hle]
    exact notify_drainEnd (afterAll_pendingSize s d) (afterAll_acknowledged sound call some hle)

/-! ## a device that is told -/

/-- where no output waits, the device was told since it last took bytes -/
def Attended (s : Stream (Recorded δ)) : Prop :=
  s.outstanding = [] → s.device.accepted ≠ [] → s.device.told = true

omit [Device δ] in
theorem outstanding_ne_nil (w : s.writing = true) (sound : s.Sound)
    (some : s.buffer.pendingSize ≠ 0) : s.outstanding ≠ [] := by
  rw [outstanding_writing w, ← List.length_pos_iff, Buffer.length_pending sound.buffer]
  omega

/-- where no output waits and none is taken, the device takes none -/
theorem Path.attended (h : Path leaps s g [] s') (sound : s.Sound) (none : s.outstanding = [])
    (hs : s.Attended) : s'.Attended := by
  have less := h.outstanding sound
  -- what the device accepts it gets from the output that waits, of which there is none
  have balance := h.output sound
  rw [none, List.append_nil] at less balance
  rw [List.suffix_nil.mp less, List.append_nil, List.append_nil] at balance
  intro _ some
  rw [balance] at some
  exact Recorded.lately_quiet h.past balance (hs none some)

theorem drain_attended (w : s.writing = true) (sound : s.Sound) (h : s.Attended) :
    s.drain.2.Attended := by
  by_cases h0 : s.buffer.pendingSize = 0
  · rw [drain_idle h0]
    exact h
  · have path : Path false s [] [] s.drain.2 := drain_path w
    have ends := drain_drainEnd h0 sound.buffer
    rcases hd : s.drain with ⟨r, u⟩
    rw [hd] at path ends
    cases ends with
    | acknowledged _ acknowledged => exact fun _ _ => Recorded.told_of_acknowledged acknowledged
    | unacknowledged _ told _ => exact fun _ _ => told
    | stuck left =>
      intro none
      exact absurd none (outstanding_ne_nil (path.writing.trans w) (path.sound sound) left)

theorem flush_attended (sound : s.Sound) (h : s.Attended) : s.flush.2.Attended := by
  unfold flush
  split
  · next w => exact drain_attended w sound h
  · exact h

theorem turnToRead_attended (sound : s.Sound) (h : s.Attended) : s.turnToRead.2.Attended := by
  unfold turnToRead
  split
  · next w =>
    have drained := drain_attended w sound h
    rcases hd : s.drain with ⟨e | _, u⟩
    · rw [hd] at drained
      exact drained
    · rw [hd] at drained
      intro _ took
      exact drained (outstanding_settled fun _ => drain_ok hd) took
  · exact h

/-- an operation that turns the stream first keeps the device told if it takes no output from a stream
that reads -/
theorem TurnsFirst.attended {F : Stream (Recorded δ) → Stream (Recorded δ)} (first : TurnsFirst F)
    (reading : ∀ s : Stream (Recorded δ), s.writing = false → s.Sound →
      ∃ leaps g, Path leaps s g [] (F s))
    (sound : s.Sound) (h : s.Attended) : (F s).Attended := by
  have turn := turnToRead_attended sound h
  rcases first.cases s with ⟨e, u, ht, -, same⟩ | ⟨u, ht, r, path, same⟩
  · rw [same]
    rwa [ht] at turn
  · rw [same]
    rw [ht] at turn
    have hu : u.Sound := path.sound sound
    obtain ⟨leaps, g, rest⟩ := reading u r hu
    exact rest.attended hu (outstanding_reading r) turn

/-! ## reading and moving -/

theorem intake_attended (n : Nat) (sound : s.Sound) (h : s.Attended) :
    (s.intake n).2.Attended := by
  refine (intake_turnsFirst n).attended ?_ sound h
  intro s r sound
  exact ⟨false, _, intake_reading_path n r sound.buffer⟩

theorem read_attended (n : Nat) (sound : s.Sound) (h : s.Attended) : (s.read n).2.Attended := by
  unfold read
  split
  · exact h
  · exact intake_attended n sound h

theorem peek_attended (sound : s.Sound) (h : s.Attended) : s.peek.2.Attended := by
  refine peek_turnsFirst.attended ?_ sound h
  intro s r _
  exact ⟨false, _, peek_reading_path r⟩

theorem unread_attended (bytes : Bytes) (sound : s.Sound) (h : s.Attended) :
    (s.unread bytes).2.Attended := by
  refine (unread_turnsFirst bytes).attended ?_ sound h
  intro s _ _
  exact ⟨true, _, unread_path bytes s⟩

/-- a refused skip changes nothing, and only a reading stream skips -/
theorem skip_attended (n : Nat) (sound : s.Sound) (h : s.Attended) : (s.skip n).2.Attended := by
  cases w : s.writing with
  | true =>
    rw [skip, if_pos w]
    exact h
  | false => exact (skip_path n s).attended sound (outstanding_reading w) h

theorem collect_attended (room : Option Nat) (size : Nat) (s : Stream (Recorded δ))
    (done : Stream Memory) (sound : s.Sound) (h : s.Attended) :
    (s.collect room size done).2.2.Attended := by
  have kept := collect_keeps (P := fun u => u.Sound ∧ u.Attended) ?_ ?_ room size s done ⟨sound, h⟩
  · exact kept.2
  · intro u ⟨sound, h⟩
    exact ⟨(peek_path u).sound sound, peek_attended sound h⟩
  · intro n u ⟨sound, h⟩
    exact ⟨(skip_path n u).sound sound, skip_attended n sound h⟩

theorem readLine_attended (limit : Nat) (line : Bytes) (sound : s.Sound) (h : s.Attended) :
    (s.readLine limit line).2.2.Attended := by
  obtain ⟨m, c, noted, -⟩ := readLine_noted limit line s
  rw [noted]
  exact collect_attended (lineRoom limit) 0 s scratch sound h

theorem seek_attended (off : Int) (w : Whence) (sound : s.Sound) (h : s.Attended) :
    (s.seek off w).2.Attended := by
  cases able : s.abilities.seek with
  | false =>
    rw [seek, if_neg (by simp [able])]
    exact h
  | true =>
    have turn := turnToRead_attended sound h
    rcases turnToRead_cases s with ⟨e, u, ht, -, -⟩ | ⟨u, ht, r, path⟩
    · rw [seek, if_pos able, ht]
      rwa [ht] at turn
    · have able' : u.abilities.seek = true := path.constant.2.1 ▸ able
      have same : s.seek off w = u.seek off w := by
        rw [seek, if_pos able, ht, seek, if_pos able', turnToRead_reading r]
      rw [same]
      rw [ht] at turn
      exact (seek_path off w).attended (path.sound sound) (outstanding_reading r) turn

theorem rewind_attended (sound : s.Sound) (h : s.Attended) : s.rewind.2.Attended := by
  have moved := seek_attended 0 .start sound h
  unfold rewind
  rcases hs : s.seek 0 .start with ⟨e | pos, u⟩ <;> rw [hs] at moved <;> exact moved

/-! ## writing -/

theorem turnToWrite_attended (sound : s.Sound) (h : s.Attended) : s.turnToWrite.2.Attended := by
  cases w : s.writing with
  | true =>
    rw [turnToWrite_writing w]
    exact h
  | false =>
    have none : s.outstanding = [] := outstanding_reading w
    rcases turnToWrite_cases s with ⟨e, d, ht, -, path⟩ | ⟨u, ht, -, path⟩
    · rw [ht]
      exact path.attended sound none h
    · rw [ht]
      exact path.attended sound none h

theorem makeSpace_attended (w : s.writing = true) (sound : s.Sound) (h : s.Attended) :
    s.makeSpace.2.Attended := by
  unfold makeSpace
  split
  · exact drain_attended w sound h
  · exact h

/-- bytes that go to the buffer wait there until the device is told again -/
theorem stow_attended (bytes : Bytes) (s : Stream (Recorded δ)) (w : s.writing = true)
    (sound : s.Sound) (h : s.Attended) : (s.stow bytes).2.Attended := by
  fun_induction stow bytes s with
  | case1 bytes s h0 => exact h
  | case2 bytes s h0 f u hm =>
    have room := makeSpace_attended w sound h
    rwa [hm] at room
  | case3 bytes s h0 u hm full =>
    have room := makeSpace_attended w sound h
    rwa [hm] at room
  | case4 bytes s h0 u hm full k t v hv ih =>
    have path := makeSpace_path w
    rw [hm] at path
    have hw : u.writing = true := path.writing.trans w
    have hu : u.Sound := path.sound sound
    have stored : Step u [] _ { u with buffer := (u.buffer.append bytes).2 } :=
      .stored bytes hw (Nat.pos_of_ne_zero full)
    have ih := ih hw (stored.sound hu) ?_
    · rw [hv] at ih
      exact ih
    · -- there is room for at least one byte, and it waits now: nothing is claimed of that state
      intro none
      rw [outstanding_writing (by exact hw), Buffer.pending_append hu.buffer] at none
      have taken := congrArg List.length (List.append_eq_nil_iff.mp none).2
      rw [List.length_take, List.length_nil] at taken
      omega

theorem emit_attended (bytes : Bytes) (full : s.strategy = .full) (sound : s.Sound)
    (h : s.Attended) : (s.emit bytes).2.Attended := by
  have turn := turnToWrite_attended sound h
  rcases turnToWrite_cases s with ⟨e, d, ht, -, -⟩ | ⟨u, ht, w, path⟩
  · rw [emit, ht]
    rwa [ht] at turn
  · have same := turnToWrite_strategy s
    rw [ht] at turn same
    have buffered : u.strategy = .full := same.trans full
    rw [emit, ht]
    dsimp only
    rw [buffered]
    exact stow_attended bytes u w (path.sound sound) turn

/-! ## every operation -/

theorem Op.attended (op : Op) (full : s.strategy = .full) (sound : s.Sound) (h : s.Attended) :
    (op.run s).Attended := by
  cases op with
  | read n => exact read_attended n sound h
  | getc => exact read_attended 1 sound h
  | peek => exact peek_attended sound h
  | skip n => exact skip_attended n sound h
  | unread bytes => exact unread_attended bytes sound h
  | readLine limit line => exact readLine_attended limit line sound h
  | write bytes =>
    show (s.write bytes).2.Attended
    unfold write
    split
    · exact h
    · exact emit_attended bytes full sound h
  | writeAll bytes =>
    show (s.writeAll bytes).2.Attended
    rw [writeAll_snd]
    exact emit_attended bytes full sound h
  | putc byte =>
    show (s.writeAll [byte]).2.Attended
    rw [writeAll_snd]
    exact emit_attended [byte] full sound h
  | seek off w => exact seek_attended off w sound h
  | rewind => exact rewind_attended sound h
  | flush => exact flush_attended sound h
  | setStrategy b =>
    have flushed := flush_attended sound h
    show (s.setStrategy b).2.Attended
    unfold setStrategy
    rcases hf : s.flush with ⟨e | _, u⟩ <;> rw [hf] at flushed <;> exact flushed

/-- the stream is fully buffered before and after each of the operations -/
def FullyBuffered : List Op → Stream δ → Prop
  | [], s => s.strategy = .full
  | op :: ops, s => s.strategy = .full ∧ FullyBuffered ops (op.run s)

instance decidableFullyBuffered :
    (ops : List Op) → (s : Stream δ) → Decidable (FullyBuffered ops s)
  | [], s => inferInstanceAs (Decidable (s.strategy = .full))
  | op :: ops, s =>
    have := decidableFullyBuffered ops (op.run s)
    inferInstanceAs (Decidable (s.strategy = .full ∧ FullyBuffered ops (op.run s)))

theorem after_attended (ops : List Op) (full : FullyBuffered ops s) (sound : s.Sound)
    (h : s.Attended) : (after ops s).Attended := by
  induction ops generalizing s with
  | nil => exact h
  | cons op ops ih =>
    obtain ⟨here, later⟩ := full
    exact ih later ((op_path op sound).sound sound) (Op.attended op here sound h)

/-! ## what a flush answers -/

/-- a flush that succeeds is acknowledged, or it had nothing to do -/
theorem flush_acknowledged (w : s.writing = true) (sound : s.Sound)
    (h : s.flush = (.ok (), s')) :
    s'.device.acknowledged = true ∨ s.buffer.pending = [] ∧ s' = s := by
  rw [flush, if_pos w] at h
  by_cases h0 : s.buffer.pendingSize = 0
  · rw [drain_idle h0] at h
    cases h
    exact .inr ⟨Buffer.pending_eq_nil h0, rfl⟩
  · have ends := drain_drainEnd h0 sound.buffer
    rw [h] at ends
    cases ends with
    | acknowledged _ acknowledged => exact .inl acknowledged

/-- a flush that fails leaves output, or the next one has nothing to do -/
theorem flush_failed (w : s.writing = true) (sound : s.Sound) (h : s.flush = (.error f, s')) :
    s'.buffer.pending ≠ [] ∨
      s'.device.told = true ∧ s'.device.acknowledged = false ∧ s'.flush = (.ok (), s') := by
  have path : Path false s [] [] s.flush.2 := flush_path
  rw [h] at path
  have w' : s'.writing = true := path.writing.trans w
  rw [flush, if_pos w] at h
  by_cases h0 : s.buffer.pendingSize = 0
  · rw [drain_idle h0] at h
    cases h
  · have ends := drain_drainEnd h0 sound.buffer
    rw [h] at ends
    cases ends with
    | unacknowledged settled told unacknowledged =>
      refine .inr ⟨told, unacknowledged, ?_⟩
      rw [flush, if_pos w', drain_idle settled]
    | stuck left =>
      have waits := outstanding_ne_nil w' (path.sound sound) left
      rw [outstanding_writing w'] at waits
      exact .inl waits

/-- Take a fully buffered stream over any device, after any operations, and let it be writing.  A flush
that succeeds, if the device ever took a byte, leaves the device told since it last took one; and it
acknowledged that, unless nothing was pending, in which case the flush changed nothing and called
nothing.  A flush that fails leaves some output pending, or it leaves none and the device told without
an acknowledgement, and then the next flush is one of those that succeed and call nothing. -/
theorem flush_told (o : Opening) (d : δ) (m : OpenMode) (ops : List Op) :
    let start := opened o ({ inner := d } : Recorded δ) m
    let s := after ops start
    FullyBuffered ops start → s.writing = true →
      (∀ s', s.flush = (.ok (), s') → s'.device.accepted ≠ [] →
        s'.device.told = true ∧
          (s'.device.acknowledged = true ∨ s.buffer.pending = [] ∧ s' = s)) ∧
      ∀ f s', s.flush = (.error f, s') →
        s'.buffer.pending ≠ [] ∨
          s'.device.told = true ∧ s'.device.acknowledged = false ∧ s'.flush = (.ok (), s') := by
  intro start s full w
  have begun : start.Sound := opened_sound o _ m
  have sound : s.Sound := after_sound ops begun
  have attended : s.Attended := after_attended ops full begun fun _ took => absurd rfl took
  refine ⟨?_, ?_⟩
  · intro s' h took
    have flushed := flush_attended sound attended
    rw [h] at flushed
    exact ⟨flushed (flush_outstanding h) took, flush_acknowledged w sound h⟩
  · intro f s' h
    exact flush_failed w sound h

/-- a device whose first answer to a flush is that all is not well -/
def unwell : Scripted := { script := { flushes := [.fail (.code 5)] }, announced := .all }

/-- another byte is written after the bad answer, and the next flush is acknowledged -/
theorem flush_told_two :
    let start := opened { capacity := 4 } ({ inner := unwell } : Recorded Scripted) .both
    let ops : List Op := [.write [1], .flush, .write [2]]
    let s := after ops start
    FullyBuffered ops start ∧ s.writing = true ∧ s.flush.1 = .ok () ∧
      s.flush.2.device.accepted = [1, 2] ∧ s.flush.2.device.acknowledged = true := by
  intro start ops s
  have full : FullyBuffered ops start := by decide +kernel
  have w : s.writing = true := by decide +kernel
  have ok : s.flush.1 = .ok () := by decide +kernel
  have took : s.flush.2.device.accepted = [1, 2] := by decide +kernel
  have waits : s.buffer.pending ≠ [] := by decide +kernel
  have told := (flush_told { capacity := 4 } unwell .both ops full w).1 s.flush.2 (Prod.ext ok rfl)
    (by rw [took]; exact List.cons_ne_nil _ _)
  refine ⟨full, w, ok, took, ?_⟩
  rcases told.2 with acknowledged | ⟨none, -⟩
  · exact acknowledged
  · exact absurd none waits

/-- the bad answer makes the first flush fail; the second one succeeds, with the byte at the device and
no acknowledgement -/
theorem flush_unacknowledged :
    let start := opened { capacity := 4 } ({ inner := unwell } : Recorded Scripted) .both
    let ops : List Op := [.write [1], .flush]
    let s := after ops start
    FullyBuffered ops start ∧ s.writing = true ∧ s.marks.err = true ∧ s.flush.1 = .ok () ∧
      s.flush.2.device.accepted = [1] ∧ s.flush.2.device.acknowledged = false := by
  decide +kernel

end Stream

end BufferedStreams
