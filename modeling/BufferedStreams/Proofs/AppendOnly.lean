import BufferedStreams.Proofs.Append
import BufferedStreams.Proofs.Output
import BufferedStreams.Proofs.Refinement
import BufferedStreams.Proofs.ShortTransfer

/-!
# Append streams never overwrite

Over memory that appends, a stream only ever adds to the end of the data: what writes took, in the
order in which they took it, and the zero bytes up to where a seek went.

* `Memory.Extends`   the data is still there, with more behind it perhaps;
* `Stream.whole`     the data with the output that still has to be handed over;
* `Op.entry`         what an operation adds, and `Stream.entries` what a run adds;
* `op_whole`         an operation adds its entry and nothing else;
* `Stream.AtEnd`     the next flush that succeeds ends at the end of the data.

What the loops do is what each step does (`Step.whole`), so only turns and seeks are looked into: a
turn moves the device back over what was read ahead, so it stays in the data, and only a seek that the
user asked for adds zero bytes.
-/

namespace BufferedStreams

theorem overlay_end (old new : Bytes) : overlay old old.length new = old ++ new := by
  rw [overlay, Nat.sub_self, zeros_zero, List.nil_append, List.take_length,
    List.drop_eq_nil_of_le (Nat.le_add_right _ _), List.append_nil]

namespace Memory

variable {m m' m'' : Memory} {top : Nat}

/-! ## what a device call adds -/

/-- `m'` has the data of `m`, and perhaps more behind it -/
structure Extends (m m' : Memory) : Prop where
  data : m.data <+: m'.data
  plan : m'.plan = m.plan

theorem Extends.refl (m : Memory) : m.Extends m := ⟨List.prefix_refl _, rfl⟩

theorem Extends.trans (h : m.Extends m') (h' : m'.Extends m'') : m.Extends m'' :=
  ⟨h.data.trans h'.data, h'.plan.trans h.plan⟩

theorem Extends.of_append {more : Bytes} (data : m'.data = m.data ++ more) (plan : m'.plan = m.plan) :
    m.Extends m' := by
  refine ⟨?_, plan⟩
  rw [data]
  exact List.prefix_append _ _

theorem Extends.read {n : Nat} {r : Except Fault Delivery} (call : Device.read n m = (r, m')) :
    m.Extends m' := by
  obtain ⟨-, rfl⟩ := Prod.mk.inj ((read_eq m n).symm.trans call)
  exact ⟨List.prefix_refl _, rfl⟩

/-- a write adds the bytes that it takes -/
theorem Appends.write_data {bytes : Bytes} {r : Except Fault Nat} (h : m.Appends)
    (call : Device.write bytes m = (r, m')) :
    m'.data = m.data ++ (Event.write bytes r).accepted ∧ m'.plan = m.plan := by
  by_cases hb : bytes = []
  · subst hb
    obtain ⟨rfl, rfl⟩ := Prod.mk.inj call
    exact ⟨(List.append_nil _).symm, rfl⟩
  · have start := forWrite_append h.append
    rcases write_cases h.toSound hb with ⟨f, hw⟩ | ⟨n, size, -, hw, hn, fits⟩
    · obtain ⟨rfl, rfl⟩ := Prod.mk.inj (hw.symm.trans call)
      refine ⟨?_, plan_forWrite m⟩
      rw [start]
      exact (List.append_nil _).symm
    · obtain ⟨rfl, rfl⟩ := Prod.mk.inj (hw.symm.trans call)
      have sound := sound_forWrite h.toSound
      have hl : (bytes.take n).length = n := List.length_take_of_le hn
      refine ⟨?_, plan_forWrite m⟩
      rw [data_put (sound_grown sound size) (by rw [hl]; exact fits), data_grown sound, start]
      show overlay m.data m.length (bytes.take n) = m.data ++ bytes.take n
      rw [← length_data h.toSound, overlay_end]

/-- a seek adds zero bytes up to where it goes -/
theorem Appends.seek_data {off : Int} {w : Whence} {pos : Nat} (h : m.Appends)
    (call : Device.seek off w m = (.ok pos, m')) :
    m'.data = m.data ++ zeros (pos - m.data.length) ∧ m'.plan = m.plan := by
  rcases seek_cases m off w with ⟨f, hs⟩ | ⟨pos', size, -, hs, fits⟩
  · cases hs.symm.trans call
  · cases hs.symm.trans call
    refine ⟨?_, rfl⟩
    rw [data_moveTo (sound_grown h.toSound size) fits, data_grown h.toSound]

/-- a seek into the data adds nothing -/
theorem Appends.seek_back {off : Int} {w : Whence} {r : Except Fault Nat} (h : m.Appends)
    (call : Device.seek off w m = (r, m')) (back : (m.base w : Int) + off ≤ m.length) :
    m'.data = m.data := by
  have range : offsetRange ≤ wordRange := by decide
  have length := h.length_lt
  by_cases neg : (m.base w : Int) + off < 0
  · obtain ⟨-, rfl⟩ := Prod.mk.inj ((seek_negative neg).symm.trans call)
    rfl
  · obtain ⟨pos, goal⟩ := Int.eq_ofNat_of_zero_le (Int.not_lt.mp neg)
    have le : pos ≤ m.length := by omega
    obtain ⟨-, rfl⟩ := Prod.mk.inj ((seek_within h.toSound goal le (by omega)).1.symm.trans call)
    rw [data_moveTo h.toSound (Nat.le_trans le h.length_le), length_data h.toSound,
      Nat.sub_eq_zero_of_le le]
    exact List.append_nil _

/-- a device that grows takes all bytes or none -/
theorem write_grows (grows : m.plan.grows = true) {bytes : Bytes} {n : Nat}
    (call : Device.write bytes m = (.ok n, m')) : n = bytes.length := by
  have call : m.write bytes = (.ok n, m') := call
  rw [write_writeHere] at call
  split at call
  · next empty =>
    cases call
    rw [empty]
    rfl
  · rw [writeHere] at call
    split at call
    · cases call
      rfl
    · rw [if_pos (by rw [plan_forWrite]; exact grows)] at call
      split at call
      · cases call
      · split at call <;> cases call
        rfl

/-- where storage can be had a write takes all of its bytes -/
theorem Appends.write_ample (h : m.Appends) (a : m.plan.Ample top) {bytes : Bytes} (hb : bytes ≠ [])
    (le : m.length + bytes.length ≤ top) : ∃ m', Device.write bytes m = (.ok bytes.length, m') := by
  have hw : top < wordRange := Nat.lt_of_le_of_lt a.le_allocatable (by decide)
  show ∃ m', m.write bytes = _
  rw [write_writeHere, if_neg hb, forWrite_append h.append, writeHere]
  dsimp only
  split
  · exact ⟨_, rfl⟩
  · rw [if_pos a.grows, if_neg (by omega)]
    rcases extend_cases { m with cursor := m.length } (m.length + bytes.length) with
      ⟨f, he⟩ | ⟨size, -, he, -⟩
    · unfold extend at he
      rw [show ({ m with cursor := m.length } : Memory).plan = m.plan from rfl,
        Plan.grown_ample a le] at he
      split at he <;> cases he
    · rw [he]
      exact ⟨_, rfl⟩

end Memory

namespace Stream

variable {s s' u : Stream Memory} {g t : Bytes} {leaps : Bool}

/-! ## what a step adds -/

/-- the data, as it will be when all output is handed over -/
def whole (s : Stream Memory) : Bytes := s.device.data ++ s.outstanding

theorem whole_reading (r : s.writing = false) : s.whole = s.device.data := by
  rw [whole, outstanding_reading r, List.append_nil]

theorem whole_settled (settled : s.Settled) : s.whole = s.device.data := by
  rw [whole, outstanding_settled settled, List.append_nil]

/-- an append stream that asks where its data ends adds nothing -/
theorem syncAppend_data (h : s.device.Appends) :
    s.syncAppend.device.data = s.device.data ∧ s.syncAppend.device.plan = s.device.plan := by
  unfold syncAppend
  split
  · rcases call : Device.seek 0 .current s.device with ⟨f | pos, d⟩
    · obtain rfl := (h.seek call).2.2 f rfl
      exact ⟨rfl, rfl⟩
    · refine ⟨h.seek_back call ?_, (h.seek_data call).2⟩
      have := h.cursor_le
      show (s.device.cursor : Int) + 0 ≤ s.device.length
      omega
  · exact ⟨rfl, rfl⟩

/-- a step adds what it takes -/
theorem Step.whole (h : Step s g t s') (hs : s.Appending) : s'.whole = s.whole ++ t := by
  have sound := hs.sound
  cases h with
  | @accepted n d w able call n_pos part =>
    obtain ⟨data, -⟩ := hs.device.write_data call
    rw [Stream.whole, Stream.whole, outstanding_writing w, outstanding_writing (by exact w), data,
      Buffer.pending_markDrained (sound.collecting w).drained_le, List.append_nil, List.append_assoc]
    exact congrArg _ (List.take_append_drop n s.buffer.pending)
  | @cleared n d w able call n_pos all =>
    obtain ⟨data, -⟩ := hs.device.write_data call
    have hp : s.buffer.pending.take n = s.buffer.pending := by
      rw [List.take_of_length_le]
      rw [Buffer.length_pending sound.buffer]
      exact all
    have written : d.Appends := hs.device.write call
    rw [whole_settled, (syncAppend_data (s := { s with
      device := d, base := s.base + s.buffer.cursor, buffer := s.buffer.forgetOutput }) written).1,
      List.append_nil, Stream.whole, outstanding_writing w]
    · exact data.trans (congrArg _ hp)
    · intro _
      rw [syncAppend_buffer]
      exact Buffer.pendingSize_forgetOutput s.buffer
  | @refused bytes r d w able call none =>
    obtain ⟨data, -⟩ := hs.device.write_data call
    have nothing : (Event.write bytes r).accepted = [] := by
      cases r with
      | error f => rfl
      | ok n =>
        obtain rfl := none n rfl
        rfl
    rw [List.append_nil]
    rw [nothing, List.append_nil] at data
    exact congrArg (· ++ s.outstanding) data
  | notified w able settled call =>
    obtain ⟨-, rfl⟩ := Prod.mk.inj call
    exact (List.append_nil _).symm
  | @wrote bytes n d w able settled call n_pos =>
    rw [whole_settled fun _ => settled, whole_settled (by exact fun _ => settled)]
    exact (hs.device.write_data call).1
  | synced w settled =>
    rw [Stream.whole, (syncAppend_data hs.device).1, List.append_nil, outstanding, syncAppend_writing,
      syncAppend_buffer]
    rfl
  | stored bytes w space =>
    rw [Stream.whole, outstanding_writing (by exact w), Buffer.pending_append sound.buffer,
      Stream.whole, outstanding_writing w, List.append_assoc]
  | filled r able dry bare call =>
    rw [whole_reading r, whole_reading (by exact r), List.append_nil]
    exact data_read call
  | unfilled r able dry bare call =>
    rw [whole_reading r, whole_reading (by exact r), List.append_nil]
    exact data_read call
  | lacking r dry bare =>
    rw [whole_reading r, whole_reading (by exact r), List.append_nil]
  | pulled r able empty start bare n_pos call =>
    rw [whole_reading r, whole_reading (by exact r), List.append_nil]
    exact data_read call
  | balked r able n_pos call =>
    rw [whole_reading r, whole_reading (by exact r), List.append_nil]
    exact data_read call
  | handed n r bare =>
    rw [whole_reading r, whole_reading (by exact r), List.append_nil]
  | returned n r =>
    rw [whole_reading r, whole_reading (by exact r), List.append_nil]
  | emptied r dry bare =>
    rw [whole_reading r, whole_reading (by exact r), List.append_nil]
    rfl
  | noted m c upto => exact (List.append_nil _).symm
  | restyled b name settled => exact (List.append_nil _).symm

/-- a path without leaps adds what it takes -/
theorem Path.whole (h : Path false s g t s') (hs : s.Appending) : s'.whole = s.whole ++ t := by
  generalize hf : false = leaps at h
  induction h with
  | refl => exact (List.append_nil _).symm
  | step h _ ih => rw [ih (h.appending hs) hf, h.whole hs, List.append_assoc]
  | leap => exact absurd hf (by simp)

/-- no step takes data away -/
theorem Step.extends (h : Step s g t s') (hs : s.Appending) : s.device.Extends s'.device := by
  cases h with
  | accepted w able call n_pos part =>
    obtain ⟨data, plan⟩ := hs.device.write_data call
    exact .of_append data plan
  | @cleared n d w able call n_pos all =>
    obtain ⟨data, plan⟩ := hs.device.write_data call
    obtain ⟨same, same'⟩ := syncAppend_data (s := { s with
      device := d, base := s.base + s.buffer.cursor, buffer := s.buffer.forgetOutput })
      (hs.device.write call)
    exact .of_append (same.trans data) (same'.trans plan)
  | refused w able call none =>
    obtain ⟨data, plan⟩ := hs.device.write_data call
    exact .of_append data plan
  | notified w able settled call =>
    obtain ⟨-, rfl⟩ := Prod.mk.inj call
    exact .refl _
  | wrote w able settled call n_pos =>
    obtain ⟨data, plan⟩ := hs.device.write_data call
    exact .of_append data plan
  | synced w settled =>
    obtain ⟨data, plan⟩ := syncAppend_data hs.device
    exact .of_append (data.trans (List.append_nil _).symm) plan
  | filled r able dry bare call => exact .read call
  | unfilled r able dry bare call => exact .read call
  | pulled r able empty start bare n_pos call => exact .read call
  | balked r able n_pos call => exact .read call
  | _ => exact .refl _

theorem Leap.extends (h : Leap s s') (hs : s.Appending) : s.device.Extends s'.device := by
  cases h with
  | moved r able call =>
    obtain ⟨data, plan⟩ := hs.device.seek_data call
    exact .of_append data plan
  | unmoved r able call =>
    obtain rfl := (hs.device.seek call).2.2 _ rfl
    exact .refl _
  | _ => exact .refl _

/-- no existing byte ever changes, not even in between -/
theorem Path.extends (h : Path leaps s g t s') (hs : s.Appending) : s.device.Extends s'.device := by
  induction h with
  | refl => exact .refl _
  | step h _ ih => exact (h.extends hs).trans (ih (h.appending hs))
  | leap h _ ih => exact (h.extends hs).trans (ih (h.appending hs))

/-! ## turns and moves -/

theorem turnToRead_whole (hs : s.Appending) : s.turnToRead.2.whole = s.whole := by
  unfold turnToRead
  split
  · next w =>
    have drained : Path false s [] [] s.drain.2 := drain_path w
    have whole := drained.whole hs
    rw [List.append_nil] at whole
    rcases hd : s.drain with ⟨f | _, u⟩
    · rw [hd] at whole
      exact whole
    · rw [hd] at whole
      refine Eq.trans ?_ whole
      rw [whole_reading rfl, whole_settled fun _ => drain_ok hd]
  · rfl

/-- the device moves back over what was read ahead, if it moves at all -/
theorem moveDevice_back (hs : s.Appending) :
    (s.moveDevice 0 .current).2.device.data = s.device.data := by
  rw [moveDevice, if_pos rfl]
  split
  · rfl
  · have back : (s.device.base .current : Int) + (0 - s.ahead) ≤ s.device.length := by
      have := hs.device.cursor_le
      show (s.device.cursor : Int) + (0 - s.ahead) ≤ s.device.length
      omega
    rcases call : Device.seek (0 - s.ahead : Int) .current s.device with ⟨f | pos, d⟩
    · exact hs.device.seek_back call back
    · exact hs.device.seek_back call back

theorem turnToWrite_whole (hs : s.Appending) : s.turnToWrite.2.whole = s.whole := by
  cases w : s.writing with
  | true => rw [turnToWrite_writing w]
  | false =>
    have able : s.abilities.seek = true := by rw [hs.able]; rfl
    have data := moveDevice_back hs
    rw [turnToWrite, if_neg (by simp [w]), if_pos able, whole_reading w, ← data]
    rcases moveDevice_cases 0 .current w able with ⟨f, d, hm, -⟩ | ⟨pos, u, hm, r, clear, -⟩
    · rw [hm]
      dsimp only
      split
      · exact whole_settled fun _ => Nat.zero_sub _
      · exact whole_reading w
    · rw [hm]
      refine whole_settled fun _ => ?_
      rw [clear]
      exact Nat.zero_sub _

/-! ## reading -/

/-- an operation that turns the stream first adds nothing, if it adds nothing to one that reads -/
theorem TurnsFirst.whole {F : Stream Memory → Stream Memory} (first : TurnsFirst F)
    (reading : ∀ u : Stream Memory, u.writing = false → u.Appending → (F u).whole = u.whole)
    (hs : s.Appending) : (F s).whole = s.whole := by
  have turned := turnToRead_whole hs
  rcases first.cases s with ⟨f, u, ht, -, same⟩ | ⟨u, ht, r, path, same⟩
  · rw [ht] at turned
    rw [same]
    exact turned
  · rw [ht] at turned
    rw [same, reading u r (path.appending hs)]
    exact turned

theorem read_whole (n : Nat) (hs : s.Appending) : (s.read n).2.whole = s.whole := by
  unfold read
  split
  · rfl
  · refine (intake_turnsFirst n).whole ?_ hs
    intro u r hu
    have path := intake_reading_path n r hu.sound.buffer
    rw [path.whole hu, List.append_nil]

theorem unread_whole (bytes : Bytes) (hs : s.Appending) : (s.unread bytes).2.whole = s.whole := by
  refine (unread_turnsFirst bytes).whole ?_ hs
  intro u r hu
  simp only [unread, turnToRead_reading r]
  split
  · rw [whole_reading r, whole_reading (by exact r)]
  · rw [whole_reading r, whole_reading (by exact r)]

theorem peek_whole (hs : s.Appending) : s.peek.2.whole = s.whole := by
  refine peek_turnsFirst.whole ?_ hs
  intro u r hu
  rw [(peek_reading_path r).whole hu, List.append_nil]

theorem skip_whole (n : Nat) (s : Stream Memory) : (s.skip n).2.whole = s.whole := by
  unfold skip
  split
  · rfl
  · next r =>
    have reads : s.writing = false := by simpa using r
    split
    · rw [whole_reading reads, whole_reading (by exact reads)]
    · rfl

theorem readLine_whole (limit : Nat) (line : Bytes) (hs : s.Appending) :
    (s.readLine limit line).2.2.whole = s.whole := by
  obtain ⟨m, c, noted, -⟩ := readLine_noted limit line s
  have kept := collect_keeps (P := fun u => u.Appending ∧ u.whole = s.whole) ?_ ?_
    (lineRoom limit) 0 s scratch ⟨hs, rfl⟩
  · rw [noted]
    exact kept.2
  · intro u ⟨hu, same⟩
    exact ⟨(peek_path u).appending hu, (peek_whole hu).trans same⟩
  · intro n u ⟨hu, same⟩
    exact ⟨(skip_path n u).appending hu, (skip_whole n u).trans same⟩

/-! ## writing and seeking -/

theorem emit_whole (bytes : Bytes) (hs : s.Appending) :
    (s.emit bytes).2.whole = s.whole ++ bytes.take (s.emit bytes).1.count := by
  have turned := turnToWrite_whole hs
  rcases turnToWrite_cases s with ⟨f, d, ht, -, -⟩ | ⟨u, ht, w, path⟩
  · have stuck : s.emit bytes =
        ({ stop := some f }, ({ s with device := d } : Stream Memory).fail) := by
      rw [emit, ht]
    rw [ht] at turned
    rw [stuck, List.take_zero, List.append_nil]
    exact turned
  · have same : s.emit bytes = u.emit bytes := by
      rw [emit, ht, emit, turnToWrite_writing w]
    rw [ht] at turned
    rw [same, (emit_writing_path bytes w).whole (path.appending hs)]
    exact congrArg (· ++ bytes.take (u.emit bytes).1.count) turned

theorem write_whole (bytes : Bytes) (hs : s.Appending) :
    (s.write bytes).2.whole = s.whole ++ bytes.take (s.emit bytes).1.count := by
  unfold write
  split
  · next empty => rw [List.isEmpty_iff.mp empty, List.take_nil, List.append_nil]
  · exact emit_whole bytes hs

theorem flush_whole (hs : s.Appending) : s.flush.2.whole = s.whole := by
  have path : Path false s [] [] s.flush.2 := flush_path
  rw [path.whole hs, List.append_nil]

/-- a move of a stream that reads adds zero bytes up to where it goes -/
theorem moveDevice_whole (off : Int) (w : Whence) (hs : s.Appending) (r : s.writing = false) :
    (s.moveDevice off w).2.whole = s.whole ++
      match (s.moveDevice off w).1 with
      | .ok pos => zeros (pos - s.whole.length)
      | .error _ => [] := by
  rw [whole_reading r, moveDevice]
  generalize (if w = .current then off - s.ahead else off) = target
  split
  · exact (whole_reading r).trans (List.append_nil _).symm
  · rcases call : Device.seek target w s.device with ⟨f | pos, d⟩
    · obtain rfl := (hs.device.seek call).2.2 f rfl
      exact (whole_reading r).trans (List.append_nil _).symm
    · exact (whole_reading (by exact r)).trans (hs.device.seek_data call).1

/-- so does a seek, behind the output that was pending -/
theorem seek_whole (off : Int) (w : Whence) (hs : s.Appending) :
    (s.seek off w).2.whole = s.whole ++
      match (s.seek off w).1 with
      | .ok pos => zeros (pos - s.whole.length)
      | .error _ => [] := by
  have able : s.abilities.seek = true := by rw [hs.able]; rfl
  have turned := turnToRead_whole hs
  rw [seek, if_pos able]
  rcases turnToRead_cases s with ⟨f, u, ht, -, -⟩ | ⟨u, ht, r, path⟩
  · rw [ht] at turned ⊢
    exact turned.trans (List.append_nil _).symm
  · rw [ht] at turned ⊢
    have moved := moveDevice_whole off w (path.appending hs) r
    rw [show u.whole = s.whole from turned] at moved
    dsimp only
    rcases hm : u.moveDevice off w with ⟨f | pos, v⟩
    · rw [hm] at moved
      exact moved
    · rw [hm] at moved
      exact moved

/-- a seek to the start goes to the start -/
theorem seek_start {pos : Nat} (hs : s.Appending) (h : s.seek 0 .start = (.ok pos, u)) : pos = 0 := by
  have able : s.abilities.seek = true := by rw [hs.able]; rfl
  rw [seek, if_pos able] at h
  rcases turnToRead_cases s with ⟨f, v, ht, -, -⟩ | ⟨v, ht, r, path⟩
  · rw [ht] at h
    cases h
  · have hv := path.appending hs
    have call : Device.seek 0 .start v.device = (.ok 0, v.device.moveTo 0) :=
      (Memory.seek_within hv.device.toSound rfl (Nat.zero_le _) (by decide)).1
    have moved : v.moveDevice 0 .start = (.ok 0, { v with
        device := v.device.moveTo 0, buffer := v.buffer.clear, base := 0 }) := by
      rw [moveDevice, if_neg (show ¬Whence.start = .current by decide), if_neg (by decide), call]
    rw [ht] at h
    dsimp only at h
    rw [moved] at h
    cases h
    rfl

theorem rewind_whole (hs : s.Appending) : s.rewind.2.whole = s.whole := by
  have sought := seek_whole 0 .start hs
  unfold rewind
  rcases hk : s.seek 0 .start with ⟨f | pos, u⟩
  · rw [hk] at sought
    exact sought.trans (List.append_nil _)
  · rw [hk] at sought
    obtain rfl := seek_start hs hk
    dsimp only at sought
    rw [Nat.zero_sub, zeros_zero, List.append_nil] at sought
    exact sought

end Stream

/-! ## runs -/

/-- what an operation adds behind `log` -/
def Op.entry (s : Stream Memory) (log : Bytes) : Op → Bytes
  | .seek off w =>
    match (s.seek off w).1 with
    | .ok pos => zeros (pos - log.length)
    | .error _ => []
  | op => op.taken s

/-- what a write adds is what it takes -/
theorem Op.entry_taken {s : Stream Memory} {log : Bytes} (op : Op) (took : op.taken s ≠ []) :
    op.entry s log = op.taken s := by
  cases op with
  | seek off w => exact absurd rfl took
  | _ => rfl

namespace Stream

variable {s : Stream Memory}

/-- `log` with what a list of operations adds to it -/
def logged : List Op → Stream Memory → Bytes → Bytes
  | [], _, log => log
  | op :: ops, s, log => logged ops (op.run s) (log ++ op.entry s log)

theorem op_whole (op : Op) (hs : s.Appending) : (op.run s).whole = s.whole ++ op.entry s s.whole := by
  cases op with
  | read n => exact (read_whole n hs).trans (List.append_nil _).symm
  | getc => exact (read_whole 1 hs).trans (List.append_nil _).symm
  | peek => exact (peek_whole hs).trans (List.append_nil _).symm
  | skip n => exact (skip_whole n s).trans (List.append_nil _).symm
  | unread bytes => exact (unread_whole bytes hs).trans (List.append_nil _).symm
  | readLine limit line => exact (readLine_whole limit line hs).trans (List.append_nil _).symm
  | write bytes => exact write_whole bytes hs
  | writeAll bytes =>
    show (s.writeAll bytes).2.whole = _
    rw [writeAll_snd]
    exact emit_whole bytes hs
  | putc byte =>
    show (s.writeAll [byte]).2.whole = _
    rw [writeAll_snd]
    exact emit_whole [byte] hs
  | seek off w => exact seek_whole off w hs
  | rewind => exact (rewind_whole hs).trans (List.append_nil _).symm
  | flush => exact (flush_whole hs).trans (List.append_nil _).symm
  | setStrategy b =>
    have path : Path false s [] [] (s.setStrategy b).2 := setStrategy_path b
    exact path.whole hs

theorem after_whole (ops : List Op) (hs : s.Appending) :
    (after ops s).whole = logged ops s s.whole := by
  induction ops generalizing s with
  | nil => rfl
  | cons op ops ih =>
    have path := op_path op hs.sound
    rw [logged, ← op_whole op hs]
    exact ih (path.appending hs)

/-! ## where a flush ends -/

/-- the base is at the end of the data, unless output is pending, which the next drain takes there -/
def AtEnd (s : Stream Memory) : Prop :=
  s.writing = true ∧ (s.buffer.pendingSize = 0 → s.base = s.device.length)

variable {u : Stream Memory}

theorem AtEnd.of_pending (w : s.writing = true) (some : s.buffer.pendingSize ≠ 0) : s.AtEnd :=
  ⟨w, fun none => absurd none some⟩

/-- a drain keeps the stream at the end, and one of pending output takes it there -/
theorem drain_atEnd (hs : s.Appending) (w : s.writing = true)
    (h : s.buffer.pendingSize ≠ 0 ∨ s.AtEnd) : s.drain.2.AtEnd := by
  by_cases h0 : s.buffer.pendingSize = 0
  · rw [drain_idle h0]
    exact h.resolve_left (absurd h0)
  · have path : Path false s [] [] s.drain.2 := drain_path w
    have w' := path.writing.trans w
    rcases drain_end hs h0 with ⟨v, hd, base, -⟩ | ⟨f, v, hd, some⟩
    · rw [hd] at w' ⊢
      exact ⟨w', fun _ => base⟩
    · rw [hd] at w' ⊢
      exact .of_pending w' some

theorem makeSpace_atEnd (hs : s.Appending) (h : s.AtEnd) : s.makeSpace.2.AtEnd := by
  unfold makeSpace
  split
  · exact drain_atEnd hs h.1 (.inr h)
  · exact h

/-- collecting output keeps the stream at the end, and collecting some takes it there -/
theorem stow_atEnd (bytes : Bytes) (s : Stream Memory) (hs : s.Appending) (w : s.writing = true)
    (h : s.AtEnd ∨ (s.stow bytes).1.count ≠ 0) : (s.stow bytes).2.AtEnd := by
  fun_induction stow bytes s with
  | case1 bytes s h0 => exact h.resolve_right (absurd rfl)
  | case2 bytes s h0 f v hm =>
    have kept := makeSpace_atEnd hs (h.resolve_right (absurd rfl))
    rw [hm] at kept
    exact kept
  | case3 bytes s h0 v hm full =>
    have kept := makeSpace_atEnd hs (h.resolve_right (absurd rfl))
    rw [hm] at kept
    exact kept
  | case4 bytes s h0 v hm full k t x hx ih =>
    have path := makeSpace_path w
    rw [hm] at path
    have wv : v.writing = true := path.writing.trans w
    have hv : v.Appending := path.appending hs
    have store : Step v [] _ { v with buffer := (v.buffer.append bytes).2 } :=
      .stored bytes wv (Nat.pos_of_ne_zero full)
    have some : (v.buffer.append bytes).2.pendingSize ≠ 0 := by
      have order := hv.sound.buffer.drained_le
      rw [Buffer.pendingSize, Buffer.cursor_append, Buffer.drained_append]
      omega
    have ih := ih (store.appending hv) wv (.inl (.of_pending (by exact wv) some))
    rw [hx] at ih
    exact ih

/-- a direct write that takes something takes everything, to the end of the data -/
theorem push_atEnd {bytes : Bytes} (hs : s.Appending) (w : s.writing = true)
    (grows : s.device.plan.grows = true) (took : (s.push bytes).1.count ≠ 0) :
    (s.push bytes).2.AtEnd := by
  rw [push] at took ⊢
  split at took
  · exact absurd rfl took
  · next some =>
    have hb : bytes ≠ [] := fun empty => some (by rw [empty]; rfl)
    rw [if_neg some]
    rcases call : Device.write bytes s.device with ⟨f | n, d⟩
    · rw [call] at took
      exact absurd rfl took
    · have all : n = bytes.length := Memory.write_grows grows call
      obtain ⟨m, rfl⟩ : ∃ m, n = m + 1 := ⟨n - 1, by omega⟩
      have hk : min (m + 1) bytes.length = bytes.length := by omega
      have written : d.Appends := hs.device.write call
      obtain ⟨stop, -⟩ := Memory.write_append hs.device.toSound hs.device.append hb call
      obtain ⟨base, -, length⟩ := syncAppend_here (s := ({ s with
        device := d, base := s.base + bytes.length } : Stream Memory).count .bytesWritten bytes.length)
        written hs.append hs.able
      dsimp only
      rw [hk, List.drop_length, push_nil]
      refine ⟨(syncAppend_writing _).trans w, fun _ => ?_⟩
      exact (base.trans stop).trans length.symm

theorem writeDirect_atEnd (bytes : Bytes) (hs : s.Appending) (w : s.writing = true)
    (grows : s.device.plan.grows = true) (took : (s.writeDirect bytes).1.count ≠ 0) :
    (s.writeDirect bytes).2.AtEnd := by
  have path : Path false s [] [] s.drain.2 := drain_path w
  have hu := path.appending hs
  have plan := (path.extends hs).plan
  unfold writeDirect at took ⊢
  rcases hd : s.drain with ⟨f | _, u⟩
  · rw [hd] at took
    exact absurd rfl took
  · rw [hd] at took hu plan path
    dsimp only at took ⊢
    have able : u.abilities.write = true := by rw [hu.able]; rfl
    rw [if_pos able] at took ⊢
    exact push_atEnd hu (path.writing.trans w) (by rw [plan]; exact grows) took

theorem writeLines_atEnd {bytes : Bytes} (hs : s.Appending) (w : s.writing = true)
    (grows : s.device.plan.grows = true) (took : (s.writeLines bytes).1.count ≠ 0) :
    (s.writeLines bytes).2.AtEnd := by
  unfold writeLines at took ⊢
  rcases hl : splitLastLine? bytes with _ | ⟨lines, tail⟩
  · rw [hl] at took
    exact stow_atEnd bytes s hs w (.inr took)
  · have path := writeDirect_path lines w
    have counted := (writeDirect_count lines s).2
    have direct := writeDirect_atEnd lines hs w grows
    rw [hl] at took
    dsimp only at took ⊢
    rcases hd : s.writeDirect lines with ⟨⟨count, _ | f⟩, v⟩
    · rw [hd] at path counted direct
      -- there is a line end at least, and it went out
      have some : count ≠ 0 := by
        rw [show count = lines.length from counted rfl]
        exact mt List.eq_nil_of_length_eq_zero (splitLastLine?_ne_nil hl)
      exact stow_atEnd tail v (path.appending hs) (path.writing.trans w) (.inl (direct some))
    · rw [hd] at took direct
      exact direct took

theorem emit_atEnd {bytes : Bytes} (hs : s.Appending) (grows : s.device.plan.grows = true)
    (took : (s.emit bytes).1.count ≠ 0) : (s.emit bytes).2.AtEnd := by
  rcases turnToWrite_cases s with ⟨f, d, ht, -, -⟩ | ⟨u, ht, w, path⟩
  · rw [emit, ht] at took
    exact absurd rfl took
  · have hu := path.appending hs
    have grows : u.device.plan.grows = true := by
      rw [(path.extends hs).plan]
      exact grows
    rw [emit, ht] at took ⊢
    dsimp only at took ⊢
    split at took
    · exact writeDirect_atEnd _ hu w grows took
    · exact stow_atEnd bytes u hu w (.inr took)
    · exact writeLines_atEnd hu w grows took

/-- an operation that took something from the user leaves the stream at the end -/
theorem op_atEnd (op : Op) (hs : s.Appending) (grows : s.device.plan.grows = true)
    (took : op.taken s ≠ []) : (op.run s).AtEnd := by
  have counted {bytes : Bytes} {n : Nat} (took : bytes.take n ≠ []) : n ≠ 0 := by
    rintro rfl
    exact took (List.take_zero)
  cases op with
  | write bytes =>
    have some : bytes ≠ [] := by
      rintro rfl
      exact took (List.take_nil)
    show (s.write bytes).2.AtEnd
    rw [write, if_neg (by simp [some])]
    exact emit_atEnd hs grows (counted took)
  | writeAll bytes =>
    show (s.writeAll bytes).2.AtEnd
    rw [writeAll_snd]
    exact emit_atEnd hs grows (counted took)
  | putc byte =>
    show (s.writeAll [byte]).2.AtEnd
    rw [writeAll_snd]
    exact emit_atEnd hs grows (counted took)
  | _ => exact absurd rfl took

/-- a flush that succeeds on a stream at the end leaves it where the data ends -/
theorem flush_tell (hs : s.Appending) (h : s.AtEnd) (flushed : s.flush = (.ok (), u)) :
    u.tell = u.device.data.length := by
  have path : Path false s [] [] s.flush.2 := flush_path
  rw [flushed] at path
  have hu := path.appending hs
  have w := path.writing.trans h.1
  have settled := flush_ok flushed h.1
  have kept := drain_atEnd hs h.1 (.inr h)
  rw [show s.drain = (.ok (), u) by rw [← flushed, flush, if_pos h.1]] at kept
  obtain ⟨-, cursor⟩ := hu.empty w settled
  rw [tell, cursor, (hu.sound.collecting w).pushed, kept.2 settled,
    Memory.length_data hu.device.toSound]
  rfl

/-! ## the end -/

/-- where storage can be had a flush succeeds -/
theorem flush_ample {top : Nat} (hs : s.Appending) (a : s.device.plan.Ample top)
    (fits : s.whole.length ≤ top) : ∃ u, s.flush = (.ok (), u) := by
  cases w : s.writing with
  | false => exact ⟨s, by rw [flush, if_neg (by simp [w])]⟩
  | true =>
    rw [flush, if_pos w]
    by_cases h0 : s.buffer.pendingSize = 0
    · exact ⟨s, drain_idle h0⟩
    · have length := Buffer.length_pending hs.sound.buffer
      have hb : s.buffer.pending ≠ [] := by
        intro empty
        rw [empty] at length
        exact h0 length.symm
      have able : s.abilities.write = true := by rw [hs.able]; rfl
      rw [whole, outstanding_writing w, List.length_append,
        Memory.length_data hs.device.toSound] at fits
      obtain ⟨d, call⟩ := hs.device.write_ample a hb fits
      exact ⟨s.afterAll d, drain_all able call (Nat.pos_of_ne_zero h0) (Nat.le_of_eq length.symm)⟩

/-- the storage that a stream gives away holds the data and the output that was pending -/
theorem snatch_whole (hs : s.Appending) (flushed : s.flush = (.ok (), u)) :
    s.snatch = (.ok s.whole, { u with device := u.device.emptied }) ∧
      (u.writing = true → u.buffer.pendingSize = 0) := by
  have path : Path false s [] [] s.flush.2 := flush_path
  have whole := flush_whole hs
  rw [flushed] at path whole
  have settled : u.Settled := fun w => flush_ok flushed (path.writing.symm.trans w)
  refine ⟨?_, settled⟩
  rw [snatch, flushed, ← whole, whole_settled settled]
  rfl

end Stream

namespace Desk

variable {σ : Type} {k : Desk Memory σ} {h : Handle} {s : Stream Memory}

theorem closeSnatch_whole (hs : s.Appending) (opn : s.closed = false) (named : k.find? h = some s)
    {u : Stream Memory} (flushed : s.flush = (.ok (), u)) :
    (k.closeSnatch h).map (·.1) = some (.ok s.whole) := by
  obtain ⟨snatched, settled⟩ := Stream.snatch_whole hs flushed
  have path : Stream.Path false s [] [] s.flush.2 := Stream.flush_path
  rw [flushed] at path
  obtain ⟨-, able, closed⟩ := path.constant
  have ended := Stream.close_settled (u := { u with device := u.device.emptied })
    (closed.trans opn) (able.trans hs.able) settled
  have again := find?_replace named { u with device := u.device.emptied }
  rw [closeSnatch, visit_memory named, snatched]
  dsimp only
  rw [close, remove, again]
  dsimp only
  have loan : ∀ (shared : σ) (v : Stream Memory),
      borrow Stream.close shared v = (v.close.1, v.close.2, shared) := fun _ _ => rfl
  rw [loan, ended]
  rfl

/-- the storage is only handed over after a flush -/
theorem closeSnatch_flushed (named : k.find? h = some s) {bytes : Bytes}
    (ok : (k.closeSnatch h).map (·.1) = some (.ok bytes)) : ∃ u, s.flush = (.ok (), u) := by
  rcases hf : s.flush with ⟨f | _, u⟩
  · have snatched : s.snatch = (.error f, u) := by rw [Stream.snatch, hf]
    rw [closeSnatch, visit_memory named, snatched] at ok
    dsimp only at ok
    rw [close, remove, find?_replace named] at ok
    cases ok
  · exact ⟨u, rfl⟩

/-- Take a memory device just made that grows and appends, and any operations on an append stream
over it.  The data is what it was, then what the writes took and the zero bytes up to where each seek
went, in the order of the operations, but for the end of it, which may still be pending.  What is there
stays there.  A flush right after a write that took something leaves the stream where the data ends.
And when the stream is closed and there is storage to be had, the caller gets all of it. -/
theorem append_never_overwrites (p : Memory.Plan) (m : Memory) (content : Bytes) (first : Nat)
    (made : Memory.Made p m content first) (appends : p.append = true) (grows : p.grows = true)
    (small : first < offsetRange) (o : Opening) (mode : OpenMode) (append : mode.append = true)
    (ops : List Op) :
    let start := Stream.opened o m mode
    let s := Stream.after ops start
    let log := Stream.logged ops start content
    s.device.data ++ s.outstanding = log ∧
      (∀ later, s.device.data <+: (Stream.after later s).device.data) ∧
      (∀ (op : Op) u, op.taken s ≠ [] → (op.run s).flush = (.ok (), u) →
        u.tell = u.device.data.length ∧ u.device.data = log ++ op.taken s) ∧
      ∀ (σ : Type) (k : Desk Memory σ) (h : Handle), k.find? h = some s →
        (∀ bytes, (k.closeSnatch h).map (·.1) = some (.ok bytes) → bytes = log) ∧
          ∀ top, p.Ample top → log.length ≤ top → (k.closeSnatch h).map (·.1) = some (.ok log) := by
  intro start s log
  obtain ⟨hs₀, -⟩ := Stream.opened_appending made appends small o append
  have stands := made.stands small
  have path : Stream.Path true start (Stream.given ops start) (Stream.taken ops start) s :=
    Stream.after_path ops hs₀.sound
  have hs : s.Appending := path.appending hs₀
  have plan : s.device.plan = p := (path.extends hs₀).plan.trans stands.plan_eq
  have opn : s.closed = false := path.constant.2.2
  have whole : s.whole = log := by
    have fresh : start.whole = content := (Stream.whole_settled fun _ => rfl).trans stands.data
    rw [Stream.after_whole ops hs₀, fresh]
  refine ⟨whole, ?_, ?_, ?_⟩
  · intro later
    exact ((Stream.after_path later hs.sound).extends hs).data
  · intro op u took flushed
    have path' := Stream.op_path op hs.sound
    have hs' := path'.appending hs
    have atEnd := Stream.op_atEnd op hs (by rw [plan]; exact grows) took
    refine ⟨Stream.flush_tell hs' atEnd flushed, ?_⟩
    have settled : u.Settled := fun _ => Stream.flush_ok flushed atEnd.1
    have flush := Stream.flush_whole hs'
    rw [flushed, Stream.op_whole op hs, op.entry_taken took, whole] at flush
    exact (Stream.whole_settled settled).symm.trans flush
  · intro σ k h named
    refine ⟨?_, ?_⟩
    · intro bytes ok
      obtain ⟨u, flushed⟩ := closeSnatch_flushed named ok
      rw [closeSnatch_whole hs opn named flushed, whole] at ok
      cases ok
      rfl
    · intro top ample fits
      rw [← plan] at ample
      rw [← whole] at fits ⊢
      obtain ⟨u, flushed⟩ := Stream.flush_ample hs ample fits
      exact closeSnatch_whole hs opn named flushed

/-- wherever the stream is moved, its writes go to the end, and a seek beyond it fills the gap -/
theorem append_never_overwrites_eight :
    let plan : Memory.Plan := { append := true, block := 4 }
    let start := Stream.opened { capacity := 3 } (Memory.ofData [1, 2] plan)
      { access := .readWrite, append := true }
    let ops : List Op := [.write [3], .rewind, .read 1, .write [4, 5], .seek 7 .start, .seek 2 .start,
      .setStrategy .direct, .write [6]]
    let k : Desk Memory Unit :=
      { slots := [⟨1, some (Stream.after ops start)⟩], live := 1, shared := () }
    plan.append = true ∧ plan.grows = true ∧
      Stream.logged ops start [1, 2] = [1, 2, 3, 4, 5, 0, 0, 6] ∧
      [1, 2] <+: (Stream.after ops start).device.data ∧
      (k.closeSnatch ⟨0, 1⟩).map (·.1) = some (.ok [1, 2, 3, 4, 5, 0, 0, 6]) := by
  intro plan start ops k
  have log : Stream.logged ops start [1, 2] = [1, 2, 3, 4, 5, 0, 0, 6] := by decide +kernel
  have ample : plan.Ample 100 := ⟨rfl, rfl, by decide⟩
  obtain ⟨-, stays, -, -⟩ := append_never_overwrites plan (Memory.ofData [1, 2] plan) [1, 2] 2
    (.ofData _) rfl rfl (by decide) { capacity := 3 } { access := .readWrite, append := true } rfl []
  obtain ⟨-, -, -, ends⟩ := append_never_overwrites plan (Memory.ofData [1, 2] plan) [1, 2] 2
    (.ofData _) rfl rfl (by decide) { capacity := 3 } { access := .readWrite, append := true } rfl ops
  have handed := (ends Unit k ⟨0, 1⟩ rfl).2 100 ample (by rw [log]; decide)
  rw [log] at handed
  exact ⟨rfl, rfl, log, stays ops, handed⟩

end Desk

end BufferedStreams
