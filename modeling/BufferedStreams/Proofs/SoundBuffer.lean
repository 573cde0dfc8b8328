import BufferedStreams.Stream.Input

/-!
# Sound buffers

The cursors of a buffer stand in order, and each direction asks for a little more:

* `Buffer.Sound`        `drained ≤ cursor ≤ filled ≤ capacity`, and the pushback fits its room;
* `Buffer.Serving`      a buffer that hands out input: nothing counts as drained;
* `Buffer.Collecting`   a buffer that collects output: nothing is pushed back, the fill level is
                        the cursor, and a buffer without pending output starts at its first byte.

Below, each operation keeps what its direction asks for (`Serving.take`, `Collecting.append`, ...)
and does to the views `readable`, `pushed` and `pending` what it says (`readable_take`,
`pending_append`, ...).
-/

namespace BufferedStreams.Buffer

/-- the cursors stand in order and the pushback fits its room -/
structure Sound (b : Buffer) : Prop where
  drained_le : b.drained ≤ b.cursor
  cursor_le : b.cursor ≤ b.filled
  filled_le : b.filled ≤ b.capacity
  room : 0 < b.capacity
  pushed_le : b.pushed.length ≤ pushbackRoom

/-- a sound buffer that hands out input -/
structure Serving (b : Buffer) : Prop extends Sound b where
  drained : b.drained = 0

/-- a sound buffer that collects output -/
structure Collecting (b : Buffer) : Prop extends Sound b where
  pushed : b.pushed = []
  filled : b.filled = b.cursor
  settled : b.pendingSize = 0 → b.cursor = 0

/-! ## lengths of the views -/

theorem length_readable {b : Buffer} (h : b.Sound) : b.readable.length = b.readableSize := by
  have := h.cursor_le
  have := h.filled_le
  simp only [readable, Slab.length_slice, readableSize, capacity] at *
  omega

theorem length_pending {b : Buffer} (h : b.Sound) : b.pending.length = b.pendingSize := by
  have := h.cursor_le
  have := h.filled_le
  simp only [pending, Slab.length_slice, pendingSize, capacity] at *
  omega

theorem pending_eq_nil {b : Buffer} (h : b.pendingSize = 0) : b.pending = [] := by
  rw [pending, h, Slab.slice_eq, List.take_zero]

theorem readable_eq_nil {b : Buffer} (h : b.readableSize = 0) : b.readable = [] := by
  rw [readable, h, Slab.slice_eq, List.take_zero]

/-! ## making and emptying -/

theorem collecting_ofCapacity (n : Nat) : (ofCapacity n).Collecting where
  drained_le := Nat.le_refl 0
  cursor_le := Nat.le_refl 0
  filled_le := Nat.zero_le _
  room := Nat.lt_of_lt_of_le Nat.one_pos (Nat.le_max_right n 1)
  pushed_le := Nat.zero_le _
  pushed := rfl
  filled := rfl
  settled _ := rfl

theorem serving_ofCapacity (n : Nat) : (ofCapacity n).Serving :=
  ⟨(collecting_ofCapacity n).toSound, rfl⟩

@[simp] theorem capacity_clear (b : Buffer) : b.clear.capacity = b.capacity := rfl
@[simp] theorem capacity_forgetOutput (b : Buffer) : b.forgetOutput.capacity = b.capacity := rfl
@[simp] theorem pendingSize_forgetOutput (b : Buffer) : b.forgetOutput.pendingSize = 0 := rfl
@[simp] theorem readableSize_clear (b : Buffer) : b.clear.readableSize = 0 := rfl

theorem Serving.clear {b : Buffer} (h : b.Serving) : b.clear.Serving where
  drained_le := Nat.le_of_eq h.drained
  cursor_le := Nat.le_refl 0
  filled_le := Nat.zero_le _
  room := h.room
  pushed_le := Nat.zero_le _
  drained := h.drained

/-- an input buffer with nothing in it can collect output -/
theorem Serving.collecting {b : Buffer} (h : b.Serving) (filled : b.filled = 0)
    (pushed : b.pushed = []) : b.Collecting where
  toSound := h.toSound
  pushed := pushed
  filled := by have := h.cursor_le; omega
  settled _ := by have := h.cursor_le; omega

/-- an output buffer without pending output can hand out input -/
theorem Collecting.serving {b : Buffer} (h : b.Collecting) (settled : b.pendingSize = 0) :
    b.Serving where
  toSound := h.toSound
  drained := by
    have := h.drained_le
    have := h.settled settled
    omega

theorem Collecting.forgetOutput {b : Buffer} (h : b.Collecting) : b.forgetOutput.Collecting where
  drained_le := Nat.le_refl 0
  cursor_le := Nat.le_refl 0
  filled_le := Nat.zero_le _
  room := h.room
  pushed_le := h.pushed_le
  pushed := h.pushed
  filled := rfl
  settled _ := rfl

/-! ## input -/

theorem Serving.expose {b : Buffer} (h : b.Serving) (n : Nat) : (b.expose n).Serving where
  drained_le := Nat.le_of_eq h.drained
  cursor_le := Nat.zero_le _
  filled_le := Nat.min_le_right _ _
  room := h.room
  pushed_le := h.pushed_le
  drained := h.drained

@[simp] theorem readableSize_expose_zero (b : Buffer) : (b.expose 0).readableSize = 0 :=
  Nat.zero_min b.capacity

@[simp] theorem capacity_receive (b : Buffer) (d : Delivery) :
    (b.receive d).capacity = b.capacity := by
  simp [receive, expose, capacity]

@[simp] theorem filled_receive (b : Buffer) (d : Delivery) :
    (b.receive d).filled = min d.count b.capacity := by
  simp [receive, expose, capacity]

@[simp] theorem pushed_receive (b : Buffer) (d : Delivery) : (b.receive d).pushed = b.pushed := rfl
@[simp] theorem cursor_receive (b : Buffer) (d : Delivery) : (b.receive d).cursor = 0 := rfl

theorem Serving.receive {b : Buffer} (h : b.Serving) (d : Delivery) : (b.receive d).Serving where
  drained_le := Nat.le_of_eq h.drained
  cursor_le := Nat.zero_le _
  filled_le := by rw [filled_receive, capacity_receive]; exact Nat.min_le_right _ _
  room := by rw [capacity_receive]; exact h.room
  pushed_le := h.pushed_le
  drained := h.drained

/-- a delivery of no more bytes than fit becomes the read-ahead -/
theorem readable_receive (b : Buffer) (d : Delivery) (hn : d.count ≤ b.capacity)
    (hb : d.count ≤ d.bytes.length) : (b.receive d).readable = d.bytes.take d.count := by
  have hs : (b.receive d).readableSize = d.count := by
    rw [readableSize, filled_receive, cursor_receive, Nat.sub_zero, Nat.min_eq_left hn]
  have ht : (b.receive d).slot = b.slot.store 0 d.bytes := rfl
  rw [readable, hs, cursor_receive, ht, Slab.slice_eq, Slab.toList_store, List.take_zero,
    List.nil_append, List.drop_zero, Nat.sub_zero, List.take_append_of_le_length]
  · rw [List.take_take]
    exact congrArg (List.take · d.bytes) (Nat.min_eq_left hn)
  · rw [List.length_take]
    exact Nat.le_min.mpr ⟨hn, hb⟩

@[simp] theorem capacity_take (b : Buffer) (n : Nat) : (b.take n).2.capacity = b.capacity := rfl
@[simp] theorem filled_take (b : Buffer) (n : Nat) : (b.take n).2.filled = b.filled := rfl
@[simp] theorem pushed_take (b : Buffer) (n : Nat) : (b.take n).2.pushed = b.pushed := rfl

@[simp] theorem cursor_take (b : Buffer) (n : Nat) :
    (b.take n).2.cursor = b.cursor + min n b.readableSize := rfl

theorem readableSize_take (b : Buffer) (n : Nat) :
    (b.take n).2.readableSize = b.readableSize - n := by
  simp only [readableSize, filled_take, cursor_take]
  omega

theorem Serving.take {b : Buffer} (h : b.Serving) (n : Nat) : (b.take n).2.Serving where
  drained_le := by rw [cursor_take]; exact Nat.le_add_right_of_le h.drained_le
  cursor_le := by
    have := h.cursor_le
    simp only [cursor_take, filled_take, readableSize]
    omega
  filled_le := h.filled_le
  room := h.room
  pushed_le := h.pushed_le
  drained := h.drained

/-- what is handed out is the start of the read-ahead -/
theorem take_fst (b : Buffer) (n : Nat) : (b.take n).1 = b.readable.take n := by
  rw [readable, Slab.slice_eq, List.take_take]
  exact Slab.slice_eq _ _ _

theorem readable_take (b : Buffer) (n : Nat) : (b.take n).2.readable = b.readable.drop n := by
  have hs : (b.take n).2.slot = b.slot := rfl
  rw [readable, hs, readableSize_take, cursor_take, Slab.slice_eq, readable, Slab.slice_eq,
    List.drop_take, List.drop_drop]
  by_cases h : n ≤ b.readableSize
  · rw [Nat.min_eq_left h]
  · rw [Nat.sub_eq_zero_of_le (by omega : b.readableSize ≤ n), List.take_zero, List.take_zero]

theorem length_take_fst {b : Buffer} (h : b.Sound) (n : Nat) :
    (b.take n).1.length = min n b.readableSize := by
  rw [take_fst, List.length_take, length_readable h]

/-! ## pushback -/

theorem Serving.takePushed {b : Buffer} (h : b.Serving) (n : Nat) :
    (b.takePushed n).2.Serving where
  drained_le := h.drained_le
  cursor_le := h.cursor_le
  filled_le := h.filled_le
  room := h.room
  pushed_le := by
    have := h.pushed_le
    simp only [Buffer.takePushed, List.length_drop]
    omega
  drained := h.drained

theorem length_pushBack (b : Buffer) (bytes : Bytes) :
    (b.pushBack bytes).1 = min bytes.length (pushbackRoom - b.pushed.length) := by
  simp only [pushBack, List.length_take]
  exact Nat.min_comm _ _

theorem Serving.pushBack {b : Buffer} (h : b.Serving) (bytes : Bytes) :
    (b.pushBack bytes).2.Serving where
  drained_le := h.drained_le
  cursor_le := h.cursor_le
  filled_le := h.filled_le
  room := h.room
  pushed_le := by
    have := h.pushed_le
    simp only [Buffer.pushBack, List.length_append, List.length_reverse, List.length_take]
    omega
  drained := h.drained

/-- a skip drops bytes of the pushback if there is any, else of the read-ahead -/
theorem skipped_eq_ok {n : Nat} {b b' : Buffer} (h : Stream.skipped n b = .ok b') :
    (b.pushed ≠ [] ∧ n ≤ b.pushed.length ∧ b' = { b with pushed := b.pushed.drop n }) ∨
      (b.pushed = [] ∧ n ≤ b.readableSize ∧ b' = (b.take n).2) := by
  unfold Stream.skipped at h
  split at h
  · next hp =>
    rw [dropPushed] at h
    split at h
    · exact absurd h (by simp)
    · next hn =>
      injection h with h
      exact .inl ⟨hp, Nat.le_of_not_lt hn, h.symm⟩
  · next hp =>
    rw [consume] at h
    split at h
    · exact absurd h (by simp)
    · next hn =>
      injection h with h
      refine .inr ⟨Decidable.not_not.mp hp, Nat.le_of_not_lt hn, ?_⟩
      rw [← h, Buffer.take, Nat.min_eq_left (Nat.le_of_not_lt hn)]

theorem Serving.skipped {b b' : Buffer} {n : Nat} (h : b.Serving)
    (hk : Stream.skipped n b = .ok b') : b'.Serving := by
  rcases skipped_eq_ok hk with ⟨-, -, rfl⟩ | ⟨-, -, rfl⟩
  · exact h.takePushed n
  · exact h.take n

/-! ## output -/

theorem Collecting.markDrained {b : Buffer} (h : b.Collecting) {n : Nat}
    (hn : n < b.pendingSize) : (b.markDrained n).Collecting where
  drained_le := Nat.min_le_right _ _
  cursor_le := h.cursor_le
  filled_le := h.filled_le
  room := h.room
  pushed_le := h.pushed_le
  pushed := h.pushed
  filled := h.filled
  settled h0 := by
    rw [pendingSize_markDrained] at h0
    omega

theorem pending_markDrained {b : Buffer} (h : b.drained ≤ b.cursor) (n : Nat) :
    (b.markDrained n).pending = b.pending.drop n := by
  have hs : (b.markDrained n).slot = b.slot := rfl
  have hd : (b.markDrained n).drained = min (b.drained + n) b.cursor := rfl
  rw [pending, hs, hd, pendingSize_markDrained, Slab.slice_eq, pending, Slab.slice_eq,
    List.drop_take, List.drop_drop]
  by_cases hn : n ≤ b.pendingSize
  · rw [Nat.min_eq_left (by rw [pendingSize] at hn; omega)]
  · rw [Nat.sub_eq_zero_of_le (by omega : b.pendingSize ≤ n), List.take_zero, List.take_zero]

@[simp] theorem capacity_append (b : Buffer) (bytes : Bytes) :
    (b.append bytes).2.capacity = b.capacity := by
  simp [append, capacity]

@[simp] theorem cursor_append (b : Buffer) (bytes : Bytes) :
    (b.append bytes).2.cursor = b.cursor + min b.space bytes.length := by
  simp [append]

@[simp] theorem drained_append (b : Buffer) (bytes : Bytes) :
    (b.append bytes).2.drained = b.drained := rfl

theorem Collecting.append {b : Buffer} (h : b.Collecting) (bytes : Bytes) :
    (b.append bytes).2.Collecting := by
  have hd := h.drained_le
  have hc := h.cursor_le
  have hf := h.filled_le
  have hfill : (b.append bytes).2.filled = (b.append bytes).2.cursor := rfl
  have hpush : (b.append bytes).2.pushed = b.pushed := rfl
  refine ⟨⟨?_, Nat.le_of_eq hfill.symm, ?_, ?_, ?_⟩, ?_, hfill, ?_⟩
  · rw [drained_append, cursor_append]
    omega
  · rw [hfill, cursor_append, capacity_append, space]
    omega
  · rw [capacity_append]
    exact h.room
  · rw [hpush]
    exact h.pushed_le
  · rw [hpush]
    exact h.pushed
  · intro h0
    rw [pendingSize, cursor_append, drained_append] at h0
    have := h.settled (by rw [pendingSize]; omega)
    rw [cursor_append]
    omega

theorem pending_append {b : Buffer} (h : b.Sound) (bytes : Bytes) :
    (b.append bytes).2.pending = b.pending ++ bytes.take b.space := by
  have hd := h.drained_le
  have hc : b.cursor ≤ b.slot.size := Nat.le_trans h.cursor_le h.filled_le
  have hsp : b.space = b.slot.size - b.cursor := rfl
  have hs : (b.append bytes).2.slot = b.slot.store b.cursor (bytes.take b.space) := rfl
  have hn : (b.append bytes).2.pendingSize = b.pendingSize + (bytes.take b.space).length := by
    rw [pendingSize, cursor_append, drained_append, pendingSize, List.length_take]
    omega
  have hfit : (bytes.take b.space).take (b.slot.size - b.cursor) = bytes.take b.space := by
    rw [hsp, List.take_take, Nat.min_self]
  have hl : (b.slot.toList.take b.cursor).length = b.cursor := by
    rw [List.length_take, Slab.length_toList, Nat.min_eq_left hc]
  rw [pending, hn, drained_append, hs, Slab.slice_eq, Slab.toList_store, hfit, pending,
    Slab.slice_eq, List.append_assoc, List.drop_append_of_le_length (by omega), List.drop_take]
  have hp : (List.take (b.cursor - b.drained) (List.drop b.drained b.slot.toList)).length
      = b.pendingSize := by
    rw [List.length_take, List.length_drop, Slab.length_toList, pendingSize]
    omega
  rw [List.take_append, hp, Nat.add_sub_cancel_left, List.take_of_length_le (by omega),
    List.take_left]
  rfl

end BufferedStreams.Buffer
