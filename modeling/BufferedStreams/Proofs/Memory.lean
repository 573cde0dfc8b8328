import BufferedStreams.Device.Memory
import BufferedStreams.Proofs.Contract

/-!
# What memory does

The calls of a memory device, told by its data and its cursor.

* `Memory.read_eq`        a read takes the next bytes of the data and never fails;
* `Memory.write_cases`    a write puts the start of its bytes, or fails and has at most moved the
                          cursor to the end of the data, as an append device does first;
* `Memory.seek_cases`     a seek fails and changes nothing, or moves the cursor to where it says;
* `Memory.data_put`, `Memory.data_moveTo`   what becomes of the data.

So a device that does not append has a position and bytes to deliver (`Cursor.memory`,
`Source.memory`).
-/

namespace BufferedStreams

namespace Memory

/-- the cursor is inside the data, and the data inside the storage -/
structure Sound (m : Memory) : Prop where
  cursor_le : m.cursor ≤ m.length
  length_le : m.length ≤ m.capacity

theorem Sound.cursor_le_capacity {m : Memory} (h : m.Sound) : m.cursor ≤ m.capacity :=
  Nat.le_trans h.cursor_le h.length_le

/-- the cursor is inside the data, the data inside the storage, and the device, made by a plan, does
not append -/
structure Plain (m : Memory) (p : Plan) : Prop where
  cursor_le : m.cursor ≤ m.length
  length_le : m.length ≤ m.capacity
  plan_eq : m.plan = p
  overwrites : p.append = false

theorem Plain.sound {m : Memory} {p : Plan} (h : m.Plain p) : m.Sound := ⟨h.cursor_le, h.length_le⟩

theorem Sound.plain {m m' : Memory} {p : Plan} (h : m'.Sound) (hm : m.Plain p)
    (plan : m'.plan = m.plan) : m'.Plain p :=
  ⟨h.cursor_le, h.length_le, plan.trans hm.plan_eq, hm.overwrites⟩

theorem plain_ofData (bytes : Bytes) {p : Plan} (h : p.append = false) :
    (ofData bytes p).Plain p where
  cursor_le := Nat.zero_le _
  length_le := Nat.le_refl _
  plan_eq := rfl
  overwrites := h

theorem data_eq (m : Memory) : m.data = m.storage.toList.take m.length := by
  rw [data, Slab.slice_eq, List.drop_zero]

theorem data_ofData (bytes : Bytes) (plan : Plan) : (ofData bytes plan).data = bytes := by
  rw [data_eq]
  show (Slab.ofList bytes).toList.take bytes.length = bytes
  rw [Slab.toList_ofList, List.take_length]

variable {m : Memory} {p : Plan}

theorem length_data (h : m.Sound) : m.data.length = m.length := by
  rw [data_eq, List.length_take, Slab.length_toList]
  exact Nat.min_eq_left h.length_le

theorem forWrite_eq (h : m.Plain p) : m.forWrite = m := by
  rw [forWrite, if_neg (by simp [h.plan_eq, h.overwrites])]

theorem forWrite_append (h : m.plan.append = true) : m.forWrite = { m with cursor := m.length } := by
  rw [forWrite, if_pos h]

theorem sound_forWrite (h : m.Sound) : m.forWrite.Sound := by
  unfold forWrite
  split
  · exact ⟨Nat.le_refl _, h.length_le⟩
  · exact h

@[simp] theorem data_forWrite (m : Memory) : m.forWrite.data = m.data := by
  unfold forWrite
  split <;> rfl

@[simp] theorem plan_forWrite (m : Memory) : m.forWrite.plan = m.plan := by
  unfold forWrite
  split <;> rfl

@[simp] theorem capacity_forWrite (m : Memory) : m.forWrite.capacity = m.capacity := by
  unfold forWrite
  split <;> rfl

/-! ## reads -/

/-- the data from the cursor on -/
def rest (m : Memory) : Bytes := m.data.drop m.cursor

theorem length_rest (h : m.Sound) : m.rest.length = m.length - m.cursor := by
  rw [rest, List.length_drop, length_data h]

/-- the cursor `k` bytes further -/
def forward (m : Memory) (k : Nat) : Memory := { m with cursor := m.cursor + k }

theorem read_eq (m : Memory) (n : Nat) :
    m.read n = (.ok ⟨m.rest.take n, min n (m.length - m.cursor)⟩,
      m.forward (min n (m.length - m.cursor))) := by
  rw [read, Slab.slice_eq, rest, data_eq, List.drop_take, List.take_take, forward]

theorem rest_forward (m : Memory) (k : Nat) : (m.forward k).rest = m.rest.drop k := by
  show m.data.drop (m.cursor + k) = _
  rw [rest, List.drop_drop]

theorem sound_forward (h : m.Sound) (n : Nat) :
    (m.forward (min n (m.length - m.cursor))).Sound where
  cursor_le := by
    have := h.cursor_le
    show m.cursor + _ ≤ m.length
    omega
  length_le := h.length_le

/-! ## storage -/

theorem Plan.le_rounded (p : Plan) (n : Nat) : n ≤ p.rounded n := by
  have hb : 0 < max p.block 1 := Nat.lt_of_lt_of_le Nat.one_pos (Nat.le_max_right _ _)
  unfold rounded
  dsimp only
  generalize max p.block 1 = block at hb
  have h := Nat.div_add_mod (n + block - 1) block
  have := Nat.mod_lt (n + block - 1) hb
  rw [Nat.mul_comm] at h
  omega

theorem Plan.rounded_le_rounded (p : Plan) {n k : Nat} (h : n ≤ k) : p.rounded n ≤ p.rounded k := by
  refine Nat.mul_le_mul_right _ (Nat.div_le_div_right ?_)
  omega

/-- storage for `top` bytes can be had -/
structure Plan.Ample (p : Plan) (top : Nat) : Prop where
  grows : p.grows = true
  limit : p.limit = none
  rounded_le : p.rounded top ≤ allocatable

theorem Plan.Ample.le_allocatable {top : Nat} (a : p.Ample top) : top ≤ allocatable :=
  Nat.le_trans (p.le_rounded top) a.rounded_le

theorem Plan.grown_ample {top n : Nat} (a : p.Ample top) (h : n ≤ top) :
    p.grown n = .ok (p.rounded n) := by
  have hr : p.rounded n ≤ allocatable := Nat.le_trans (p.rounded_le_rounded h) a.rounded_le
  have hx : p.exceeds n = false := by rw [exceeds, a.limit]
  have hc : p.capped (p.rounded n) = p.rounded n := by rw [capped, a.limit]
  have hw : allocatable < wordRange := by decide
  rw [grown, hx, hc, if_neg (by simp), if_neg (by omega), if_neg (Nat.not_lt.mpr hr)]

theorem Plan.grown_le {p : Plan} {n size : Nat} (h : p.grown n = .ok size) :
    size ≤ allocatable := by
  unfold grown at h
  split at h
  · cases h
  · split at h
    · cases h
    · split at h
      · cases h
      · next small =>
        cases h
        exact Nat.le_of_not_lt small

theorem Plan.exceeds_eq_false {p : Plan} {n : Nat} :
    p.exceeds n = false ↔ ∀ most ∈ p.limit, n ≤ most := by
  unfold exceeds
  cases p.limit <;> simp

/-- a size within the limit is not touched by it -/
theorem Plan.le_capped {p : Plan} {n k : Nat} (within : p.exceeds n = false) (h : n ≤ k) :
    n ≤ p.capped k := by
  unfold capped
  split
  · next most limit => exact Nat.le_min.mpr ⟨h, exceeds_eq_false.mp within most limit⟩
  · exact h

theorem Plan.le_grown {p : Plan} {n size : Nat} (h : p.grown n = .ok size) : n ≤ size := by
  unfold grown at h
  split at h
  · cases h
  · next within =>
    split at h
    · cases h
    · split at h
      · cases h
      · cases h
        exact le_capped (Bool.eq_false_iff.mpr within) (p.le_rounded n)

/-- the same with storage for `size` bytes -/
def grown (m : Memory) (size : Nat) : Memory := { m with storage := m.storage.grow size }

@[simp] theorem capacity_grown (m : Memory) (size : Nat) :
    (m.grown size).capacity = max m.capacity size := rfl

theorem grown_zero (m : Memory) : m.grown 0 = m := by
  have hs : m.storage.grow 0 = m.storage := by
    rw [Slab.grow]
    congr 1
    exact Nat.max_eq_left (Nat.zero_le _)
  rw [grown, hs]

theorem data_grown (h : m.Sound) (size : Nat) : (m.grown size).data = m.data := by
  rw [data_eq, data_eq]
  show (m.storage.grow size).toList.take m.length = _
  rw [Slab.toList_grow, List.take_append_of_le_length]
  rw [Slab.length_toList]
  exact h.length_le

/-- more storage changes nothing else -/
theorem extend_cases (m : Memory) (n : Nat) :
    (∃ f, m.extend n = .error f) ∨
      ∃ size ≤ allocatable, m.extend n = .ok (m.grown size) ∧ n ≤ (m.grown size).capacity := by
  unfold extend
  split
  · next h =>
    refine .inr ⟨0, Nat.zero_le _, ?_, ?_⟩
    · rw [grown_zero]
    · rw [grown_zero]
      exact h
  · split
    · next size hg =>
      exact .inr ⟨size, Plan.grown_le hg, rfl,
        Nat.le_trans (Plan.le_grown hg) (Nat.le_max_right _ _)⟩
    · exact .inl ⟨_, rfl⟩

theorem extend_ample {top n : Nat} (h : m.Plain p) (a : p.Ample top) (hn : n ≤ top) :
    ∃ size, m.extend n = .ok (m.grown size) ∧ n ≤ (m.grown size).capacity := by
  rcases extend_cases m n with ⟨f, he⟩ | ⟨size, -, more⟩
  · unfold extend at he
    rw [h.plan_eq, Plan.grown_ample a hn] at he
    split at he <;> cases he
  · exact ⟨size, more⟩

theorem makeRoom_cases (m : Memory) (n : Nat) :
    (∃ f, m.makeRoom n = .error f) ∨
      ∃ size ≤ allocatable, m.makeRoom n = .ok (m.grown size) ∧ n ≤ (m.grown size).capacity := by
  unfold makeRoom
  split
  · exact .inl ⟨_, rfl⟩
  · exact extend_cases m n

theorem sound_grown (h : m.Sound) (size : Nat) : (m.grown size).Sound where
  cursor_le := h.cursor_le
  length_le := Nat.le_trans h.length_le (Nat.le_max_left _ _)

/-! ## writes -/

@[simp] theorem capacity_put (m : Memory) (bytes : Bytes) : (m.put bytes).capacity = m.capacity :=
  Slab.size_store _ _ _

theorem sound_put (h : m.Sound) {bytes : Bytes} (fits : m.cursor + bytes.length ≤ m.capacity) :
    (m.put bytes).Sound where
  cursor_le := Nat.le_max_right _ _
  length_le := by
    rw [capacity_put]
    exact Nat.max_le.mpr ⟨h.length_le, fits⟩

theorem put_nil (h : m.Sound) : m.put [] = m := by
  have hs : m.storage.store m.cursor [] = m.storage := by
    rw [Slab.store]
    simp
  rw [put, hs]
  show { m with cursor := m.cursor, length := max m.length m.cursor } = m
  rw [Nat.max_eq_left h.cursor_le]

/-- the bytes stand over the data from the cursor on -/
theorem data_put (h : m.Sound) {bytes : Bytes} (fits : m.cursor + bytes.length ≤ m.capacity) :
    (m.put bytes).data = overlay m.data m.cursor bytes := by
  have hc := h.cursor_le
  have hl := h.length_le
  have ht : bytes.take (m.storage.size - m.cursor) = bytes := by
    apply List.take_of_length_le
    rw [capacity] at fits
    omega
  have hp : (m.storage.toList.take m.cursor ++ bytes).length = m.cursor + bytes.length := by
    rw [List.length_append, List.length_take, Slab.length_toList]
    rw [capacity] at hl
    omega
  have hn : max m.length (m.cursor + bytes.length) - (m.cursor + bytes.length) =
      m.length - (m.cursor + bytes.length) := by omega
  rw [data_eq]
  show (m.storage.store m.cursor bytes).toList.take (max m.length (m.cursor + bytes.length)) = _
  rw [Slab.toList_store, ht, List.take_append, hp, hn,
    List.take_of_length_le (by rw [hp]; exact Nat.le_max_right _ _), overlay, length_data h,
    Nat.sub_eq_zero_of_le hc, zeros_zero, List.nil_append, data_eq, List.take_take,
    Nat.min_eq_left hc, List.drop_take, List.append_assoc]

@[simp] theorem write_nil (m : Memory) : m.write [] = (.ok 0, m) := rfl

/-- a write puts the start of its bytes, or fails and has at most moved the cursor to the end of the
data -/
theorem write_cases (h : m.Sound) {bytes : Bytes} (hb : bytes ≠ []) :
    (∃ f, m.write bytes = (.error f, m.forWrite)) ∨
      ∃ n, ∃ size ≤ allocatable,
        m.write bytes = (.ok n, (m.forWrite.grown size).put (bytes.take n)) ∧ n ≤ bytes.length ∧
        m.forWrite.cursor + n ≤ (m.forWrite.grown size).capacity := by
  have hc := (sound_forWrite h).cursor_le_capacity
  unfold write
  rw [if_neg (by simp [hb])]
  dsimp only
  generalize m.forWrite = m at hc ⊢
  split
  · next fits =>
    refine .inr ⟨bytes.length, 0, Nat.zero_le _, ?_, Nat.le_refl _, ?_⟩
    · rw [grown_zero, List.take_length]
    · rw [grown_zero]
      omega
  · next big =>
    split
    · split
      · exact .inl ⟨_, rfl⟩
      · rcases extend_cases m (m.cursor + bytes.length) with ⟨f, he⟩ | ⟨size, small, he, fits⟩
        · rw [he]
          exact .inl ⟨f, rfl⟩
        · rw [he]
          refine .inr ⟨bytes.length, size, small, ?_, Nat.le_refl _, fits⟩
          rw [List.take_length]
    · refine .inr ⟨m.capacity - m.cursor, 0, Nat.zero_le _, ?_, by omega, ?_⟩
      · rw [grown_zero]
      · rw [grown_zero]
        omega

/-- an append device writes behind its data, and its cursor is at the end of the data afterwards, also
if it takes nothing -/
theorem write_append (h : m.Sound) (append : m.plan.append = true) {bytes : Bytes} (hb : bytes ≠ [])
    {r : Except Fault Nat} {d : Memory} (call : m.write bytes = (r, d)) :
    d.cursor = d.length ∧ ((∃ f, r = .error f ∧ d.length = m.length) ∨
      ∃ n, r = .ok n ∧ n ≤ bytes.length ∧ d.length = m.length + n) := by
  have start := forWrite_append append
  rcases write_cases h hb with ⟨f, hw⟩ | ⟨n, size, -, hw, hn, -⟩
  · obtain ⟨rfl, rfl⟩ := Prod.mk.inj (hw.symm.trans call)
    rw [start]
    exact ⟨rfl, .inl ⟨f, rfl, rfl⟩⟩
  · obtain ⟨rfl, rfl⟩ := Prod.mk.inj (hw.symm.trans call)
    have hl : (bytes.take n).length = n := List.length_take_of_le hn
    have past : max m.length (m.length + n) = m.length + n := Nat.max_eq_right (Nat.le_add_right _ _)
    have cursor : ((m.forWrite.grown size).put (bytes.take n)).cursor = m.length + n := by
      rw [start]
      exact congrArg (m.length + ·) hl
    have length : ((m.forWrite.grown size).put (bytes.take n)).length = m.length + n := by
      rw [start]
      show max m.length (m.length + (bytes.take n).length) = _
      rw [hl, past]
    exact ⟨cursor.trans length.symm, .inr ⟨n, rfl, hn, length⟩⟩

/-- a device that does not append changes nothing if it fails -/
theorem Plain.write_cases (h : m.Plain p) (bytes : Bytes) :
    (∃ f, m.write bytes = (.error f, m)) ∨
      ∃ n size, m.write bytes = (.ok n, (m.grown size).put (bytes.take n)) ∧ n ≤ bytes.length ∧
        m.cursor + n ≤ (m.grown size).capacity := by
  by_cases hb : bytes = []
  · subst hb
    refine .inr ⟨0, 0, ?_, Nat.le_refl _, ?_⟩
    · rw [grown_zero, List.take_nil, put_nil h.sound, write_nil]
    · rw [grown_zero]
      exact h.sound.cursor_le_capacity
  · have cases := Memory.write_cases h.sound hb
    rw [forWrite_eq h] at cases
    rcases cases with failed | ⟨n, size, -, put⟩
    · exact .inl failed
    · exact .inr ⟨n, size, put⟩

/-- a write fails and changes nothing, or its start stands over the data and the cursor behind it -/
theorem write_data (h : m.Plain p) {bytes : Bytes} {r : Except Fault Nat} {d : Memory}
    (call : m.write bytes = (r, d)) :
    ((∃ f, r = .error f) ∧ d = m) ∨
      ∃ n, r = .ok n ∧ n ≤ bytes.length ∧ d.data = overlay m.data m.cursor (bytes.take n) ∧
        d.cursor = m.cursor + n := by
  rcases h.write_cases bytes with ⟨f, hw⟩ | ⟨n, size, hw, hn, fits⟩
  · obtain ⟨rfl, rfl⟩ := Prod.mk.inj (hw.symm.trans call)
    exact .inl ⟨⟨f, rfl⟩, rfl⟩
  · obtain ⟨rfl, rfl⟩ := Prod.mk.inj (hw.symm.trans call)
    have hl : (bytes.take n).length = n := List.length_take_of_le hn
    refine .inr ⟨n, rfl, hn, ?_, ?_⟩
    · rw [data_put (sound_grown h.sound size) (by rw [hl]; exact fits), data_grown h.sound]
      rfl
    · show m.cursor + (bytes.take n).length = m.cursor + n
      rw [hl]

/-- with ample storage a write puts all of its bytes -/
theorem write_ample {top : Nat} (h : m.Plain p) (a : p.Ample top) {bytes : Bytes}
    (hb : m.cursor + bytes.length ≤ top) :
    ∃ size, m.write bytes = (.ok bytes.length, (m.grown size).put bytes) ∧
      m.cursor + bytes.length ≤ (m.grown size).capacity := by
  have hc : m.cursor ≤ m.capacity := Nat.le_trans h.cursor_le h.length_le
  have hw : top < wordRange := Nat.lt_of_le_of_lt a.le_allocatable (by decide)
  unfold write
  split
  · next empty =>
    obtain rfl := List.isEmpty_iff.mp empty
    refine ⟨0, ?_, ?_⟩
    · rw [grown_zero, put_nil h.sound]
      rfl
    · rw [grown_zero]
      exact hc
  · rw [forWrite_eq h]
    dsimp only
    split
    · next fits =>
      refine ⟨0, ?_, ?_⟩
      · rw [grown_zero]
      · rw [grown_zero]
        omega
    · obtain ⟨size, he, fits⟩ := extend_ample h a hb
      rw [if_pos (by rw [h.plan_eq]; exact a.grows), if_neg (by omega), he]
      exact ⟨size, rfl, fits⟩

/-! ## seeks -/

@[simp] theorem capacity_moveTo (m : Memory) (pos : Nat) : (m.moveTo pos).capacity = m.capacity :=
  Slab.size_wipe _ _ _

theorem sound_moveTo (h : m.Sound) {pos : Nat} (fits : pos ≤ m.capacity) :
    (m.moveTo pos).Sound where
  cursor_le := Nat.le_max_right _ _
  length_le := by
    rw [capacity_moveTo]
    exact Nat.max_le.mpr ⟨h.length_le, fits⟩

/-- a gap behind the data is filled with zero bytes -/
theorem data_moveTo (h : m.Sound) {pos : Nat} (fits : pos ≤ m.capacity) :
    (m.moveTo pos).data = m.data ++ zeros (pos - m.data.length) := by
  have hl := h.length_le
  rw [capacity] at hl fits
  have hp :
      (m.storage.toList.take m.length ++ zeros (pos - m.length)).length = max m.length pos := by
    rw [List.length_append, List.length_take, Slab.length_toList, length_zeros]
    omega
  rw [length_data h, data_eq, data_eq]
  show (m.storage.wipe m.length (pos - m.length)).toList.take (max m.length pos) = _
  rw [Slab.toList_wipe _ _ _ (by omega), ← hp, List.take_left]

/-- a seek fails and changes nothing, or moves the cursor to where it says -/
theorem seek_cases (m : Memory) (off : Int) (w : Whence) :
    (∃ f, m.seek off w = (.error f, m)) ∨
      ∃ pos, ∃ size ≤ allocatable, m.seek off w = (.ok pos, (m.grown size).moveTo pos) ∧
        pos ≤ (m.grown size).capacity := by
  unfold seek
  dsimp only
  generalize (m.base w : Int) + off = target
  split
  · exact .inl ⟨_, rfl⟩
  · split
    · exact .inl ⟨_, rfl⟩
    · rcases makeRoom_cases m target.toNat with ⟨f, he⟩ | ⟨size, small, he, fits⟩
      · rw [he]
        exact .inl ⟨f, rfl⟩
      · rw [he]
        exact .inr ⟨_, size, small, rfl, fits⟩

/-- a seek to a place in the data or in ample storage goes there -/
theorem seek_ample {top pos : Nat} (h : m.Plain p) (a : p.Ample top) {off : Int} {w : Whence}
    (hpos : (m.base w : Int) + off = pos) (hw : pos < wordRange)
    (le : pos ≤ m.length ∨ pos ≤ top) :
    ∃ size, m.seek off w = (.ok pos, (m.grown size).moveTo pos) ∧
      pos ≤ (m.grown size).capacity := by
  have room : ∃ size, m.makeRoom pos = .ok (m.grown size) ∧ pos ≤ (m.grown size).capacity := by
    unfold makeRoom
    rw [if_neg (by simp [h.plan_eq, a.grows])]
    rcases le with le | le
    · refine ⟨0, ?_, ?_⟩
      · rw [grown_zero, extend, if_pos (Nat.le_trans le h.length_le)]
      · rw [grown_zero]
        exact Nat.le_trans le h.length_le
    · exact extend_ample h a le
  obtain ⟨size, hr, fits⟩ := room
  refine ⟨size, ?_, fits⟩
  rw [seek, hpos, if_neg (by omega), if_neg (by omega), Int.toNat_natCast, hr]

/-- a seek to a place in the data goes there -/
theorem seek_within (h : m.Sound) {off : Int} {w : Whence} {pos : Nat}
    (hpos : (m.base w : Int) + off = pos) (le : pos ≤ m.length) (hw : pos < wordRange) :
    m.seek off w = (.ok pos, m.moveTo pos) ∧ (m.moveTo pos).length = m.length := by
  have fits : pos ≤ m.capacity := Nat.le_trans le h.length_le
  have room : m.makeRoom pos = .ok m := by
    rw [makeRoom, if_neg (by omega), extend, if_pos fits]
  refine ⟨?_, Nat.max_eq_left le⟩
  rw [seek, hpos, if_neg (by omega), if_neg (by omega), Int.toNat_natCast, room]

theorem seek_negative {off : Int} {w : Whence} (h : (m.base w : Int) + off < 0) :
    m.seek off w = (.error (.invalid .beforeStart), m) := by
  rw [seek, if_pos h]

end Memory

/-! ## contracts -/

namespace Cursor

/-- the position of a memory device is its cursor -/
def memory (p : Memory.Plan) : Cursor Memory where
  valid m := m.Plain p
  pos := Memory.cursor
  read {n d d' r} h call := by
    obtain ⟨rfl, rfl⟩ := Prod.mk.inj ((Memory.read_eq d n).symm.trans call)
    refine ⟨(Memory.sound_forward h.sound n).plain h rfl, ?_, by rintro _ ⟨⟩⟩
    rintro _ ⟨⟩
    exact ⟨Nat.min_le_left _ _, rfl⟩
  write {bytes d d' r} h call := by
    rcases h.write_cases bytes with ⟨f, hw⟩ | ⟨n, size, hw, hn, fits⟩
    · obtain ⟨rfl, rfl⟩ := Prod.mk.inj (hw.symm.trans call)
      exact ⟨h, by rintro _ ⟨⟩, fun _ _ => rfl⟩
    · obtain ⟨rfl, rfl⟩ := Prod.mk.inj (hw.symm.trans call)
      have hl : (bytes.take n).length = n := List.length_take_of_le hn
      have sound := Memory.sound_put (Memory.sound_grown h.sound size) (by rw [hl]; exact fits)
      refine ⟨sound.plain h rfl, ?_, by rintro _ ⟨⟩⟩
      rintro _ ⟨⟩
      refine ⟨hn, ?_⟩
      show d.cursor + (bytes.take n).length = d.cursor + n
      rw [hl]
  flush h call := by
    obtain ⟨rfl, rfl⟩ := Prod.mk.inj call
    exact ⟨h, rfl⟩
  seek {off w d d' r} h call := by
    rcases Memory.seek_cases d off w with ⟨f, hs⟩ | ⟨pos, size, -, hs, fits⟩
    · obtain ⟨rfl, rfl⟩ := Prod.mk.inj (hs.symm.trans call)
      exact ⟨h, by rintro _ ⟨⟩, fun _ _ => rfl⟩
    · obtain ⟨rfl, rfl⟩ := Prod.mk.inj (hs.symm.trans call)
      have sound := Memory.sound_moveTo (Memory.sound_grown h.sound size) fits
      refine ⟨sound.plain h rfl, ?_, by rintro _ ⟨⟩⟩
      rintro _ ⟨⟩
      rfl

end Cursor

namespace Memory

/-- a read of a sound device delivers the start of the data from the cursor on -/
theorem read_rest {n : Nat} {m m' : Memory} {r : Except Fault Delivery} (h : m.Sound)
    (n_pos : 0 < n) (call : m.read n = (r, m')) :
    ∃ got, r = .ok got ∧ m'.Sound ∧ m'.plan = m.plan ∧
      got.count ≤ n ∧ got.count ≤ m.rest.length ∧
      got.bytes.take got.count = m.rest.take got.count ∧ m'.rest = m.rest.drop got.count ∧
      (got.count = 0 → m.rest = []) := by
  obtain ⟨rfl, rfl⟩ := Prod.mk.inj ((read_eq m n).symm.trans call)
  have hr := length_rest h
  refine ⟨_, rfl, sound_forward h n, rfl, Nat.min_le_left _ _, ?_, ?_, rest_forward m _, ?_⟩
  · rw [hr]
    exact Nat.min_le_right _ _
  · show (m.rest.take n).take (min n (m.length - m.cursor)) = _
    rw [List.take_take, ← hr, Nat.min_eq_left (Nat.min_le_left _ _)]
  · intro h0
    apply List.eq_nil_of_length_eq_zero
    rw [hr]
    have : min n (m.length - m.cursor) = 0 := h0
    omega

end Memory

namespace Source

/-- a sound memory device delivers the data from its cursor on -/
def sound : Source Memory where
  valid m := m.Sound
  rest := Memory.rest
  failures _ := 0
  read h n_pos call := by
    obtain ⟨got, rfl, sound, -, delivered⟩ := Memory.read_rest h n_pos call
    refine ⟨sound, by rintro _ ⟨⟩, ?_⟩
    rintro _ ⟨⟩
    exact delivered
  count h n_pos call := by
    obtain ⟨got, rfl, -⟩ := Memory.read_rest h n_pos call
    exact ⟨by rintro _ ⟨⟩, fun _ _ => rfl⟩

/-- the same for a device made by a plan that does not append -/
def memory (p : Memory.Plan) : Source Memory where
  valid m := m.Plain p
  rest := Memory.rest
  failures _ := 0
  read h n_pos call := by
    obtain ⟨got, rfl, sound, plan, delivered⟩ := Memory.read_rest h.sound n_pos call
    refine ⟨sound.plain h plan, by rintro _ ⟨⟩, ?_⟩
    rintro _ ⟨⟩
    exact delivered
  count h n_pos call := by
    obtain ⟨got, rfl, -⟩ := Memory.read_rest h.sound n_pos call
    exact ⟨by rintro _ ⟨⟩, fun _ _ => rfl⟩

end Source

end BufferedStreams
