import BufferedStreams.Desk.Path
import BufferedStreams.Proofs.AppendOnly
import BufferedStreams.Proofs.Handles
import BufferedStreams.Proofs.Strategy
import BufferedStreams.Proofs.Teardown

/-!
# First contents, all or nothing

A memory stream can be opened with first contents.  They are written like any other output, one buffer
after the other, and what is still pending at the end goes out with the seek back to the start.  The
limit may stop each of these flushes, and then the stream is closed again.

* `Memory.Plan.Allows`    storage can be had as far as the limit goes;
* `Stream.Filling`        the start of what was written is in the storage and the rest is pending;
* `Filling.drain`, `Filling.stow`   a flush keeps that or is stopped by the limit, and so does a write;
* `Stream.AtStart`        where a stream is that was just opened or went back to its start;
* `Stream.Holds`          what a user finds there;
* `Desk.Joins`            a stream came to a desk, and nothing else changed;
* `first_contents`        contents that fit are all there, and others leave no stream behind.
-/

namespace BufferedStreams

namespace Memory

variable {p : Plan} {m : Memory} {f : SparseFile} {first n k top : Nat} {content bytes : Bytes}

/-! ## what the limit allows -/

namespace Plan

/-- the device may grow, and storage for up to `top` bytes can be had as far as the limit goes -/
structure Allows (p : Plan) (top : Nat) : Prop where
  grows : p.grows = true
  range : top < offsetRange
  afford : ∀ n ≤ top, p.Affords 0 n

theorem rounded_lt (p : Plan) (n : Nat) : p.rounded n < n + max p.block 1 := by
  have hb : 0 < max p.block 1 := Nat.lt_of_lt_of_le Nat.one_pos (Nat.le_max_right _ _)
  unfold rounded
  dsimp only
  generalize max p.block 1 = block at hb
  have := Nat.div_mul_le_self (n + block - 1) block
  omega

theorem capped_le_capped (p : Plan) (h : n ≤ k) : p.capped n ≤ p.capped k := by
  unfold capped
  split
  · exact Nat.le_min.mpr ⟨Nat.le_trans (Nat.min_le_left _ _) h, Nat.min_le_right _ _⟩
  · exact h

theorem exceeds_of_le (h : n ≤ k) (more : p.exceeds n = true) : p.exceeds k = true := by
  by_contra within
  rw [Bool.not_eq_true, exceeds_eq_false] at within
  rw [exceeds_eq_false.mpr fun most limit => Nat.le_trans h (within most limit)] at more
  cases more

theorem bars_growing (grows : p.grows = true) (pos : 0 < n) : p.bars 0 n = p.exceeds n := by
  simp [bars, grows, pos]

/-- it is enough that the storage for `top` bytes, brought down to the limit, can be had -/
theorem Allows.of_capped (grows : p.grows = true) (block : p.block = usualBuffer)
    (range : top < offsetRange) (room : p.capped (p.rounded top) ≤ allocatable) :
    p.Allows top := by
  refine ⟨grows, range, fun n le => ?_⟩
  rcases Nat.eq_zero_or_pos n with rfl | pos
  · exact .inl (Nat.le_refl 0)
  cases within : p.exceeds n with
  | true => exact .inr (.inl ((bars_growing grows pos).trans within))
  | false =>
    have rounded := p.rounded_le_rounded le
    have small : n ≤ allocatable :=
      Nat.le_trans (le_capped within (Nat.le_trans le (p.le_rounded top))) room
    have word : allocatable + usualBuffer < wordRange := by decide
    have next := p.rounded_lt n
    rw [block] at next
    have one : max usualBuffer 1 = usualBuffer := rfl
    exact .inr (.inr ⟨by omega, Nat.le_trans (p.capped_le_capped rounded) room⟩)

end Plan

/-! ## memory that is filled -/

theorem FileAnswer.ofCount_count {r : Except Fault Nat} (h : ofCount r = .count n) : r = .ok n := by
  cases r <;> cases h
  rfl

theorem FileAnswer.ofCount_failed {r : Except Fault Nat} {e : Fault} (h : ofCount r = .failed e) :
    r = .error e := by
  cases r <;> cases h
  rfl

end Memory

/-- a file that is written at its end -/
def SparseFile.atEnd (content : Bytes) : SparseFile := { content, pos := content.length }

theorem SparseFile.forWrite_atEnd (p : Memory.Plan) (content : Bytes) :
    (atEnd content).forWrite p = atEnd content := ite_self _

/-- whether it appends or not, it takes all bytes, or refuses them as the limit says -/
theorem SparseFile.write_atEnd {p : Memory.Plan} {content bytes : Bytes} (grows : p.grows = true)
    (some : bytes ≠ []) :
    (atEnd content).write p 0 bytes =
      if p.exceeds (content ++ bytes).length then (.failed .outOfSpace, atEnd content)
      else (.count bytes.length, atEnd (content ++ bytes)) := by
  have put : (atEnd content).put bytes = atEnd (content ++ bytes) := by
    rw [SparseFile.put, atEnd, atEnd, overlay_end, List.length_append]
  have past : (atEnd content).pos + bytes.length = (content ++ bytes).length :=
    List.length_append.symm
  have pos : 0 < (content ++ bytes).length := by
    have := List.length_pos_iff.mpr some
    rw [List.length_append]
    omega
  rw [write, if_neg some, forWrite_atEnd, writeHere, if_pos grows, put, past,
    Memory.Plan.bars_growing grows pos]

namespace Memory

variable {p : Plan} {m : Memory} {f : SparseFile} {first top : Nat} {content bytes : Bytes}

/-- the storage never passes the limit -/
theorem Stands.within (h : m.Stands p 0 f) (grows : p.grows = true) :
    p.exceeds f.content.length = false := by
  apply Bool.eq_false_iff.mpr
  intro more
  have some : 0 < f.content.length := by
    rcases Nat.eq_zero_or_pos f.content.length with none | some
    · rw [none, Plan.exceeds_eq_false.mpr fun _ _ => Nat.zero_le _] at more
      cases more
    · exact some
  have beyond := h.barred _ ((Plan.bars_growing grows some).trans more)
  have length := h.sound.length_le
  rw [h.length_eq] at length
  omega

/-- the bytes come behind the data, or the limit does not let them -/
theorem Stands.write_atEnd (h : m.Stands p 0 (.atEnd content)) (a : p.Allows top)
    (some : bytes ≠ []) (le : (content ++ bytes).length ≤ top) :
    ∃ r m', Device.write bytes m = (r, m') ∧
      ((r = .ok bytes.length ∧ m'.Stands p 0 (.atEnd (content ++ bytes))) ∨
        (r = .error .outOfSpace ∧ p.exceeds (content ++ bytes).length = true)) := by
  have need : (SparseFile.atEnd content).need p (.write bytes) = (content ++ bytes).length := by
    rw [SparseFile.need, SparseFile.forWrite_atEnd, List.length_append]
    rfl
  have range : bytes.length < offsetRange := by
    have := a.range
    rw [List.length_append] at le
    omega
  obtain ⟨answer, stands⟩ := h.write range (need ▸ a.afford _ le)
  rw [SparseFile.write_atEnd a.grows some] at answer stands
  refine ⟨_, _, rfl, ?_⟩
  cases more : p.exceeds (content ++ bytes).length with
  | true =>
    rw [more] at answer
    exact .inr ⟨FileAnswer.ofCount_failed answer, rfl⟩
  | false =>
    rw [more] at answer stands
    exact .inl ⟨FileAnswer.ofCount_count answer, stands⟩

/-- a seek to a place in the data moves the position and nothing else -/
theorem Stands.seek_within (h : m.Stands p first f) (off : Int) (w : Whence) {pos : Nat}
    (goal : f.base w + off = pos) (le : pos ≤ f.content.length) :
    ∃ m', Device.seek off w m = (.ok pos, m') ∧ m'.Stands p first { f with pos } := by
  have range : offsetRange ≤ wordRange := by decide
  have small := h.small
  have length := h.sound.length_le
  have fits : pos ≤ m.capacity := by
    rw [h.length_eq] at length
    omega
  have moved := h.moveTo fits
  rw [SparseFile.moveTo, Nat.sub_eq_zero_of_le le, zeros_zero, List.append_nil] at moved
  rw [← h.base_eq w] at goal
  exact ⟨_, (Memory.seek_within h.sound goal (by rw [h.length_eq]; exact le) (by omega)).1, moved⟩

end Memory

namespace Source

variable {α β : Type} [Device α] [Device β]

/-- the first of two devices delivers what it delivers alone -/
def onLeft (c : Source α) : Source (α ⊕ β) where
  valid d := ∃ a, d = .inl a ∧ c.valid a
  rest := Sum.elim c.rest fun _ => []
  failures := Sum.elim c.failures fun _ => 0
  read := by
    rintro n _ d' r ⟨a, rfl, ok⟩ n_pos call
    obtain ⟨rfl, rfl⟩ := Prod.mk.inj call
    obtain ⟨valid, stays, delivers⟩ := c.read ok n_pos rfl
    exact ⟨⟨_, rfl, valid⟩, stays, delivers⟩
  count := by
    rintro n _ d' r ⟨a, rfl, ok⟩ n_pos call
    obtain ⟨rfl, rfl⟩ := Prod.mk.inj call
    exact c.count ok n_pos rfl

end Source

namespace Stream

variable {δ : Type} [Device δ] {p : Memory.Plan} {m : Memory} {f : SparseFile} {first top : Nat}
  {done bytes : Bytes} {s u : Stream (Memory ⊕ δ)}

/-! ## a stream that is filled -/

/-- an operation that wants `size` bytes to be stored in the end: it went well and left a stream with
`P`, or the limit is below that size and stopped it -/
inductive Fits {α : Type} (p : Memory.Plan) (size : Nat) (P : Stream (Memory ⊕ δ) → Prop) :
    Except Fault α × Stream (Memory ⊕ δ) → Prop
  | ok {a : α} {u : Stream (Memory ⊕ δ)} (h : P u) : Fits p size P (.ok a, u)
  | stopped {u : Stream (Memory ⊕ δ)} (h : p.exceeds size = true) : Fits p size P (.error .outOfSpace, u)

/-- a stream over memory that has only been written to: the start of `done` is stored, and the rest of
it is pending -/
structure Filling (p : Memory.Plan) (done : Bytes) (s : Stream (Memory ⊕ δ)) : Prop where
  sound : s.Sound
  writing : s.writing = true
  able : s.abilities = Abilities.all
  opn : s.closed = false
  marks : s.marks = {}
  parts : ∃ stored m, s.device = .inl m ∧ m.Stands p 0 (.atEnd stored) ∧
    stored ++ s.buffer.pending = done

/-- on a path without leaps only the bytes and the marks have to be looked after -/
theorem Filling.along {g t done' : Bytes} (h : s.Filling p done) (path : Path false s g t u)
    (marks : u.marks = s.marks) (parts : ∃ stored m, u.device = .inl m ∧
      m.Stands p 0 (.atEnd stored) ∧ stored ++ u.buffer.pending = done') : u.Filling p done' where
  sound := path.sound h.sound
  writing := path.writing.trans h.writing
  able := path.constant.2.1.trans h.able
  opn := path.constant.2.2.trans h.opn
  marks := marks.trans h.marks
  parts := parts

/-- an append stream that asks for the cursor finds it where the data ends -/
theorem syncAppend_stands (device : s.device = .inl m) (h : m.Stands p 0 (.atEnd done)) :
    ∃ m', s.syncAppend.device = .inl m' ∧ m'.Stands p 0 (.atEnd done) := by
  unfold syncAppend
  split
  · obtain ⟨m', call, stands⟩ := h.seek_within 0 .current (Int.add_zero _) (Nat.le_refl _)
    have call : Device.seek 0 .current s.device = (.ok done.length, .inl m') := by
      rw [device]
      exact congrArg onLeft call
    rw [call]
    exact ⟨m', rfl, stands⟩
  · exact ⟨m, device, h⟩

/-- memory does not mind a flush -/
theorem notify_memory (device : s.device = .inl m) : s.notify = (.ok (), s) := by
  rw [notify, device]
  show (Except.ok (), ({ s with device := .inl m } : Stream (Memory ⊕ δ))) = _
  rw [← device]

/-- a drain stores all that is pending, or is stopped by the limit -/
theorem Filling.drain (h : s.Filling p done) (a : p.Allows top) (le : done.length ≤ top) :
    Fits p done.length (Filling p done) s.drain := by
  by_cases h0 : s.buffer.pendingSize = 0
  · rw [drain_idle h0]
    exact .ok h
  · obtain ⟨stored, m, device, stands, whole⟩ := h.parts
    have length := Buffer.length_pending h.sound.buffer
    have some : s.buffer.pending ≠ [] := by
      intro empty
      rw [empty] at length
      exact h0 length.symm
    have able : s.abilities.write = true := by rw [h.able]; rfl
    obtain ⟨r, m', call, outcome⟩ := stands.write_atEnd a some (whole ▸ le)
    have call : Device.write s.buffer.pending s.device = (r, .inl m') := by
      rw [device]
      exact congrArg onLeft call
    rw [whole] at outcome
    rcases outcome with ⟨rfl, stands⟩ | ⟨rfl, more⟩
    · have path : Path false s [] [] s.drain.2 := drain_path h.writing
      obtain ⟨m'', synced, stands⟩ : ∃ m'', (s.afterAll (.inl m')).device = .inl m'' ∧
          m''.Stands p 0 (.atEnd done) := by
        rw [afterAll_eq]
        exact syncAppend_stands rfl stands
      have drained : s.drain = (.ok (), s.afterAll (.inl m')) := by
        rw [drain_all able call (Nat.pos_of_ne_zero h0) (Nat.le_of_eq length.symm),
          notify_memory synced]
      have marks := drain_marks drained
      rw [drained] at path ⊢
      refine .ok (h.along path marks ⟨done, m'', synced, stands, ?_⟩)
      rw [Buffer.pending_eq_nil (afterAll_pendingSize s _), List.append_nil]
    · rw [drain_refusal h0 able call (by rintro _ ⟨⟩)]
      exact .stopped more

theorem Filling.makeSpace (h : s.Filling p done) (a : p.Allows top) (le : done.length ≤ top) :
    Fits p done.length (Filling p done) s.makeSpace := by
  unfold Stream.makeSpace
  split
  · exact h.drain a le
  · exact .ok h

theorem Filling.append (h : s.Filling p done) (bytes : Bytes) (space : 0 < s.buffer.space) :
    Filling p (done ++ bytes.take s.buffer.space)
      { s with buffer := (s.buffer.append bytes).2 } := by
  obtain ⟨stored, m, device, stands, whole⟩ := h.parts
  refine h.along (Step.stored bytes h.writing space).path rfl ⟨stored, m, device, stands, ?_⟩
  rw [Buffer.pending_append h.sound.buffer, ← List.append_assoc, whole]

/-- a write takes all of its bytes, or is stopped by the limit in one of its drains -/
theorem Filling.stow (bytes : Bytes) (s : Stream (Memory ⊕ δ)) (done : Bytes)
    (h : s.Filling p done) (a : p.Allows top) (le : (done ++ bytes).length ≤ top) :
    ((s.stow bytes).1.stop = none ∧ (s.stow bytes).2.Filling p (done ++ bytes)) ∨
      ((s.stow bytes).1.stop = some .outOfSpace ∧ p.exceeds (done ++ bytes).length = true) := by
  fun_induction Stream.stow bytes s generalizing done with
  | case1 bytes s h0 =>
    obtain rfl := List.eq_nil_of_length_eq_zero h0
    rw [List.append_nil]
    exact .inl ⟨rfl, h⟩
  | case2 bytes s h0 f v hm =>
    have less := (List.sublist_append_left done bytes).length_le
    have made := h.makeSpace a (Nat.le_trans less le)
    rw [hm] at made
    cases made with
    | stopped more => exact .inr ⟨rfl, Memory.Plan.exceeds_of_le less more⟩
  | case3 bytes s h0 v hm full =>
    exact absurd full (Nat.ne_of_gt (makeSpace_space hm h.writing h.sound))
  | case4 bytes s h0 v hm full k t x hx ih =>
    have less := (List.sublist_append_left done bytes).length_le
    have made := h.makeSpace a (Nat.le_trans less le)
    rw [hm] at made
    cases made with
    | ok made =>
      have parts : done ++ bytes.take v.buffer.space ++ bytes.drop k = done ++ bytes := by
        rw [List.append_assoc, List.take_eq_take_min, Nat.min_comm, List.take_append_drop]
      rw [hx] at ih
      have rest := ih _ (made.append bytes (Nat.pos_of_ne_zero full))
      rw [parts] at rest
      exact rest le

/-! ## a stream at its start -/

/-- an open stream at the start of memory that holds `bytes`, with nothing in its buffer -/
structure AtStart (p : Memory.Plan) (bytes : Bytes) (s : Stream (Memory ⊕ δ)) : Prop where
  sound : s.Sound
  able : s.abilities = Abilities.all
  opn : s.closed = false
  marks : s.marks = {}
  base : s.base = 0
  filled : s.buffer.filled = 0
  pushed : s.buffer.pushed = []
  stored : ∃ m, s.device = .inl m ∧ m.Stands p 0 { content := bytes }

theorem opened_atStart (o : Opening) (mode : OpenMode) (p : Memory.Plan) :
    AtStart p [] (opened o (.inl (.ofPlan p)) mode : Stream (Memory ⊕ δ)) where
  sound := opened_sound _ _ _
  able := rfl
  opn := rfl
  marks := rfl
  base := rfl
  filled := rfl
  pushed := rfl
  stored := ⟨_, rfl, Memory.Made.ofPlan.stands (by decide)⟩

omit [Device δ] in
theorem AtStart.cursor (h : s.AtStart p bytes) : s.buffer.cursor = 0 :=
  Nat.eq_zero_of_le_zero (h.filled ▸ h.sound.buffer.cursor_le)

omit [Device δ] in
theorem AtStart.settled (h : s.AtStart p bytes) : s.buffer.pendingSize = 0 := by
  rw [Buffer.pendingSize, h.cursor, Nat.zero_sub]

/-- moving the device to the start of its data moves the stream there -/
theorem moveDevice_start (device : s.device = .inl m) (h : m.Stands p first f) {w : Whence}
    (from_start : f.base w = 0) (level : w = .current → s.ahead = 0) :
    ∃ m', s.moveDevice 0 w = (.ok 0,
        { s with device := .inl m', buffer := s.buffer.clear, base := 0 }) ∧
      m'.Stands p first { f with pos := 0 } := by
  have goal : f.base w + 0 = (0 : Nat) := by
    rw [from_start]
    rfl
  obtain ⟨m', call, stands⟩ := h.seek_within 0 w goal (Nat.zero_le _)
  have call : Device.seek 0 w s.device = (.ok 0, .inl m') := by
    rw [device]
    exact congrArg onLeft call
  have target : (if w = .current then (0 : Int) - s.ahead else 0) = 0 := by
    split
    · next here => rw [level here]; rfl
    · rfl
  refine ⟨m', ?_, stands⟩
  rw [moveDevice, target, if_neg (by decide), call]

/-- a new stream can be written to, in whatever mode it was opened -/
theorem AtStart.turnToWrite (h : s.AtStart p []) :
    ∃ u, s.turnToWrite = (.ok (), u) ∧ u.Filling p [] := by
  obtain ⟨m, device, stands⟩ := h.stored
  cases w : s.writing with
  | true =>
    refine ⟨s, turnToWrite_writing w, h.sound, w, h.able, h.opn, h.marks, [], m, device, stands, ?_⟩
    rw [Buffer.pending_eq_nil h.settled]
    rfl
  | false =>
    have able : s.abilities.seek = true := by rw [h.able]; rfl
    have level : s.ahead = 0 := by
      rw [ahead, Buffer.readableSize, h.filled, h.pushed]
      exact Nat.zero_sub _
    obtain ⟨m', moved, stands'⟩ := moveDevice_start (w := .current) device stands rfl fun _ => level
    have turned : s.turnToWrite = (.ok (), { s with
        device := .inl m', buffer := s.buffer.clear, base := 0, writing := true }) := by
      rw [Stream.turnToWrite, if_neg (by simp [w]), if_pos able, moved]
    have marks := turnToWrite_marks turned
    rcases turnToWrite_cases s with ⟨f, d, ht, -⟩ | ⟨u, ht, writes, path⟩
    · rw [turned] at ht
      cases ht
    · rw [turned] at ht
      cases ht
      refine ⟨_, turned, path.sound h.sound, rfl, h.able, h.opn, h.marks, [], m', rfl, stands', ?_⟩
      rw [Buffer.pending_eq_nil (Nat.zero_sub _)]
      rfl

/-- all the bytes are taken, or the limit does not let them -/
theorem AtStart.writeAll (h : s.AtStart p []) (full : s.strategy = .full)
    (a : p.Allows bytes.length) :
    Fits p bytes.length (Filling p bytes) (s.writeAll bytes) := by
  obtain ⟨u, turned, filling⟩ := h.turnToWrite
  have same := turnToWrite_strategy s
  rw [turned, full] at same
  have emitted : s.emit bytes = u.stow bytes := by
    rw [emit, turned]
    dsimp only
    rw [same]
  have all := emit_all bytes h.sound
  rw [Stream.writeAll, emitted]
  rw [emitted] at all
  rcases Filling.stow bytes u [] filling a (Nat.le_refl _) with ⟨stop, filled⟩ | ⟨stop, more⟩
  · dsimp only
    rw [stop, (all stop).1]
    dsimp only
    rw [if_neg (Nat.lt_irrefl _)]
    exact .ok filled
  · dsimp only
    rw [stop]
    exact .stopped more

/-- the seek back to the start drains what is pending -/
theorem Filling.seek_start (h : s.Filling p bytes) (a : p.Allows bytes.length) :
    Fits p bytes.length (AtStart p bytes) (s.seek 0 .start) := by
  have able : s.abilities.seek = true := by rw [h.able]; rfl
  have path : Path true s [] [] (s.seek 0 .start).2 := seek_path 0 .start
  have drained := h.drain a (Nat.le_refl _)
  rw [seek, if_pos able, turnToRead, if_pos h.writing] at path ⊢
  rcases hd : s.drain with ⟨f | _, u⟩
  · rw [hd] at drained
    cases drained with
    | stopped more => exact .stopped more
  · rw [hd] at drained path
    cases drained with
    | ok filling =>
      obtain ⟨stored, m, device, stands, whole⟩ := filling.parts
      rw [Buffer.pending_eq_nil (drain_ok hd), List.append_nil] at whole
      subst whole
      obtain ⟨m', moved, stands⟩ := moveDevice_start (s := { u with writing := false })
        (w := .start) device stands rfl (by rintro ⟨⟩)
      dsimp only at path ⊢
      rw [moved] at path ⊢
      exact .ok ⟨path.sound h.sound, path.constant.2.1.trans h.able,
        path.constant.2.2.trans h.opn, rfl, rfl, rfl, rfl, m', rfl, stands⟩

/-! ## what a user finds -/

/-- `bytes` are the whole content of an open stream that is at its start, with no mark set -/
structure Holds (bytes : Bytes) (s : Stream (Memory ⊕ δ)) : Prop where
  opn : s.closed = false
  /-- they are in the storage, and no output is pending -/
  stored : ∃ m : Memory, s.device = .inl m ∧ m.data = bytes
  settled : s.outstanding = []
  tell : s.tell = 0
  marks : s.marks = {}
  /-- they are what a read shows and what is handed over in the end -/
  reads : ∀ n, (s.read n).1 = .ok (bytes.take n)
  snatched : s.snatch.1 = .ok bytes

/-- what a stream reads that cannot fail to -/
theorem read_unfailing {c : Source δ} {v : Stream δ} (n : Nat) (h : v.Feeding c)
    (never : ∀ d, c.failures d = 0) : (v.read n).1 = .ok ((v.input c).take n) := by
  rcases hr : v.read n with ⟨f | got, u⟩
  · have failed := (read_error h hr).2
    rw [never, never] at failed
    exact absurd failed (Nat.lt_irrefl 0)
  · obtain ⟨input, -, size | ⟨-, failed⟩⟩ := read_ok h hr
    · have start : got <+: v.input c := ⟨_, input.symm⟩
      rw [List.prefix_iff_eq_take.mp start, size, ← List.take_eq_take_min]
    · rw [never, never] at failed
      exact absurd failed (Nat.lt_irrefl 0)

theorem AtStart.turnToRead (h : s.AtStart p bytes) :
    ∃ u, s.turnToRead = (.ok (), u) ∧ u.writing = false ∧ u.AtStart p bytes := by
  cases w : s.writing with
  | false => exact ⟨s, turnToRead_reading w, w, h⟩
  | true =>
    refine ⟨{ s with writing := false }, ?_, rfl, ?_⟩
    · rw [Stream.turnToRead, if_pos w, drain_idle h.settled]
    · exact ⟨.of_serving rfl ((h.sound.collecting w).serving h.settled), h.able, h.opn, h.marks,
        h.base, h.filled, h.pushed, h.stored⟩

theorem AtStart.reads (h : s.AtStart p bytes) (n : Nat) : (s.read n).1 = .ok (bytes.take n) := by
  obtain ⟨u, turned, r, start⟩ := h.turnToRead
  obtain ⟨m, device, stands⟩ := start.stored
  have able : u.abilities.read = true := by rw [start.able]; rfl
  have feeding : u.Feeding (Source.sound.onLeft : Source (Memory ⊕ δ)) :=
    ⟨r, able, start.sound, m, device, stands.sound⟩
  have dry : u.buffer.readableSize = 0 := by rw [Buffer.readableSize, start.filled, Nat.zero_sub]
  have input : u.input (Source.sound.onLeft : Source (Memory ⊕ δ)).toContents = bytes := by
    rw [input_dry dry start.pushed, device]
    show m.data.drop m.cursor = bytes
    rw [stands.data, stands.pos, List.drop_zero]
  have same : (s.read n).1 = (u.read n).1 := by
    rw [read, read]
    split
    · rfl
    · rw [intake, intake, turned, turnToRead_reading r]
  rw [same, read_unfailing n feeding (by rintro (m | d) <;> rfl), input]

theorem AtStart.holds (h : s.AtStart p bytes) : s.Holds bytes := by
  obtain ⟨m, device, stands⟩ := h.stored
  refine ⟨h.opn, ⟨m, device, stands.data⟩, outstanding_settled fun _ => h.settled, ?_, h.marks,
    h.reads, ?_⟩
  · rw [tell, h.base, h.cursor, h.pushed]
    rfl
  · have flushed : s.flush = (.ok (), s) := by
      rw [flush, drain_idle h.settled, ite_self]
    rw [snatch, flushed]
    dsimp only
    rw [device]
    exact congrArg Except.ok stands.data

end Stream

namespace Desk

/-! ## a stream comes to a desk -/

section

variable {δ σ : Type} {ms : List Move} {t : Tally} {d d' : Desk δ σ} {h : Handle} {s : Stream δ}

/-- a stream came to a desk by a handle that named nothing, and the other handles name what they
named -/
structure Joins (d : Desk δ σ) (h : Handle) (s : Stream δ) (d' : Desk δ σ) : Prop where
  fresh : d.find? h = none
  named : d'.find? h = some s
  others : ∀ h', h' ≠ h → d'.find? h' = d.find? h'

/-- a slot without a tenant is taken -/
theorem joins_of_slot {slot : Slot δ} (here : d.slots[h.index]? = some slot)
    (empty : slot.tenant = none)
    (slots : d'.slots = d.slots.set h.index ⟨h.generation, some s⟩) : Joins d h s d' := by
  have lt : h.index < d.slots.length := (List.getElem?_eq_some_iff.mp here).1
  refine ⟨?_, ?_, fun h' other => ?_⟩
  · rw [find?, here]
    dsimp only
    rw [empty, ite_self]
  · rw [find?, slots, List.getElem?_set_self lt]
    exact if_pos rfl
  · rw [find?, find?, slots]
    by_cases same : h.index = h'.index
    · have later := generation_ne other same
      rw [← same, List.getElem?_set_self lt, here]
      dsimp only
      rw [if_neg later, empty, ite_self]
    · rw [List.getElem?_set_ne same]

/-- one more slot without a tenant makes no difference to a handle -/
theorem find?_spare (d : Desk δ σ) (g : UInt32) (h : Handle) :
    ({ d with slots := d.slots ++ [⟨g, none⟩] } : Desk δ σ).find? h = d.find? h := by
  rw [find?, find?]
  dsimp only
  rcases Nat.lt_or_ge h.index d.slots.length with lt | ge
  · rw [List.getElem?_append_left lt]
  · rw [List.getElem?_append_right ge, List.getElem?_eq_none ge]
    cases h.index - d.slots.length with
    | zero => exact ite_self _
    | succ k => rfl

theorem Kept.register_joins (k : Kept ms d) (s : Stream δ) :
    Joins d (d.register s).1 s (d.register s).2 := by
  rcases hv : d.vacant with _ | ⟨i, rest⟩
  · rw [register_new hv]
    -- the new slot is as good as one that was there and had no tenant
    have joins : Joins { d with slots := d.slots ++ [⟨1, none⟩] } ⟨d.slots.length, 1⟩ s
        { d with slots := d.slots ++ [⟨1, some s⟩], live := d.live + 1 } :=
      joins_of_slot List.getElem?_concat_length rfl (by simp)
    refine ⟨?_, joins.named, fun h' other => ?_⟩
    · rw [← joins.fresh, find?_spare]
    · rw [joins.others h' other, find?_spare]
  · obtain ⟨g, here⟩ := (k.vacant i).mp (hv ▸ List.mem_cons_self)
    have slots := here
    rw [shape_getElem?] at slots
    obtain ⟨slot, found, same⟩ := Option.map_eq_some_iff.mp slots
    obtain ⟨-, empty⟩ := Prod.mk.inj same
    rw [register_again hv here]
    exact joins_of_slot (h := ⟨i, g⟩) found (Option.not_isSome_iff_eq_none.mp (by simp [empty])) rfl

/-- what happens to the stream afterwards, the other handles do not notice -/
theorem Joins.replace (j : Joins d h s d') (u : Stream δ) (shared : σ) :
    Joins d h u { d'.replace h u with shared } where
  fresh := j.fresh
  named := find?_replace j.named u
  others h' other := (find?_elsewhere j.named rfl (.inl rfl) h' other).trans (j.others h' other)

/-- and once it is closed nobody is there who was not there before -/
theorem Joins.close [Shares δ σ] [Device δ] (j : Joins d h s d') :
    ∃ r u d'', d'.close h = some (r, u, d'') ∧ ∀ h', d''.find? h' = d.find? h' := by
  obtain ⟨d'', closed, gone, others, -⟩ := close_vacates j.named
  refine ⟨_, _, d'', closed, fun h' => ?_⟩
  by_cases same : h' = h
  · rw [same, gone, j.fresh]
  · rw [others h' same, j.others h' same]

/-- a stream came and left again: the desk names the streams that it named before, and counts one more
that came and one more that left -/
structure Passed (d d' : Desk δ σ) : Prop where
  names : ∀ h, d'.find? h = d.find? h
  live : d'.live = d.live
  opened : d'.tally.opened = d.tally.opened + 1
  closed : d'.tally.closed = d.tally.closed + 1

/-- the tally of a desk counts the handles -/
theorem Books.turnover (b : Books t ms d) : d.tally.turnover =
    (t.opened + .ofNat (Move.issued ms).length, t.closed + .ofNat (Move.returned ms).length) :=
  (slots_turnover _ _ fun slot mem s hs => (b.tenants slot mem s hs).turnover).trans b.retired

theorem Books.passed (b : Books t ms d) (b' : Books t (ms ++ [.came h, .left h]) d')
    (names : ∀ h, d'.find? h = d.find? h) : Passed d d' := by
  have moves : ms ++ [.came h, .left h] = ms ++ [.came h] ++ [.left h] := List.append_cons ms _ _
  have issued : Move.issued (ms ++ [.came h, .left h]) = Move.issued ms ++ [h] := by
    rw [moves, Move.issued_left, Move.issued_came]
  have returned : Move.returned (ms ++ [.came h, .left h]) = Move.returned ms ++ [h] := by
    rw [moves, Move.returned_left, Move.returned_came]
  obtain ⟨opened, closed⟩ := Prod.mk.inj b.turnover
  obtain ⟨opened', closed'⟩ := Prod.mk.inj b'.turnover
  rw [issued, List.length_append, UInt64.ofNat_add, ← UInt64.add_assoc] at opened'
  rw [returned, List.length_append, UInt64.ofNat_add, ← UInt64.add_assoc] at closed'
  refine ⟨names, ?_, opened' ▸ opened ▸ rfl, closed' ▸ closed ▸ rfl⟩
  have total := b.total
  have total' := b'.total
  rw [issued, returned, List.length_append, List.length_append] at total'
  omega

end

variable {δ σ : Type} [Device δ] [Shares δ σ] {p : Memory.Plan} {bytes : Bytes}

/-- first contents are all written, or stopped by the limit -/
theorem load_atStart {s : Stream (Memory ⊕ δ)} (h : s.AtStart p []) (full : s.strategy = .full)
    (a : p.Allows bytes.length) : Stream.Fits p bytes.length (·.AtStart p bytes) (load bytes s) := by
  have written := h.writeAll full a
  unfold load
  generalize s.writeAll bytes = r at written ⊢
  cases written with
  | stopped more => exact .stopped more
  | @ok _ u filling =>
    have moved := filling.seek_start a
    dsimp only
    generalize u.seek 0 .start = r at moved ⊢
    cases moved with
    | stopped more => exact .stopped more
    | ok start => exact .ok start

variable {t : Tally} {ms : List Move} {d : Desk (Memory ⊕ δ) σ} {mode : String} {m : OpenMode}
  {limit : Option Nat}

/-- the plan of a memory stream that a desk opens -/
def planOf (m : OpenMode) (limit : Option Nat) : Memory.Plan := { Memory.Plan.ofMode m with limit }

omit [Shares δ σ] in
theorem openMemory_joins (b : Books t ms d) (capacity : Nat) (limit : Option Nat)
    (valid : OpenMode.parse mode = .ok m) :
    ∃ h s d', d.openMemory { buffer := capacity } limit mode = (.ok h, d') ∧ Joins d h s d' ∧
      s.AtStart (planOf m limit) [] ∧ s.strategy = .full := by
  rw [openMemory, valid]
  have joins := b.toKept.register_joins
    (Stream.opened (Opening.ofSizing { buffer := capacity }) (.inl (.ofPlan (planOf m limit))) m)
  exact ⟨_, _, _, rfl, ⟨joins.fresh, joins.named, joins.others⟩,
    Stream.opened_atStart _ m (planOf m limit), rfl⟩

theorem openMemoryWith_outcome (b : Books t ms d) (capacity : Nat)
    (valid : OpenMode.parse mode = .ok m) (a : (planOf m limit).Allows bytes.length) :
    (∃ h s d', d.openMemoryWith { buffer := capacity } limit mode bytes = (.ok h, d') ∧
        Joins d h s d' ∧ s.AtStart (planOf m limit) bytes) ∨
      ((planOf m limit).exceeds bytes.length = true ∧
        ∃ d', d.openMemoryWith { buffer := capacity } limit mode bytes = (.error .outOfSpace, d') ∧
          Passed d d') := by
  obtain ⟨h, s, d₁, opened, joins, start, full⟩ := openMemory_joins b capacity limit valid
  have books := b.openMemoryWith { buffer := capacity } limit mode bytes
  rw [Deed.perform, opened] at books
  rw [openMemoryWith, opened] at books ⊢
  dsimp only at books ⊢
  by_cases empty : bytes = []
  · subst empty
    exact .inl ⟨h, s, d₁, rfl, joins, start⟩
  · rw [if_neg (by simp [empty])] at books ⊢
    obtain ⟨memory, device, -⟩ := start.stored
    have lent : d₁.loan s = s := by
      rw [loan, device]
      show ({ s with device := .inl memory } : Stream (Memory ⊕ δ)) = s
      rw [← device]
    have visited := visit_found joins.named (load bytes)
    rw [lent] at visited
    rw [visited] at books ⊢
    have loaded := load_atStart start full a
    generalize load bytes s = r at loaded books ⊢
    cases loaded with
    | @stopped u more =>
      obtain ⟨r, v, d₂, closed, names⟩ :=
        (joins.replace u (Shares.settle u.device d₁.shared)).close
      dsimp only at books ⊢
      rw [closed] at books ⊢
      exact .inr ⟨more, d₂, rfl, b.passed books names⟩
    | @ok _ u filled => exact .inl ⟨h, u, _, rfl, joins.replace u _, filled⟩

/-- Take a new desk and whatever was done at it, and open a stream over memory with first contents, in
any mode and with any size of buffer and any limit.  Let the storage that the contents take, as far as
the limit goes, be there to be had.  If the contents are within the limit, then there is one more
stream, which holds them, is at its start and has no mark set.  If they are not, then there is no
space, and no stream either: the desk names what it named, and one more counts as opened and one more as
closed. -/
theorem first_contents (shared : σ) (t : Tally) (deeds : List (Deed δ)) (capacity : Nat)
    (limit : Option Nat) (mode : String) (m : OpenMode) (bytes : Bytes)
    (valid : OpenMode.parse mode = .ok m) (range : bytes.length < offsetRange)
    (room : Memory.Plan.capped { limit } (Memory.Plan.rounded { limit } bytes.length) ≤
      allocatable) :
    let d := (perform deeds ({ shared, retired := t } : Desk (Memory ⊕ δ) σ)).2
    let r := d.openMemoryWith { buffer := capacity } limit mode bytes
    ((∀ most ∈ limit, bytes.length ≤ most) →
        ∃ h s, r.1 = .ok h ∧ Joins d h s r.2 ∧ s.Holds bytes) ∧
      ∀ most ∈ limit, most < bytes.length → r.1 = .error .outOfSpace ∧ Passed d r.2 := by
  intro d r
  have books := perform_books (books_new shared t) deeds
  have a : (planOf m limit).Allows bytes.length := .of_capped rfl rfl range room
  rcases openMemoryWith_outcome books capacity valid a with
    ⟨h, s, d', opened, joins, start⟩ | ⟨more, d', failed, passed⟩
  · have ok : r = (.ok h, d') := opened
    rw [ok]
    refine ⟨fun _ => ⟨h, s, rfl, joins, start.holds⟩, fun most limited more => ?_⟩
    obtain ⟨memory, -, stands⟩ := start.stored
    have within := Memory.Plan.exceeds_eq_false.mp (stands.within rfl) most limited
    exact absurd more (Nat.not_lt.mpr within)
  · have error : r = (.error .outOfSpace, d') := failed
    rw [error]
    refine ⟨fun fits => ?_, fun _ _ _ => ⟨rfl, passed⟩⟩
    have within : (planOf m limit).exceeds bytes.length = false :=
      Memory.Plan.exceeds_eq_false.mpr fits
    rw [within] at more
    cases more

/-- beside another stream and with a buffer of two bytes, five bytes fit into a limit of five, and a
sixth byte is found to be too much only by the seek -/
theorem first_contents_five :
    let d := (perform [.openMemory {} none "w+"] ({ shared := {} } : Desk (Memory ⊕ File) Disk)).2
    let five := d.openMemoryWith { buffer := 2 } (some 5) "a" [1, 2, 3, 4, 5]
    let six := d.openMemoryWith { buffer := 2 } (some 5) "rb" [1, 2, 3, 4, 5, 6]
    (OpenMode.parse "a" = .ok { access := .writeOnly, create := true, append := true } ∧
        OpenMode.parse "rb" = .ok { access := .readOnly, binary := true }) ∧
      (∃ h s, five.1 = .ok h ∧ Joins d h s five.2 ∧ s.Holds [1, 2, 3, 4, 5]) ∧
      six.1 = .error .outOfSpace ∧ Passed d six.2 := by
  intro d five six
  have append : OpenMode.parse "a" = .ok { access := .writeOnly, create := true, append := true } := by
    decide
  have reads : OpenMode.parse "rb" = .ok { access := .readOnly, binary := true } := by decide
  obtain ⟨fits, -⟩ := first_contents ({} : Disk) {} [(.openMemory {} none "w+" : Deed File)] 2
    (some 5) "a" _ [1, 2, 3, 4, 5] append (by decide) (by decide)
  obtain ⟨-, more⟩ := first_contents ({} : Disk) {} [(.openMemory {} none "w+" : Deed File)] 2
    (some 5) "rb" _ [1, 2, 3, 4, 5, 6] reads (by decide) (by decide)
  exact ⟨⟨append, reads⟩, fits (by simp), more 5 rfl (by decide)⟩

end Desk

end BufferedStreams
