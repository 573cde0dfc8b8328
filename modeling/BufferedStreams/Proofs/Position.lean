import BufferedStreams.Proofs.Memory
import BufferedStreams.Proofs.Runs

/-!
# The position never drifts

A stream does not ask its device where the cursor is.  It keeps the place of its buffer in `base`,
and what is known of the cursor follows from that:

* `Stream.front`   where the device cursor must be: at the end of what was read ahead, or behind
                   the output handed over;
* `Stream.place`   where the user is.

The front is the device position in every state (`Path.level`), whatever fails or comes short, and
a path without leaps moves the place by the bytes it gives and takes (`Path.place`).
-/

namespace BufferedStreams.Stream

variable {δ : Type}

/-- where the device cursor must be -/
def front (s : Stream δ) : Nat := s.base + if s.writing then s.buffer.drained else s.buffer.filled

/-- the logical position, before it is cut off at zero -/
def place (s : Stream δ) : Int := (s.base + s.buffer.cursor : Nat) - (s.buffer.pushed.length : Nat)

theorem front_writing {s : Stream δ} (w : s.writing = true) :
    s.front = s.base + s.buffer.drained := by
  rw [front, if_pos w]

theorem front_reading {s : Stream δ} (r : s.writing = false) :
    s.front = s.base + s.buffer.filled := by
  rw [front, if_neg (by simp [r])]

variable [Device δ] {s s' : Stream δ} {g t : Bytes} {leaps : Bool} {c : Cursor δ}

/-- the front is the device position -/
def Level (c : Cursor δ) (s : Stream δ) : Prop := c.valid s.device ∧ c.pos s.device = s.front

theorem Level.writing (w : s.writing = true) (ok : c.valid s.device)
    (h : c.pos s.device = s.base + s.buffer.drained) : s.Level c :=
  ⟨ok, h.trans (front_writing w).symm⟩

theorem Level.reading (r : s.writing = false) (ok : c.valid s.device)
    (h : c.pos s.device = s.base + s.buffer.filled) : s.Level c :=
  ⟨ok, h.trans (front_reading r).symm⟩

theorem Step.level (h : Step s g t s') (plain : s.mode.append = false) (sound : s.Sound)
    (hl : s.Level c) : s'.Level c := by
  obtain ⟨ok, pos⟩ := hl
  cases h with
  | @accepted n d w able call n_pos part =>
    obtain ⟨ok', moved, -⟩ := c.write ok call
    rw [front_writing w] at pos
    refine .writing (by exact w) ok' ?_
    have hd : (s.buffer.markDrained n).drained = min (s.buffer.drained + n) s.buffer.cursor := rfl
    show c.pos d = s.base + (s.buffer.markDrained n).drained
    rw [(moved n rfl).2, pos, hd]
    rw [Buffer.pendingSize] at part
    omega
  | @cleared n d w able call n_pos all =>
    obtain ⟨ok', moved, -⟩ := c.write ok call
    rw [front_writing w] at pos
    obtain ⟨hle, hn⟩ := moved n rfl
    rw [Buffer.length_pending sound.buffer] at hle
    rw [syncAppend_eq_self (by exact plain)]
    refine .writing (by exact w) ok' ?_
    have := sound.buffer.drained_le
    rw [Buffer.pendingSize] at hle all
    show c.pos d = s.base + s.buffer.cursor + 0
    omega
  | @refused bytes r d w able call none =>
    obtain ⟨ok', moved, still⟩ := c.write ok call
    refine ⟨ok', ?_⟩
    show c.pos d = s.front
    rw [← pos]
    cases r with
    | error f => exact still f rfl
    | ok n =>
      obtain rfl := none n rfl
      exact (moved 0 rfl).2
  | notified w able settled call =>
    obtain ⟨ok', still⟩ := c.flush ok call
    exact ⟨ok', still.trans pos⟩
  | @wrote bytes n d w able settled call n_pos =>
    obtain ⟨ok', moved, -⟩ := c.write ok call
    rw [front_writing w] at pos
    obtain ⟨hle, hn⟩ := moved n rfl
    refine .writing (by exact w) ok' ?_
    show c.pos d = s.base + min n bytes.length + s.buffer.drained
    omega
  | synced w settled =>
    rw [syncAppend_eq_self plain]
    exact ⟨ok, pos⟩
  | stored bytes w space =>
    rw [front_writing w] at pos
    exact .writing (by exact w) ok pos
  | @filled got d r able dry bare call =>
    obtain ⟨ok', moved, -⟩ := c.read ok call
    rw [front_reading r] at pos
    obtain ⟨hle, hn⟩ := moved got rfl
    refine .reading (by exact r) ok' ?_
    show c.pos d = s.base + s.buffer.filled + (s.buffer.receive got).filled
    rw [Buffer.filled_receive]
    omega
  | unfilled r able dry bare call =>
    obtain ⟨ok', -, still⟩ := c.read ok call
    rw [front_reading r] at pos
    refine .reading (by exact r) ok' ?_
    show c.pos _ = s.base + s.buffer.filled + min 0 _
    rw [still _ rfl, pos, Nat.zero_min, Nat.add_zero]
  | lacking r dry bare =>
    rw [front_reading r] at pos
    refine .reading (by exact r) ok ?_
    show c.pos _ = s.base + s.buffer.filled + min 0 _
    rw [pos, Nat.zero_min, Nat.add_zero]
  | @pulled n got d r able empty start bare n_pos call =>
    obtain ⟨ok', moved, -⟩ := c.read ok call
    rw [front_reading r] at pos
    obtain ⟨hle, hn⟩ := moved got rfl
    refine .reading (by exact r) ok' ?_
    show c.pos d = s.base + min got.count n + s.buffer.filled
    omega
  | balked r able n_pos call =>
    obtain ⟨ok', -, still⟩ := c.read ok call
    exact ⟨ok', (still _ rfl).trans pos⟩
  | handed n r bare =>
    rw [front_reading r] at pos
    exact .reading (by exact r) ok pos
  | returned n r =>
    rw [front_reading r] at pos
    exact .reading (by exact r) ok pos
  | emptied r dry bare =>
    rw [front_reading r] at pos
    exact .reading (by exact r) ok pos
  | noted m t upto => exact ⟨ok, pos⟩
  | restyled b name settled => exact ⟨ok, pos⟩

theorem Leap.level (h : Leap s s') (sound : s.Sound) (hl : s.Level c) : s'.Level c := by
  obtain ⟨ok, pos⟩ := hl
  cases h with
  | turned w settled =>
    -- without pending output both ends of the buffer are at its start
    have hc := (sound.collecting w).settled settled
    have hf := (sound.collecting w).filled
    have hd := sound.buffer.drained_le
    rw [front_writing w] at pos
    refine .reading (by exact rfl) ok ?_
    show c.pos s.device = s.base + s.buffer.filled
    omega
  | started r empty bare =>
    have hd := (sound.serving r).drained
    rw [front_reading r] at pos
    refine .writing (by exact rfl) ok ?_
    show c.pos s.device = s.base + s.buffer.drained
    omega
  | dropped r =>
    rw [front_reading r] at pos
    exact .reading (by exact r) ok pos
  | moved r able call =>
    obtain ⟨ok', moved, -⟩ := c.seek ok call
    exact .reading (by exact r) ok' (moved _ rfl)
  | unmoved r able call =>
    obtain ⟨ok', -, still⟩ := c.seek ok call
    exact ⟨ok', (still _ rfl).trans pos⟩
  | pushedBack bytes r =>
    rw [front_reading r] at pos
    exact .reading (by exact r) ok pos
  | skipped r hk =>
    rw [front_reading r] at pos
    rcases Buffer.skipped_eq_ok hk with ⟨-, -, rfl⟩ | ⟨-, -, rfl⟩
    · exact .reading (by exact r) ok pos
    · exact .reading (by exact r) ok pos
  | unmarked m => exact ⟨ok, pos⟩

theorem Path.level (h : Path leaps s g t s') (plain : s.mode.append = false) (sound : s.Sound)
    (hl : s.Level c) : s'.Level c := by
  induction h with
  | refl => exact hl
  | step h _ ih =>
    have plain' := h.constant.1 ▸ plain
    exact ih plain' (h.sound sound) (h.level plain sound hl)
  | leap h _ ih =>
    have plain' := h.constant.1 ▸ plain
    exact ih plain' (h.sound sound) (h.level sound hl)

/-! ## the place of the user -/

theorem Step.place (h : Step s g t s') (plain : s.mode.append = false) (sound : s.Sound) :
    s'.place = s.place + g.length + t.length := by
  have hc := sound.buffer.cursor_le
  unfold Stream.place
  cases h with
  | accepted w able call n_pos part =>
    show ((s.base + s.buffer.cursor : Nat) : Int) - (s.buffer.pushed.length : Nat) = _
    simp
  | cleared w able call n_pos all =>
    rw [syncAppend_eq_self (by exact plain)]
    show ((s.base + s.buffer.cursor + 0 : Nat) : Int) - (s.buffer.pushed.length : Nat) = _
    simp
  | refused w able call none => simp
  | notified w able settled call => simp
  | @wrote bytes n d w able settled call n_pos =>
    simp only [List.length_nil, List.length_take]
    omega
  | synced w settled =>
    rw [syncAppend_eq_self plain]
    simp
  | stored bytes w space =>
    have hp : (s.buffer.append bytes).2.pushed = s.buffer.pushed := rfl
    simp only [Buffer.cursor_append, hp, List.length_nil, List.length_take]
    omega
  | filled r able dry bare call =>
    rw [Buffer.readableSize] at dry
    simp only [Buffer.cursor_receive, Buffer.pushed_receive, List.length_nil]
    omega
  | unfilled r able dry bare call =>
    rw [Buffer.readableSize] at dry
    show ((s.base + s.buffer.filled + 0 : Nat) : Int) - (s.buffer.pushed.length : Nat) = _
    simp only [List.length_nil]
    omega
  | lacking r dry bare =>
    rw [Buffer.readableSize] at dry
    show ((s.base + s.buffer.filled + 0 : Nat) : Int) - (s.buffer.pushed.length : Nat) = _
    simp only [List.length_nil]
    omega
  | pulled r able empty start bare n_pos call =>
    simp only [Delivery.length_part, List.length_nil]
    omega
  | balked r able n_pos call => simp
  | handed n r bare =>
    rw [Buffer.length_take_fst sound.buffer]
    simp only [Buffer.cursor_take, Buffer.pushed_take, List.length_nil]
    omega
  | returned n r =>
    simp only [Buffer.takePushed, List.length_take, List.length_drop, List.length_nil]
    omega
  | emptied r dry bare =>
    rw [Buffer.readableSize] at dry
    show ((s.base + s.buffer.filled + 0 : Nat) : Int) - (0 : Nat) = _
    simp only [bare, List.length_nil]
    omega
  | noted m c upto => simp
  | restyled b name settled => simp

/-- without leaps the place moves by what is given and taken -/
theorem Path.place (h : Path false s g t s') (plain : s.mode.append = false) (sound : s.Sound) :
    s'.place = s.place + g.length + t.length := by
  generalize hf : false = leaps at h
  induction h with
  | refl => simp
  | step h _ ih =>
    have plain' := h.constant.1 ▸ plain
    rw [ih plain' (h.sound sound) hf, h.place plain sound, List.length_append,
      List.length_append]
    omega
  | leap => exact absurd hf (by simp)

omit [Device δ] in
theorem turns_eq_false (h : s'.writing = s.writing) : s.turns s' = false := by
  rw [turns, h]
  exact bne_self_eq_false _

/-- a read that does not turn the stream moves the place by what it gives -/
theorem intake_place (n : Nat) (plain : s.mode.append = false) (sound : s.Sound)
    (same : (s.intake n).2.writing = s.writing) :
    (s.intake n).2.place = s.place + (s.intake n).1.bytes.length := by
  have h := intake_path n sound
  rw [turns_eq_false same] at h
  rw [h.place plain sound, List.length_nil]
  omega

/-- a write that does not turn the stream moves the place by what it takes -/
theorem emit_place (bytes : Bytes) (plain : s.mode.append = false) (sound : s.Sound)
    (same : (s.emit bytes).2.writing = s.writing) :
    (s.emit bytes).2.place = s.place + (bytes.take (s.emit bytes).1.count).length := by
  rcases (emit_path bytes s).2 with ⟨f, d, he, -⟩ | h
  · rw [he]
    exact (Int.add_zero _).symm
  · rw [turns_eq_false same] at h
    rw [h.place plain sound, List.length_nil]
    omega

theorem transfer_place (op : Op) (h : op.transfers = true) (plain : s.mode.append = false)
    (sound : s.Sound) (same : (op.run s).writing = s.writing) :
    (op.run s).place = s.place + op.moved s := by
  -- a read is an intake, a write hands its bytes out
  have reading : ∀ n, op.run s = (s.intake n).2 → op.moved s = (s.intake n).1.bytes.length →
      (op.run s).place = s.place + op.moved s := by
    intro n run moved
    rw [run] at same ⊢
    rw [moved]
    exact intake_place n plain sound same
  have writing : ∀ bytes : Bytes, op.run s = (s.emit bytes).2 →
      op.moved s = (bytes.take (s.emit bytes).1.count).length →
      (op.run s).place = s.place + op.moved s := by
    intro bytes run moved
    rw [run] at same ⊢
    rw [moved]
    exact emit_place bytes plain sound same
  cases op with
  | read n =>
    by_cases hn : n = 0
    · subst hn
      exact (Int.add_zero _).symm
    · refine reading n ?_ ?_
      · show (s.read n).2 = _
        rw [read, if_neg hn]
      · rw [Op.moved, Op.given, if_neg hn]
        rfl
  | getc => exact reading 1 rfl rfl
  | write bytes =>
    by_cases hb : bytes = []
    · subst hb
      simp [Op.run, Op.moved, Op.given, Op.taken, write]
    · refine writing bytes ?_ (Nat.zero_add _)
      show (s.write bytes).2 = _
      rw [write, if_neg (by simp [hb])]
  | writeAll bytes => exact writing bytes (writeAll_snd bytes s) (Nat.zero_add _)
  | putc byte => exact writing [byte] (writeAll_snd [byte] s) (Nat.zero_add _)
  | _ => cases h

/-- In every state that a stream without append comes to, the device cursor is at the end of what was
read ahead, or behind the output handed over.  A read or a write that does not turn the stream moves
the place by the bytes it moves. -/
theorem position_kept (c : Cursor δ) (o : Opening) (d : δ) (m : OpenMode) (ops : List Op)
    (plain : m.append = false) (ok : c.valid d) (start : c.pos d = 0) :
    let s := after ops (opened o d m)
    (s.writing = false → s.base + s.buffer.filled = c.pos s.device) ∧
      (s.writing = true → s.base + s.buffer.drained = c.pos s.device) ∧
      ∀ op : Op, op.transfers = true → (op.run s).writing = s.writing →
        (op.run s).place = s.place + op.moved s := by
  intro s
  have path : Path true (opened o d m) _ _ s := after_path ops (opened_sound o d m)
  have fresh : (opened o d m).Level c := by
    refine ⟨ok, start.trans ?_⟩
    unfold front
    split <;> rfl
  obtain ⟨-, level⟩ := path.level plain (opened_sound o d m) fresh
  refine ⟨fun r => ?_, fun w => ?_, fun op ht same => ?_⟩
  · rw [level, front_reading r]
  · rw [level, front_writing w]
  · refine transfer_place op ht ?_ (after_sound ops (opened_sound o d m)) same
    rw [path.constant.1]
    exact plain

/-- six bytes in memory behind a buffer of four -/
theorem position_kept_six :
    let s := after [.read 2, .unread [9], .write [7, 8], .peek, .write [5]]
      (opened { capacity := 4 } (Memory.ofData [1, 2, 3, 4, 5, 6] {}) OpenMode.both)
    (s.writing = false → s.base + s.buffer.filled = s.device.cursor) ∧
      (s.writing = true → s.base + s.buffer.drained = s.device.cursor) := by
  have h := position_kept (Cursor.memory {}) { capacity := 4 } (Memory.ofData [1, 2, 3, 4, 5, 6] {})
    OpenMode.both [.read 2, .unread [9], .write [7, 8], .peek, .write [5]] rfl
    (Memory.plain_ofData _ rfl) rfl
  exact ⟨h.1, h.2.1⟩

end BufferedStreams.Stream
