import BufferedStreams.Proofs.Input
import BufferedStreams.Proofs.Position
import BufferedStreams.Proofs.Success

/-!
# Streams over memory

What a stream over memory holds is what its device holds, with pending output written over it from
the device cursor on: `Stream.contents`.  A step writes what it takes over the contents at the place
where the stream is (`Step.contents`), so a path without leaps does (`Path.contents`).
-/

namespace BufferedStreams

/-! ## overlays -/

theorem overlay_nil {old : Bytes} {pos : Nat} (h : pos ≤ old.length) :
    overlay old pos [] = old := by
  rw [overlay, Nat.sub_eq_zero_of_le h]
  exact List.take_append_drop pos old

/-- what is written in two parts -/
theorem overlay_overlay (old : Bytes) (pos : Nat) (a b : Bytes) :
    overlay (overlay old pos a) (pos + a.length) b = overlay old pos (a ++ b) := by
  -- what stands in front of the second part, with the gap filled
  have hp : (old.take pos ++ (zeros (pos - old.length) ++ a)).length = pos + a.length := by
    simp
    omega
  have ho : overlay old pos a =
      (old.take pos ++ (zeros (pos - old.length) ++ a)) ++ old.drop (pos + a.length) := by
    simp [overlay]
  have hl : pos + a.length ≤ (overlay old pos a).length := by
    rw [length_overlay]
    exact Nat.le_max_right _ _
  rw [overlay, Nat.sub_eq_zero_of_le hl, zeros_zero, List.nil_append, ho, ← hp, List.take_left,
    ← List.drop_drop, List.drop_left, hp, List.drop_drop, overlay]
  simp [Nat.add_assoc]

namespace Stream

variable {s s' : Stream Memory} {p : Memory.Plan} {g t : Bytes} {leaps : Bool}

/-- what the device will hold when all output is handed over -/
def contents (s : Stream Memory) : Bytes :=
  if s.writing then overlay s.device.data s.device.cursor s.buffer.pending else s.device.data

theorem contents_writing (w : s.writing = true) :
    s.contents = overlay s.device.data s.device.cursor s.buffer.pending := by
  rw [contents, if_pos w]

theorem contents_reading (r : s.writing = false) : s.contents = s.device.data := by
  rw [contents, if_neg (by simp [r])]

/-- a sound stream over memory that was made by a plan and does not append -/
structure Stored (p : Memory.Plan) (s : Stream Memory) : Prop where
  sound : s.Sound
  level : s.Level (Cursor.memory p)
  able : s.abilities = Abilities.all
  plain : s.mode.append = false

theorem Stored.device (h : s.Stored p) : s.device.Plain p := h.level.1

theorem Stored.cursor (h : s.Stored p) : s.device.cursor = s.front := h.level.2

theorem Stored.cursor_le (h : s.Stored p) : s.device.cursor ≤ s.device.data.length := by
  rw [Memory.length_data h.device.sound]
  exact h.device.cursor_le

theorem Path.stored (h : Path leaps s g t s') (hs : s.Stored p) : s'.Stored p where
  sound := h.sound hs.sound
  level := h.level hs.plain hs.sound hs.level
  able := h.constant.2.1.trans hs.able
  plain := by
    rw [h.constant.1]
    exact hs.plain

theorem Stored.feeding (h : s.Stored p) (r : s.writing = false) : s.Feeding (Source.memory p) :=
  ⟨r, by rw [h.able]; rfl, h.sound, h.device⟩

/-- the place of the stream is inside the contents -/
theorem Stored.place_le (h : s.Stored p) : s.base + s.buffer.cursor ≤ s.contents.length := by
  have hc := h.cursor_le
  have hf := h.cursor
  cases w : s.writing with
  | true =>
    have := h.sound.buffer.drained_le
    rw [front_writing w] at hf
    rw [contents_writing w, length_overlay, Buffer.length_pending h.sound.buffer, Buffer.pendingSize]
    omega
  | false =>
    have := h.sound.buffer.cursor_le
    rw [front_reading w] at hf
    rw [contents_reading w]
    omega

theorem contents_settled (h : s.Stored p) (settled : s.writing = true → s.buffer.pendingSize = 0) :
    s.contents = s.device.data := by
  cases w : s.writing with
  | true => rw [contents_writing w, Buffer.pending_eq_nil (settled w), overlay_nil h.cursor_le]
  | false => exact contents_reading w

/-- a read of memory changes nothing but the cursor -/
theorem data_read {n : Nat} {r : Except Fault Delivery} {m m' : Memory}
    (call : Device.read n m = (r, m')) : m'.data = m.data := by
  obtain ⟨-, rfl⟩ := Prod.mk.inj ((Memory.read_eq m n).symm.trans call)
  rfl

/-- a stream that keeps reading keeps its contents if the device keeps its data -/
theorem contents_reads (h : s.Stored p) (r : s.writing = false) (r' : s'.writing = false)
    (same : s'.device.data = s.device.data) :
    s'.contents = overlay s.contents (s.base + s.buffer.cursor) [] := by
  rw [overlay_nil h.place_le, contents_reading r, contents_reading r', same]

/-- a step writes what it takes over the contents, at the place where the stream is -/
theorem Step.contents (h : Step s g t s') (hs : s.Stored p) :
    s'.contents = overlay s.contents (s.base + s.buffer.cursor) t := by
  have hc := hs.cursor_le
  have hs' : s'.Stored p := (h.path : Path false s g t s').stored hs
  cases h with
  | @accepted n d w able call n_pos part =>
    rw [overlay_nil hs.place_le, contents_writing w, contents_writing (by exact w),
      Buffer.pending_markDrained hs.sound.buffer.drained_le]
    rcases Memory.write_data hs.device call with ⟨⟨f, hf⟩, -⟩ | ⟨k, hk, hle, data, cursor⟩
    · cases hf
    · cases hk
      have hl : (s.buffer.pending.take n).length = n := List.length_take_of_le hle
      show overlay d.data d.cursor (s.buffer.pending.drop n) = _
      rw [data, cursor]
      have := overlay_overlay s.device.data s.device.cursor (s.buffer.pending.take n)
        (s.buffer.pending.drop n)
      rwa [hl, List.take_append_drop] at this
  | @cleared n d w able call n_pos all =>
    have hl : s.buffer.pending.take n = s.buffer.pending := by
      apply List.take_of_length_le
      rw [Buffer.length_pending hs.sound.buffer]
      exact all
    rw [contents_settled hs' fun _ => by rw [syncAppend_buffer]; rfl, overlay_nil hs.place_le,
      contents_writing w, syncAppend_eq_self (by exact hs.plain)]
    rcases Memory.write_data hs.device call with ⟨⟨f, hf⟩, -⟩ | ⟨k, hk, -, data, -⟩
    · cases hf
    · cases hk
      rw [hl] at data
      exact data
  | @refused bytes r d w able call none =>
    rw [overlay_nil hs.place_le, contents_writing w, contents_writing (by exact w)]
    rcases Memory.write_data hs.device call with ⟨-, rfl⟩ | ⟨k, hk, -, data, cursor⟩
    · rfl
    · obtain rfl := none k hk
      rw [List.take_zero, overlay_nil hc] at data
      show overlay d.data d.cursor s.buffer.pending = _
      rw [data, cursor, Nat.add_zero]
  | notified w able settled call =>
    obtain ⟨-, rfl⟩ := Prod.mk.inj call
    rw [overlay_nil hs.place_le]
  | @wrote bytes n d w able settled call n_pos =>
    have hf := hs.cursor
    have hd := (hs.sound.collecting w).settled settled
    have hle := hs.sound.buffer.drained_le
    rw [front_writing w] at hf
    rw [contents_settled hs' fun _ => settled, contents_settled hs fun _ => settled]
    rcases Memory.write_data hs.device call with ⟨⟨f, hf⟩, -⟩ | ⟨k, hk, -, data, -⟩
    · cases hf
    · cases hk
      have hp : s.base + s.buffer.cursor = s.device.cursor := by omega
      rw [hp]
      exact data
  | synced w settled =>
    rw [overlay_nil hs.place_le, syncAppend_eq_self hs.plain]
  | stored bytes w space =>
    have hf := hs.cursor
    have hle := hs.sound.buffer.drained_le
    rw [front_writing w] at hf
    have hp : s.base + s.buffer.cursor = s.device.cursor + s.buffer.pending.length := by
      rw [Buffer.length_pending hs.sound.buffer, Buffer.pendingSize]
      omega
    rw [contents_writing w, contents_writing (by exact w), hp, overlay_overlay]
    show overlay _ _ (s.buffer.append bytes).2.pending = _
    rw [Buffer.pending_append hs.sound.buffer]
  | filled r able dry bare call => exact contents_reads hs r r (data_read call)
  | unfilled r able dry bare call => exact contents_reads hs r r (data_read call)
  | lacking r dry bare => exact contents_reads hs r r rfl
  | pulled r able empty start bare n_pos call => exact contents_reads hs r r (data_read call)
  | balked r able n_pos call => exact contents_reads hs r r (data_read call)
  | handed n r bare => exact contents_reads hs r r rfl
  | returned n r => exact contents_reads hs r r rfl
  | emptied r dry bare => exact contents_reads hs r r rfl
  | noted m c upto =>
    rw [overlay_nil hs.place_le]
    rfl
  | restyled b name settled =>
    rw [overlay_nil hs.place_le]
    rfl

/-- only reading streams give -/
theorem Step.given_nil (h : Step s g t s') (w : s.writing = true) : g = [] := by
  cases h <;> simp_all

/-- only writing streams take -/
theorem Step.taken_nil (h : Step s g t s') (r : s.writing = false) : t = [] := by
  cases h <;> simp_all

/-- a path of a writing stream writes what it takes and moves behind it -/
theorem Path.written (h : Path false s g t s') (w : s.writing = true) (hs : s.Stored p) :
    s'.contents = overlay s.contents (s.base + s.buffer.cursor) t ∧
      s'.base + s'.buffer.cursor = s.base + s.buffer.cursor + t.length := by
  generalize hf : false = leaps at h
  induction h with
  | refl => exact ⟨(overlay_nil hs.place_le).symm, rfl⟩
  | @step _ s u s' g t g' t' h _ ih =>
    have hu : u.Stored p := (h.path : Path false s g t u).stored hs
    have wu : u.writing = true := h.writing.trans w
    -- nothing is pushed back on a writing stream, so the place is the end of the buffer
    have moved := h.place hs.plain hs.sound
    rw [Stream.place, Stream.place, (hs.sound.collecting w).pushed, (hu.sound.collecting wu).pushed,
      h.given_nil w] at moved
    have hp : u.base + u.buffer.cursor = s.base + s.buffer.cursor + t.length := by
      simp only [List.length_nil] at moved
      omega
    obtain ⟨contents, end'⟩ := ih wu hu hf
    refine ⟨?_, ?_⟩
    · rw [contents, h.contents hs, hp, overlay_overlay]
    · rw [end', hp, List.length_append]
      omega
  | leap => exact absurd hf (by simp)

/-- a path of a reading stream leaves the contents as they are -/
theorem Path.unwritten (h : Path false s g t s') (r : s.writing = false) (hs : s.Stored p) :
    s'.contents = s.contents := by
  generalize hf : false = leaps at h
  induction h with
  | refl => rfl
  | @step _ s u s' g t g' t' h _ ih =>
    have hu : u.Stored p := (h.path : Path false s g t u).stored hs
    rw [ih (h.writing.trans r) hu hf, h.contents hs, h.taken_nil r, overlay_nil hs.place_le]
  | leap => exact absurd hf (by simp)

/-! ## with ample storage nothing stops a write -/

variable {top : Nat}

theorem drain_ample (a : p.Ample top) (hs : s.Stored p) (w : s.writing = true)
    (le : s.base + s.buffer.cursor ≤ top) : ∃ u, s.drain = (.ok (), u) := by
  by_cases h0 : s.buffer.pendingSize = 0
  · exact ⟨s, drain_idle h0⟩
  · have hf := hs.cursor
    have hd := hs.sound.buffer.drained_le
    have hl := Buffer.length_pending hs.sound.buffer
    rw [front_writing w] at hf
    have room : s.device.cursor + s.buffer.pending.length ≤ top := by
      rw [hl, Buffer.pendingSize]
      omega
    obtain ⟨size, hw, -⟩ := Memory.write_ample hs.device a room
    have able : s.abilities.write = true := by rw [hs.able]; rfl
    exact ⟨_, drain_all able hw (Nat.pos_of_ne_zero h0) (Nat.le_of_eq hl.symm)⟩

theorem push_ample (a : p.Ample top) (bytes : Bytes) (s : Stream Memory) (hs : s.Stored p)
    (w : s.writing = true) (settled : s.buffer.pendingSize = 0)
    (le : s.base + s.buffer.cursor + bytes.length ≤ top) : (s.push bytes).1.stop = none := by
  have hf := hs.cursor
  have hd := hs.sound.buffer.drained_le
  rw [front_writing w] at hf
  have room : s.device.cursor + bytes.length ≤ top := by omega
  obtain ⟨size, hw, -⟩ := Memory.write_ample hs.device a room
  fun_induction push bytes s with
  | case1 bytes s h0 => rfl
  | case2 bytes s h0 d call =>
    obtain ⟨h, -⟩ := Prod.mk.inj (hw.symm.trans call)
    injection h with h
    exact absurd h h0
  | case3 bytes s h0 n d call k t u hp ih =>
    -- all bytes go out in one call
    obtain ⟨h, -⟩ := Prod.mk.inj (hw.symm.trans call)
    injection h with h
    have hk : bytes.drop k = [] := by
      apply List.drop_eq_nil_of_le
      rw [h]
      exact Nat.le_min.mpr ⟨Nat.le_refl _, Nat.le_of_eq h.symm⟩
    rw [hk, push, if_pos List.length_nil] at hp
    obtain ⟨rfl, -⟩ := Prod.mk.inj hp
    rfl
  | case4 bytes s h0 f d call =>
    obtain ⟨h, -⟩ := Prod.mk.inj (hw.symm.trans call)
    cases h

theorem writeDirect_ample (a : p.Ample top) (bytes : Bytes) (hs : s.Stored p)
    (w : s.writing = true) (le : s.base + s.buffer.cursor + bytes.length ≤ top) :
    (s.writeDirect bytes).1.stop = none := by
  obtain ⟨u, hd⟩ := drain_ample a hs w (by omega)
  have path : Path false s [] [] s.drain.2 := drain_path w
  rw [hd] at path
  have hu := path.stored hs
  have able : u.abilities.write = true := by rw [hu.able]; rfl
  rw [writeDirect, hd]
  dsimp only
  rw [if_pos able]
  refine push_ample a bytes u hu (path.writing.trans w) (drain_ok hd) ?_
  rw [(path.written w hs).2]
  exact le

theorem stow_ample (a : p.Ample top) (bytes : Bytes) (s : Stream Memory) (hs : s.Stored p)
    (w : s.writing = true) (le : s.base + s.buffer.cursor + bytes.length ≤ top) :
    (s.stow bytes).1.stop = none := by
  fun_induction stow bytes s with
  | case1 bytes s h0 => rfl
  | case2 bytes s h0 f u hm =>
    unfold makeSpace at hm
    split at hm
    · obtain ⟨v, hd⟩ := drain_ample a hs w (by omega)
      rw [hd] at hm
      cases hm
    · cases hm
  | case3 bytes s h0 u hm full => rfl
  | case4 bytes s h0 u hm full k t v hv ih =>
    have path := makeSpace_path w
    rw [hm] at path
    have wu : u.writing = true := path.writing.trans w
    have hp := path.trans (Step.stored bytes wu (Nat.pos_of_ne_zero full)).path
    rw [hv] at ih
    refine ih (hp.stored hs) wu ?_
    rw [(hp.written w hs).2, List.length_drop]
    simp only [List.nil_append, List.length_take]
    omega

theorem writeLines_ample (a : p.Ample top) (bytes : Bytes) (hs : s.Stored p)
    (w : s.writing = true) (le : s.base + s.buffer.cursor + bytes.length ≤ top) :
    (s.writeLines bytes).1.stop = none := by
  unfold writeLines
  rcases hb : splitLastLine? bytes with _ | ⟨lines, tail⟩
  · exact stow_ample a bytes s hs w le
  · have hl := congrArg List.length (splitLastLine?_eq_some hb)
    rw [List.length_append] at hl
    have path := writeDirect_path lines w
    have stop := writeDirect_ample a lines hs w (by omega)
    have count := writeDirect_all lines s stop
    dsimp only
    rcases hd : s.writeDirect lines with ⟨⟨n, _ | f⟩, u⟩
    · rw [hd] at path count
      refine stow_ample a tail u (path.stored hs) (path.writing.trans w) ?_
      rw [(path.written w hs).2, count.1, List.take_length]
      omega
    · rw [hd] at stop
      cases stop

/-- a write to a writing stream takes all of its bytes -/
theorem emit_ample (a : p.Ample top) (bytes : Bytes) (hs : s.Stored p) (w : s.writing = true)
    (le : s.base + s.buffer.cursor + bytes.length ≤ top) : (s.emit bytes).1.stop = none := by
  rw [emit, turnToWrite_writing w]
  dsimp only
  split
  · exact writeDirect_ample a bytes hs w le
  · exact stow_ample a bytes s hs w le
  · exact writeLines_ample a bytes hs w le

end Stream

end BufferedStreams
