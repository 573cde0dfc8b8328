import BufferedStreams.Proofs.Contents
import BufferedStreams.Proofs.Reading
import BufferedStreams.Proofs.SparseFile

/-!
# The position of an append stream

A device that appends moves its cursor to the end of the data before each write, so the stream has to
take its base from the device afterwards.  It does that when all bytes went out, and not when the
device stopped it before.

* `Followed`   nothing is pending, so the end of the buffer is at the device cursor;
* `Strays`     a write is stopped with nothing pending, off the end of the data;
* `op_followed`   every operation keeps the base with the device, but for the writes that stray;
* `append_base_follows`   so does a run, and where the base is with the device a read takes the data
                          from there.
-/

namespace BufferedStreams

namespace Memory

/-- a sound device that appends, with its storage in the range of offsets -/
structure Appends (m : Memory) : Prop extends Sound m where
  append : m.plan.append = true
  small : m.capacity < offsetRange

variable {m m' : Memory}

theorem Appends.read {n : Nat} {r : Except Fault Delivery} (h : m.Appends)
    (call : Device.read n m = (r, m')) : m'.Appends := by
  obtain ⟨-, rfl⟩ := Prod.mk.inj ((read_eq m n).symm.trans call)
  exact ⟨sound_forward h.toSound n, h.append, h.small⟩

theorem Appends.write {bytes : Bytes} {r : Except Fault Nat} (h : m.Appends)
    (call : Device.write bytes m = (r, m')) : m'.Appends := by
  have large : allocatable < offsetRange := by decide
  have small := h.small
  by_cases hb : bytes = []
  · subst hb
    obtain ⟨-, rfl⟩ := Prod.mk.inj call
    exact h
  · rcases write_cases h.toSound hb with ⟨f, hw⟩ | ⟨n, size, le, hw, hn, fits⟩
    · obtain ⟨-, rfl⟩ := Prod.mk.inj (hw.symm.trans call)
      refine ⟨sound_forWrite h.toSound, ?_, ?_⟩
      · rw [plan_forWrite]
        exact h.append
      · rw [capacity_forWrite]
        exact small
    · obtain ⟨-, rfl⟩ := Prod.mk.inj (hw.symm.trans call)
      have hl : (bytes.take n).length = n := List.length_take_of_le hn
      refine ⟨sound_put (sound_grown (sound_forWrite h.toSound) size) (by rw [hl]; exact fits),
        ?_, ?_⟩
      · show m.forWrite.plan.append = true
        rw [plan_forWrite]
        exact h.append
      · rw [capacity_put, capacity_grown, capacity_forWrite]
        omega

theorem Appends.seek {off : Int} {w : Whence} {r : Except Fault Nat} (h : m.Appends)
    (call : Device.seek off w m = (r, m')) :
    m'.Appends ∧ (∀ pos, r = .ok pos → m'.cursor = pos) ∧ ∀ f, r = .error f → m' = m := by
  have large : allocatable < offsetRange := by decide
  have small := h.small
  rcases seek_cases m off w with ⟨f, hs⟩ | ⟨pos, size, le, hs, fits⟩
  · obtain ⟨rfl, rfl⟩ := Prod.mk.inj (hs.symm.trans call)
    exact ⟨h, by rintro _ ⟨⟩, fun _ _ => rfl⟩
  · obtain ⟨rfl, rfl⟩ := Prod.mk.inj (hs.symm.trans call)
    refine ⟨⟨sound_moveTo (sound_grown h.toSound size) fits, h.append, ?_⟩, ?_, by rintro _ ⟨⟩⟩
    · rw [capacity_moveTo, capacity_grown]
      omega
    · rintro _ ⟨⟩
      rfl

theorem Appends.length_lt (h : m.Appends) : m.length < offsetRange :=
  Nat.lt_of_le_of_lt h.length_le h.small

/-- the device tells where its cursor is -/
theorem Appends.here (h : m.Appends) :
    m.seek 0 .current = (.ok m.cursor, m.moveTo m.cursor) ∧
      (m.moveTo m.cursor).length = m.length := by
  have range : offsetRange ≤ wordRange := by decide
  have := h.cursor_le
  have := h.length_lt
  exact seek_within h.toSound (Int.add_zero _) h.cursor_le (by omega)

end Memory

namespace Stream

variable {s s' u : Stream Memory} {g t : Bytes} {leaps : Bool}

/-! ## what every step keeps -/

/-- the input of a stream over memory, but for what is pushed back -/
def fresh (s : Stream Memory) : Bytes := s.buffer.readable ++ s.device.rest

/-- a sound append stream over memory that appends; while it reads, its input is the end of the
data -/
structure Appending (s : Stream Memory) : Prop where
  sound : s.Sound
  device : s.device.Appends
  append : s.mode.append = true
  able : s.abilities = Abilities.all
  fresh : s.writing = false → s.fresh <:+ s.device.data

theorem Appending.feeding (h : s.Appending) (r : s.writing = false) :
    s.Feeding Source.sound.toContents :=
  ⟨r, by rw [h.able]; rfl, h.sound, h.device.toSound⟩

theorem syncAppend_appends (h : s.device.Appends) : s.syncAppend.device.Appends := by
  unfold syncAppend
  split
  · rcases call : Device.seek 0 .current s.device with ⟨_ | pos, d⟩
    · exact (h.seek call).1
    · exact (h.seek call).1
  · exact h

theorem Step.appends (h : Step s g t s') (hd : s.device.Appends) : s'.device.Appends := by
  cases h with
  | accepted w able call n_pos part => exact hd.write call
  | cleared w able call n_pos all => exact syncAppend_appends (hd.write call)
  | refused w able call none => exact hd.write call
  | notified w able settled call =>
    obtain ⟨-, rfl⟩ := Prod.mk.inj call
    exact hd
  | wrote w able settled call n_pos => exact hd.write call
  | synced w settled => exact syncAppend_appends hd
  | stored bytes w space => exact hd
  | filled r able dry bare call => exact hd.read call
  | unfilled r able dry bare call => exact hd.read call
  | lacking r dry bare => exact hd
  | pulled r able empty start bare n_pos call => exact hd.read call
  | balked r able n_pos call => exact hd.read call
  | handed n r bare => exact hd
  | returned n r => exact hd
  | emptied r dry bare => exact hd
  | noted m c upto => exact hd
  | restyled b name settled => exact hd

/-- a reading step takes the start of the input at most -/
theorem Step.fresh (h : Step s g t s') (hs : s.Appending) (r : s.writing = false) :
    s'.fresh <:+ s.fresh ∧ s'.device.data = s.device.data := by
  have shorter : s.buffer.pushed = [] → s'.buffer.pushed = [] → s'.fresh <:+ s.fresh := by
    intro bare bare'
    have hi := (h.input (hs.feeding r)).2
    rw [input_bare bare, input_bare bare'] at hi
    exact ⟨g, hi.symm⟩
  have writes : s.writing = true → False := fun w => absurd w (by simp [r])
  cases h with
  | accepted w => exact (writes w).elim
  | cleared w => exact (writes w).elim
  | refused w => exact (writes w).elim
  | notified w => exact (writes w).elim
  | wrote w => exact (writes w).elim
  | synced w => exact (writes w).elim
  | stored bytes w => exact (writes w).elim
  | filled _ able dry bare call => exact ⟨shorter bare bare, data_read call⟩
  | unfilled _ able dry bare call => exact ⟨shorter bare bare, data_read call⟩
  | lacking _ dry bare => exact ⟨shorter bare bare, rfl⟩
  | pulled _ able empty start bare n_pos call => exact ⟨shorter bare bare, data_read call⟩
  | @balked n f d _ able n_pos call =>
    obtain ⟨hf, -⟩ := Prod.mk.inj ((Memory.read_eq s.device n).symm.trans call)
    cases hf
  | handed n _ bare => exact ⟨shorter bare bare, rfl⟩
  | returned n _ => exact ⟨List.suffix_refl _, rfl⟩
  | emptied _ dry bare => exact ⟨shorter bare rfl, rfl⟩
  | noted m c upto => exact ⟨List.suffix_refl _, rfl⟩
  | restyled b name settled => exact ⟨List.suffix_refl _, rfl⟩

theorem Step.appending (h : Step s g t s') (hs : s.Appending) : s'.Appending where
  sound := h.sound hs.sound
  device := h.appends hs.device
  append := by
    rw [h.constant.1]
    exact hs.append
  able := h.constant.2.1.trans hs.able
  fresh r' := by
    have r := h.writing.symm.trans r'
    obtain ⟨shorter, data⟩ := h.fresh hs r
    rw [data]
    exact shorter.trans (hs.fresh r)

theorem fresh_dry (dry : s.buffer.readableSize = 0) : s.fresh <:+ s.device.data := by
  rw [Stream.fresh, Buffer.readable_eq_nil dry]
  exact List.drop_suffix _ _

theorem Leap.appending (h : Leap s s') (hs : s.Appending) : s'.Appending := by
  have sound := h.sound hs.sound
  have append : s'.mode.append = true := by
    rw [h.constant.1]
    exact hs.append
  have able := h.constant.2.1.trans hs.able
  cases h with
  | turned w settled =>
    have hf := (hs.sound.collecting w).filled
    have dry : s.buffer.readableSize = 0 := by
      rw [Buffer.readableSize, hf, Nat.sub_self]
    exact ⟨sound, hs.device, append, able, fun _ => fresh_dry (by exact dry)⟩
  | started r empty bare => exact ⟨sound, hs.device, append, able, fun r => by cases r⟩
  | dropped r => exact ⟨sound, hs.device, append, able, fun _ => fresh_dry (Nat.zero_sub _)⟩
  | moved r able' call =>
    exact ⟨sound, (hs.device.seek call).1, append, able, fun _ => fresh_dry (Nat.zero_sub _)⟩
  | unmoved r able' call =>
    obtain ⟨device, -, still⟩ := hs.device.seek call
    obtain rfl := still _ rfl
    exact ⟨sound, device, append, able, hs.fresh⟩
  | pushedBack bytes r => exact ⟨sound, hs.device, append, able, hs.fresh⟩
  | skipped r ok =>
    refine ⟨sound, hs.device, append, able, fun _ => ?_⟩
    rcases Buffer.skipped_eq_ok ok with ⟨-, -, rfl⟩ | ⟨-, le, rfl⟩
    · exact hs.fresh r
    · refine List.IsSuffix.trans ?_ (hs.fresh r)
      rw [Stream.fresh, Buffer.readable_take, Stream.fresh]
      have := Buffer.length_readable hs.sound.buffer
      rw [← List.drop_append_of_le_length (by omega)]
      exact List.drop_suffix _ _
  | unmarked m => exact ⟨sound, hs.device, append, able, hs.fresh⟩

theorem Path.appending (h : Path leaps s g t s') (hs : s.Appending) : s'.Appending :=
  h.keeps (fun h => h.appending) (fun h => h.appending) hs

/-! ## the base follows the device -/

/-- no output is pending -/
def Settled (s : Stream Memory) : Prop := s.writing = true → s.buffer.pendingSize = 0

/-- unless output is pending, the end of the buffer is where the device cursor is -/
def Followed (s : Stream Memory) : Prop :=
  s.Settled → s.base + s.buffer.filled = s.device.cursor

theorem Appending.empty (h : s.Appending) (w : s.writing = true)
    (settled : s.buffer.pendingSize = 0) : s.buffer.filled = 0 ∧ s.buffer.cursor = 0 := by
  have hc := h.sound.collecting w
  have cursor := hc.settled settled
  exact ⟨hc.filled.trans cursor, cursor⟩

/-- a step that reads moves the base with the device -/
theorem Step.followed (h : Step s g t s') (r : s.writing = false) (hf : s.Followed) :
    s'.Followed := by
  intro _
  have here := hf fun w => absurd w (by simp [r])
  have writes : s.writing = true → False := fun w => absurd w (by simp [r])
  cases h with
  | accepted w => exact (writes w).elim
  | cleared w => exact (writes w).elim
  | refused w => exact (writes w).elim
  | notified w => exact (writes w).elim
  | wrote w => exact (writes w).elim
  | synced w => exact (writes w).elim
  | stored bytes w => exact (writes w).elim
  | @filled got d _ able dry bare call =>
    obtain ⟨hr, rfl⟩ := Prod.mk.inj ((Memory.read_eq s.device s.buffer.capacity).symm.trans call)
    cases hr
    show s.base + s.buffer.filled + (s.buffer.receive _).filled = s.device.cursor + _
    rw [here, Buffer.filled_receive]
    exact congrArg _ (Nat.min_eq_left (Nat.min_le_left _ _))
  | @unfilled f d _ able dry bare call =>
    obtain ⟨hr, -⟩ := Prod.mk.inj ((Memory.read_eq s.device s.buffer.capacity).symm.trans call)
    cases hr
  | lacking _ dry bare =>
    show s.base + s.buffer.filled + min 0 _ = s.device.cursor
    rw [here, Nat.zero_min, Nat.add_zero]
  | @pulled n got d _ able empty start bare n_pos call =>
    obtain ⟨hr, rfl⟩ := Prod.mk.inj ((Memory.read_eq s.device n).symm.trans call)
    cases hr
    show s.base + min (min n _) n + s.buffer.filled = s.device.cursor + _
    rw [Nat.min_eq_left (Nat.min_le_left _ _)]
    omega
  | @balked n f d _ able n_pos call =>
    obtain ⟨hr, -⟩ := Prod.mk.inj ((Memory.read_eq s.device n).symm.trans call)
    cases hr
  | handed n _ bare => exact here
  | returned n _ => exact here
  | emptied _ dry bare => exact here
  | noted m c upto => exact here
  | restyled b name settled => exact here

theorem Path.followed (h : Path false s g t s') (r : s.writing = false) (hf : s.Followed) :
    s'.Followed := by
  generalize hl : false = leaps at h
  induction h with
  | refl => exact hf
  | step h _ ih => exact ih (h.writing.trans r) (h.followed r hf) hl
  | leap => exact absurd hl (by simp)

/-! ## draining -/

/-- a sync takes the base from the device -/
theorem syncAppend_here (hd : s.device.Appends) (append : s.mode.append = true)
    (able : s.abilities = Abilities.all) :
    s.syncAppend.base = s.device.cursor ∧ s.syncAppend.device.cursor = s.device.cursor ∧
      s.syncAppend.device.length = s.device.length := by
  have asks : (s.mode.append && s.abilities.seek) = true := by rw [append, able]; rfl
  obtain ⟨here, length⟩ := hd.here
  have call : Device.seek 0 .current s.device = _ := here
  rw [syncAppend, if_pos asks, call]
  exact ⟨rfl, rfl, length⟩

/-- a drain of pending output ends at the end of the data, or leaves some output pending -/
theorem drain_end (hs : s.Appending) (some : s.buffer.pendingSize ≠ 0) :
    (∃ u, s.drain = (.ok (), u) ∧ u.base = u.device.length ∧ u.device.cursor = u.device.length) ∨
      ∃ f u, s.drain = (.error f, u) ∧ u.buffer.pendingSize ≠ 0 := by
  obtain ⟨-, hd, append, able, -⟩ := hs
  induction s using drain_induct with
  | idle s h0 => exact absurd h0 some
  | lacking s h0 unable =>
    rw [able] at unable
    cases unable
  | refused s r d h0 able' call none =>
    obtain ⟨f, hf⟩ := drain_refused h0 able' call none
    exact .inr ⟨f, _, hf, h0⟩
  | part s n d able' call n_pos hlt ih =>
    rw [drain_part able' call n_pos hlt]
    refine ih ?_ (hd.write call) append able
    show (s.buffer.markDrained n).pendingSize ≠ 0
    rw [Buffer.pendingSize_markDrained]
    omega
  | all s n d able' call pos hle =>
    have bytes : s.buffer.pending ≠ [] := by
      intro empty
      rw [empty] at call
      obtain ⟨hn, -⟩ := Prod.mk.inj call
      cases hn
      omega
    obtain ⟨stop, -⟩ := Memory.write_append hd.toSound hd.append bytes call
    have written : d.Appends := hd.write call
    obtain ⟨base, cursor, length⟩ := syncAppend_here (s := { s with
      device := d, base := s.base + s.buffer.cursor, buffer := s.buffer.forgetOutput })
      written append able
    refine .inl ⟨s.afterAll d, ?_, ?_, ?_⟩
    · rw [drain_all able' call pos hle]
      rfl
    · rw [afterAll_eq]
      exact (base.trans stop).trans length.symm
    · rw [afterAll_eq]
      exact (cursor.trans stop).trans length.symm

theorem drain_followed (hs : s.Appending) (w : s.writing = true) (hf : s.Followed) :
    s.drain.2.Followed := by
  by_cases h0 : s.buffer.pendingSize = 0
  · rw [drain_idle h0]
    exact hf
  · have path : Path false s [] [] s.drain.2 := drain_path w
    have hu := path.appending hs
    have wu := path.writing.trans w
    rcases drain_end hs h0 with ⟨u, hd, base, cursor⟩ | ⟨f, u, hd, some⟩
    · rw [hd] at hu wu ⊢
      intro settled
      rw [(hu.empty wu (settled wu)).1]
      exact base.trans cursor.symm
    · rw [hd] at wu ⊢
      exact fun settled => absurd (settled wu) some

theorem flush_followed (hs : s.Appending) (hf : s.Followed) : s.flush.2.Followed := by
  unfold flush
  split
  · next w => exact drain_followed hs w hf
  · exact hf

theorem turnToRead_followed (hs : s.Appending) (hf : s.Followed) : s.turnToRead.2.Followed := by
  unfold turnToRead
  split
  · next w =>
    have drained := drain_followed hs w hf
    rcases hd : s.drain with ⟨f | _, u⟩
    · rw [hd] at drained
      exact drained
    · rw [hd] at drained
      exact fun _ => drained fun _ => drain_ok hd
  · exact hf

/-! ## moving -/

/-- a move takes the base from the device, or nothing moves -/
theorem moveDevice_followed (hs : s.Appending) (off : Int) (w : Whence) (hf : s.Followed) :
    (s.moveDevice off w).2.Followed := by
  unfold moveDevice
  dsimp only
  generalize (if w = .current then off - s.ahead else off) = target
  split
  · exact hf
  · rcases call : Device.seek target w s.device with ⟨f | pos, d⟩
    · obtain ⟨-, -, still⟩ := hs.device.seek call
      obtain rfl := still f rfl
      exact hf
    · obtain ⟨-, moved, -⟩ := hs.device.seek call
      exact fun _ => (moved pos rfl).symm

/-- a move to where the stream is takes the device there, or nothing moves as that is in front of the
data -/
theorem moveDevice_place (hs : s.Appending) (hf : s.Followed) (r : s.writing = false) :
    (∃ why, s.moveDevice 0 .current = (.error (.invalid why), s)) ∨
      (0 ≤ s.place ∧ s.moveDevice 0 .current = (.ok s.place.toNat, { s with
        device := s.device.moveTo s.place.toNat
        buffer := s.buffer.clear
        base := s.place.toNat }) ∧
        (s.device.moveTo s.place.toNat).length = s.device.length) := by
  have here := hf fun w => absurd w (by simp [r])
  have order := hs.sound.buffer.cursor_le
  have length := hs.device.length_lt
  have cursor := hs.device.cursor_le
  have range : offsetRange ≤ wordRange := by decide
  have target : (s.device.base .current : Int) + (0 - s.ahead) = s.place := by
    show (s.device.cursor : Int) + (0 - s.ahead) = s.place
    rw [Stream.place, ahead, Buffer.readableSize]
    omega
  rw [moveDevice, if_pos rfl]
  generalize (0 - s.ahead : Int) = off at target ⊢
  split
  · exact .inl ⟨_, rfl⟩
  · by_cases neg : s.place < 0
    · have call : Device.seek off .current s.device = (.error (.invalid .beforeStart), s.device) :=
        Memory.seek_negative (by omega)
      rw [call]
      exact .inl ⟨_, rfl⟩
    · have goal : (s.device.base .current : Int) + off = (s.place.toNat : Nat) := by
        rw [target]
        exact (Int.toNat_of_nonneg (by omega)).symm
      have le : s.place.toNat ≤ s.device.length := by
        rw [Stream.place]
        omega
      obtain ⟨moved, same⟩ := Memory.seek_within hs.device.toSound goal le (by omega)
      have call : Device.seek off .current s.device = _ := moved
      rw [call]
      exact .inr ⟨by omega, rfl, same⟩

/-- a turn to writing takes an append stream to its place, or changes nothing but a mark -/
theorem turnToWrite_place (hs : s.Appending) (hf : s.Followed) (r : s.writing = false) :
    (∃ f, s.turnToWrite = (.error f, s.fail)) ∨
      ∃ u, s.turnToWrite = (.ok (), u) ∧ u.writing = true ∧ u.buffer.pendingSize = 0 ∧
        (u.base : Int) = s.place ∧ u.device.cursor = u.base ∧
        u.device.length = s.device.length := by
  have able : s.abilities.seek = true := by rw [hs.able]; rfl
  have other : ¬Errno.invalid = Errno.cannotSeek := by decide
  rw [turnToWrite, if_neg (by simp [r]), if_pos able]
  rcases moveDevice_place hs hf r with ⟨why, hm⟩ | ⟨pos, hm, same⟩
  · rw [hm]
    exact .inl ⟨_, if_neg other⟩
  · rw [hm]
    refine .inr ⟨_, rfl, rfl, ?_, Int.toNat_of_nonneg pos, rfl, same⟩
    exact Nat.zero_sub _

/-! ## writing -/

/-- a direct write that is not stopped ends with a sync; one that is stopped has counted from the
base what went to the end of the data -/
theorem push_ends (bytes : Bytes) (s : Stream Memory) (hd : s.device.Appends)
    (append : s.mode.append = true) (able : s.abilities = Abilities.all) :
    (s.push bytes).2.buffer = s.buffer ∧
      ((s.push bytes).1.stop = none → (s.push bytes).2.base = (s.push bytes).2.device.cursor) ∧
      ((s.push bytes).1.stop ≠ none →
        (s.push bytes).2.base = s.base + (s.push bytes).1.count ∧
          (s.push bytes).2.device.cursor = s.device.length + (s.push bytes).1.count) := by
  fun_induction push bytes s with
  | case1 bytes s h0 =>
    obtain ⟨base, cursor, -⟩ := syncAppend_here hd append able
    exact ⟨syncAppend_buffer s, fun _ => base.trans cursor.symm, fun h => absurd rfl h⟩
  | case2 bytes s h0 d call =>
    have hb : bytes ≠ [] := fun e => h0 (by rw [e]; rfl)
    obtain ⟨stop, ⟨f, hf, -⟩ | ⟨n, hn, -, length⟩⟩ :=
      Memory.write_append hd.toSound hd.append hb call
    · cases hf
    · cases hn
      refine ⟨rfl, fun none => ?_, fun _ => ⟨rfl, stop.trans length⟩⟩
      cases none
  | case3 bytes s h0 n d call k t u hp ih =>
    have hb : bytes ≠ [] := fun e => h0 (by rw [e]; rfl)
    obtain ⟨-, ⟨f, hf, -⟩ | ⟨n', hn, le, length⟩⟩ :=
      Memory.write_append hd.toSound hd.append hb call
    · cases hf
    · cases hn
      have hk : k = n + 1 := Nat.min_eq_left le
      have ih := ih (hd.write call) append able
      rw [hp] at ih
      refine ⟨ih.1, ih.2.1, fun h => ?_⟩
      obtain ⟨base, cursor⟩ := ih.2.2 h
      have base : u.base = s.base + k + t.count := base
      have cursor : u.device.cursor = d.length + t.count := cursor
      refine ⟨?_, ?_⟩
      · show u.base = s.base + (k + t.count)
        omega
      · show u.device.cursor = s.device.length + (k + t.count)
        omega
  | case4 bytes s h0 f d call =>
    have hb : bytes ≠ [] := fun e => h0 (by rw [e]; rfl)
    obtain ⟨stop, ⟨f', -, length⟩ | ⟨n, hn, -⟩⟩ :=
      Memory.write_append hd.toSound hd.append hb call
    · refine ⟨rfl, fun none => ?_, fun _ => ⟨rfl, stop.trans length⟩⟩
      cases none
    · cases hn

/-- the base follows the device through a write, unless the write was stopped with nothing pending
and had started off the end of the data -/
def Kept (s : Stream Memory) (r : Outcome × Stream Memory) : Prop :=
  r.2.Followed ↔ ¬(r.1.stop ≠ none ∧ r.2.buffer.pendingSize = 0 ∧
    s.buffer.pendingSize = 0 ∧ s.base ≠ s.device.length)

/-- a write that is followed and was not stopped, or has left output pending -/
theorem Kept.of {r : Outcome × Stream Memory} (hf : r.2.Followed)
    (h : r.1.stop ≠ none → r.2.buffer.pendingSize ≠ 0) : s.Kept r :=
  ⟨fun _ stopped => h stopped.1 stopped.2.1, fun _ => hf⟩

/-- pending output is not at the device -/
theorem Followed.pending (w : s.writing = true) (some : s.buffer.pendingSize ≠ 0) : s.Followed :=
  fun settled => absurd (settled w) some

theorem push_kept (bytes : Bytes) (hs : s.Appending) (w : s.writing = true)
    (settled : s.buffer.pendingSize = 0) : s.Kept (s.push bytes) := by
  obtain ⟨buffer, synced, counted⟩ := push_ends bytes s hs.device hs.append hs.able
  have filled : (s.push bytes).2.buffer.filled = 0 := by
    rw [buffer]
    exact (hs.empty w settled).1
  have settled' : (s.push bytes).2.buffer.pendingSize = 0 := by rw [buffer, settled]
  by_cases stop : (s.push bytes).1.stop = none
  · refine ⟨fun _ stopped => stopped.1 stop, fun _ _ => ?_⟩
    rw [filled]
    exact synced stop
  · obtain ⟨base, cursor⟩ := counted stop
    refine ⟨fun followed stopped => ?_, fun kept _ => ?_⟩
    · have := followed fun _ => settled'
      have := stopped.2.2.2
      omega
    · have start : s.base = s.device.length :=
        Decidable.not_not.mp fun off => kept ⟨stop, settled', settled, off⟩
      omega

theorem writeDirect_kept (bytes : Bytes) (hs : s.Appending) (w : s.writing = true) :
    s.Kept (s.writeDirect bytes) := by
  have able : ∀ u : Stream Memory, u.Appending → u.abilities.write = true := by
    intro u hu
    rw [hu.able]
    rfl
  unfold writeDirect
  by_cases h0 : s.buffer.pendingSize = 0
  · rw [drain_idle h0]
    dsimp only
    rw [if_pos (able s hs)]
    exact push_kept bytes hs w h0
  · have path : Path false s [] [] s.drain.2 := drain_path w
    have hu := path.appending hs
    have wu := path.writing.trans w
    rcases drain_end hs h0 with ⟨u, hd, base, -⟩ | ⟨f, u, hd, some⟩
    -- the drain has taken the base to the end of the data
    · rw [hd] at hu wu
      rw [hd]
      dsimp only
      rw [if_pos (able u hu)]
      have kept := push_kept bytes hu wu (drain_ok hd)
      refine ⟨fun _ stopped => h0 stopped.2.2.1, fun _ => kept.mpr fun stopped => ?_⟩
      exact stopped.2.2.2 base
    · rw [hd] at wu
      rw [hd]
      exact .of (.pending wu some) fun _ => some

theorem drain_stuck {f : Fault} (hs : s.Appending) (h : s.drain = (.error f, u)) :
    u.buffer.pendingSize ≠ 0 := by
  by_cases h0 : s.buffer.pendingSize = 0
  · rw [drain_idle h0] at h
    cases h
  · rcases drain_end hs h0 with ⟨v, hd, -⟩ | ⟨f', v, hd, some⟩
    · rw [hd] at h
      cases h
    · rw [hd] at h
      cases h
      exact some

theorem makeSpace_followed (hs : s.Appending) (w : s.writing = true) (hf : s.Followed) :
    s.makeSpace.2.Followed := by
  unfold makeSpace
  split
  · exact drain_followed hs w hf
  · exact hf

theorem makeSpace_stuck {f : Fault} (hs : s.Appending) (h : s.makeSpace = (.error f, u)) :
    u.buffer.pendingSize ≠ 0 := by
  unfold makeSpace at h
  split at h
  · exact drain_stuck hs h
  · cases h

/-- collecting output never loses the device; if it is stopped there is output left -/
theorem stow_followed (bytes : Bytes) (s : Stream Memory) (hs : s.Appending)
    (w : s.writing = true) (hf : s.Followed) :
    (s.stow bytes).2.Followed ∧
      ((s.stow bytes).1.stop ≠ none → (s.stow bytes).2.buffer.pendingSize ≠ 0) := by
  fun_induction stow bytes s with
  | case1 bytes s h0 => exact ⟨hf, fun h => absurd rfl h⟩
  | case2 bytes s h0 f v hm =>
    have followed := makeSpace_followed hs w hf
    rw [hm] at followed
    exact ⟨followed, fun _ => makeSpace_stuck hs hm⟩
  | case3 bytes s h0 v hm full =>
    have followed := makeSpace_followed hs w hf
    rw [hm] at followed
    exact ⟨followed, fun h => absurd rfl h⟩
  | case4 bytes s h0 v hm full k t x hx ih =>
    have path := makeSpace_path w
    rw [hm] at path
    have wv : v.writing = true := path.writing.trans w
    have store : Step v [] _ { v with buffer := (v.buffer.append bytes).2 } :=
      .stored bytes wv (Nat.pos_of_ne_zero full)
    have some : (v.buffer.append bytes).2.pendingSize ≠ 0 := by
      have order : v.buffer.drained ≤ v.buffer.cursor := (path.appending hs).sound.buffer.drained_le
      rw [Buffer.pendingSize, Buffer.cursor_append, Buffer.drained_append]
      omega
    have ih := ih (store.appending (path.appending hs)) wv (.pending (by exact wv) some)
    rw [hx] at ih
    exact ih

theorem stow_kept (bytes : Bytes) (hs : s.Appending) (w : s.writing = true) (hf : s.Followed) :
    u.Kept (s.stow bytes) := by
  obtain ⟨followed, stuck⟩ := stow_followed bytes s hs w hf
  exact .of followed stuck

theorem writeLines_kept (bytes : Bytes) (hs : s.Appending) (w : s.writing = true)
    (hf : s.Followed) : s.Kept (s.writeLines bytes) := by
  unfold writeLines
  rcases splitLastLine? bytes with _ | ⟨lines, tail⟩
  · exact stow_kept bytes hs w hf
  · have path := writeDirect_path lines w
    have kept := writeDirect_kept lines hs w
    dsimp only
    rcases hd : s.writeDirect lines with ⟨⟨count, _ | f⟩, v⟩
    · rw [hd] at path kept
      have followed : v.Followed := kept.mpr fun stopped => stopped.1 rfl
      obtain ⟨followed', stuck⟩ :=
        stow_followed tail v (path.appending hs) (path.writing.trans w) followed
      exact .of followed' stuck
    · rw [hd] at kept
      exact kept

theorem emit_kept (bytes : Bytes) (hs : s.Appending) (w : s.writing = true) (hf : s.Followed) :
    s.Kept (s.emit bytes) := by
  rw [emit, turnToWrite_writing w]
  dsimp only
  split
  · exact writeDirect_kept bytes hs w
  · exact stow_kept bytes hs w hf
  · exact writeLines_kept bytes hs w hf

/-- a write strays if it is stopped on a writing stream with nothing pending, neither before nor
after, and the stream was not at the end of the data -/
def Strays (s : Stream Memory) (bytes : Bytes) : Prop :=
  (s.emit bytes).1.stop ≠ none ∧ (s.emit bytes).2.writing = true ∧ (s.emit bytes).2.Settled ∧
    s.Settled ∧ s.place ≠ s.device.length

theorem place_settled (hs : s.Appending) (w : s.writing = true)
    (settled : s.buffer.pendingSize = 0) : s.place = s.base := by
  rw [Stream.place, (hs.empty w settled).2, (hs.sound.collecting w).pushed]
  exact Int.sub_zero _

theorem emit_writing_followed (bytes : Bytes) (hs : s.Appending) (w : s.writing = true)
    (hf : s.Followed) : (s.emit bytes).2.Followed ↔ ¬s.Strays bytes := by
  have path : Path false s [] _ (s.emit bytes).2 := emit_writing_path bytes w
  have w' := path.writing.trans w
  refine (emit_kept bytes hs w hf).trans (not_congr ⟨?_, ?_⟩)
  · rintro ⟨stop, settled', settled, off⟩
    refine ⟨stop, w', fun _ => settled', fun _ => settled, ?_⟩
    rw [place_settled hs w settled]
    exact mt Int.ofNat_inj.mp off
  · rintro ⟨stop, -, settled', settled, off⟩
    refine ⟨stop, settled' w', settled w, ?_⟩
    rw [place_settled hs w (settled w)] at off
    exact mt Int.ofNat_inj.mpr off

/-- the base follows the device through a write unless the write strays -/
theorem emit_followed (bytes : Bytes) (hs : s.Appending) (hf : s.Followed) :
    (s.emit bytes).2.Followed ↔ ¬s.Strays bytes := by
  cases w : s.writing with
  | true => exact emit_writing_followed bytes hs w hf
  | false =>
    rcases turnToWrite_place hs hf w with ⟨f, ht⟩ | ⟨u, ht, wu, settled, base, cursor, length⟩
    · have same : s.emit bytes = ({ stop := some f }, s.fail) := by rw [emit, ht]
      rw [same]
      refine ⟨fun _ strays => ?_, fun _ => hf⟩
      have w' := strays.2.1
      rw [same] at w'
      exact absurd w' (by rw [fail, w]; simp)
    · have same : s.emit bytes = u.emit bytes := by
        rw [emit, ht, emit, turnToWrite_writing wu]
      have hu : u.Appending := by
        rcases turnToWrite_cases s with ⟨f, d, ht', -⟩ | ⟨v, ht', -, path⟩
        · rw [ht] at ht'
          cases ht'
        · rw [ht] at ht'
          cases ht'
          exact path.appending hs
      have followed : u.Followed := fun _ => by
        rw [(hu.empty wu settled).1]
        exact cursor.symm
      have pending : s.Settled ↔ u.Settled :=
        iff_of_true (fun w' => absurd w' (by simp [w])) fun _ => settled
      have strays : s.Strays bytes ↔ u.Strays bytes := by
        rw [Strays, Strays, same, pending, place_settled hu wu settled, base, length]
      rw [same, strays]
      exact emit_writing_followed bytes hu wu followed

/-! ## reading -/

/-- an operation that turns the stream to reading first lets the base follow if it does so on a stream
that reads already -/
theorem turned_followed {f : Stream Memory → Stream Memory}
    (stuck : ∀ s e s', s.turnToRead = (.error e, s') → f s = s')
    (turned : ∀ s s', s.turnToRead = (.ok (), s') → f s = f s')
    (reading : ∀ s, s.writing = false → s.Appending → s.Followed → (f s).Followed)
    (hs : s.Appending) (hf : s.Followed) : (f s).Followed := by
  have followed := turnToRead_followed hs hf
  rcases turnToRead_cases s with ⟨e, u, ht, -⟩ | ⟨u, ht, r, path⟩
  · rw [ht] at followed
    rw [stuck s e u ht]
    exact followed
  · rw [ht] at followed
    rw [turned s u ht]
    exact reading u r (path.appending hs) followed

theorem read_followed (n : Nat) (hs : s.Appending) (hf : s.Followed) : (s.read n).2.Followed := by
  unfold read
  split
  · exact hf
  · refine turned_followed (f := fun s => (s.intake n).2) ?_ ?_ ?_ hs hf
    · intro s e s' ht
      simp only [intake, ht]
    · intro s s' ht
      simp only [intake, ht, turnToRead_reading (turnToRead_ok ht)]
    · intro s r hs hf
      exact (intake_reading_path n r hs.sound.buffer).followed r hf

theorem unread_followed (bytes : Bytes) (hs : s.Appending) (hf : s.Followed) :
    (s.unread bytes).2.Followed := by
  refine turned_followed (f := fun s => (s.unread bytes).2) ?_ ?_ ?_ hs hf
  · intro s e s' ht
    simp only [unread, ht]
  · intro s s' ht
    simp only [unread, ht, turnToRead_reading (turnToRead_ok ht)]
  · intro s r hs hf
    simp only [unread, turnToRead_reading r]
    split
    · exact hf
    · exact hf

theorem peek_followed (hs : s.Appending) (hf : s.Followed) : s.peek.2.Followed := by
  refine turned_followed (f := fun s => s.peek.2) ?_ ?_ ?_ hs hf
  · intro s e s' ht
    simp only [peek, ht]
  · intro s s' ht
    simp only [peek, ht, turnToRead_reading (turnToRead_ok ht)]
  · intro s r hs hf
    simp only [peek, turnToRead_reading r]
    split
    · exact hf
    · next bare =>
      have stocked := (stock_path r (Decidable.not_not.mp bare)).followed r hf
      rcases hk : s.stock with ⟨_ | _, u⟩
      · rw [hk] at stocked
        exact stocked
      · rw [hk] at stocked
        exact stocked

theorem skip_followed (n : Nat) (hf : s.Followed) : (s.skip n).2.Followed := by
  unfold skip
  split
  · exact hf
  · next r =>
    rcases hk : skipped n s.buffer with f | b
    · exact hf
    · have here := hf fun w => absurd w r
      intro _
      rcases Buffer.skipped_eq_ok hk with ⟨-, -, rfl⟩ | ⟨-, -, rfl⟩
      · exact here
      · exact here

theorem seek_followed (off : Int) (w : Whence) (hs : s.Appending) (hf : s.Followed) :
    (s.seek off w).2.Followed := by
  have able : s.abilities.seek = true := by rw [hs.able]; rfl
  have followed := turnToRead_followed hs hf
  rw [seek, if_pos able]
  rcases turnToRead_cases s with ⟨f, u, ht, -⟩ | ⟨u, ht, r, path⟩
  · rw [ht] at followed ⊢
    exact followed
  · rw [ht] at followed ⊢
    have moved := moveDevice_followed (path.appending hs) off w followed
    dsimp only
    rcases hm : u.moveDevice off w with ⟨f | pos, v⟩
    · rw [hm] at moved
      exact moved
    · rw [hm] at moved
      exact moved

theorem rewind_followed (hs : s.Appending) (hf : s.Followed) : s.rewind.2.Followed := by
  have followed := seek_followed 0 .start hs hf
  unfold rewind
  rcases hk : s.seek 0 .start with ⟨_ | _, u⟩
  · rw [hk] at followed
    exact followed
  · rw [hk] at followed
    exact followed

theorem setStrategy_followed (b : Buffering) (hs : s.Appending) (hf : s.Followed) :
    (s.setStrategy b).2.Followed := by
  have followed := flush_followed hs hf
  unfold setStrategy
  rcases hk : s.flush with ⟨_ | _, u⟩
  · rw [hk] at followed
    exact followed
  · rw [hk] at followed
    exact followed

theorem collect_followed (room : Option Nat) (size : Nat) (s : Stream Memory)
    (done : Stream Memory) (hs : s.Appending) (hf : s.Followed) :
    (s.collect room size done).2.2.Followed := by
  have kept := collect_keeps (P := fun u => u.Appending ∧ u.Followed) ?_ ?_ room size s done ⟨hs, hf⟩
  · exact kept.2
  · intro u ⟨hs, hf⟩
    exact ⟨(peek_path u).appending hs, peek_followed hs hf⟩
  · intro n u ⟨hs, hf⟩
    exact ⟨(skip_path n u).appending hs, skip_followed n hf⟩

theorem readLine_followed (limit : Nat) (line : Bytes) (hs : s.Appending) (hf : s.Followed) :
    (s.readLine limit line).2.2.Followed := by
  obtain ⟨m, c, noted, -⟩ := readLine_noted limit line s
  rw [noted]
  exact collect_followed (lineRoom limit) 0 s scratch hs hf

end Stream

/-! ## runs -/

/-- does a write of the operation stray? -/
def Op.Strays (s : Stream Memory) : Op → Prop
  | .write bytes => bytes ≠ [] ∧ s.Strays bytes
  | .writeAll bytes => s.Strays bytes
  | .putc byte => s.Strays [byte]
  | _ => False

namespace Stream

variable {s : Stream Memory}

theorem op_followed (op : Op) (hs : s.Appending) (hf : s.Followed) :
    (op.run s).Followed ↔ ¬op.Strays s := by
  have still : (op.run s).Followed → op.Strays s = False →
      ((op.run s).Followed ↔ ¬op.Strays s) := by
    intro followed none
    rw [none]
    exact iff_of_true followed not_false
  cases op with
  | read n => exact still (read_followed n hs hf) rfl
  | getc => exact still (read_followed 1 hs hf) rfl
  | peek => exact still (peek_followed hs hf) rfl
  | skip n => exact still (skip_followed n hf) rfl
  | unread bytes => exact still (unread_followed bytes hs hf) rfl
  | readLine limit line => exact still (readLine_followed limit line hs hf) rfl
  | write bytes =>
    show (s.write bytes).2.Followed ↔ ¬(bytes ≠ [] ∧ s.Strays bytes)
    rw [write]
    by_cases empty : bytes = []
    · rw [if_pos (by rw [empty]; rfl)]
      exact iff_of_true hf fun strays => strays.1 empty
    · rw [if_neg (by simp [empty])]
      exact (emit_followed bytes hs hf).trans (not_congr (and_iff_right empty).symm)
  | writeAll bytes =>
    show (s.writeAll bytes).2.Followed ↔ ¬s.Strays bytes
    rw [writeAll_snd]
    exact emit_followed bytes hs hf
  | putc byte =>
    show (s.writeAll [byte]).2.Followed ↔ ¬s.Strays [byte]
    rw [writeAll_snd]
    exact emit_followed [byte] hs hf
  | seek off w => exact still (seek_followed off w hs hf) rfl
  | rewind => exact still (rewind_followed hs hf) rfl
  | flush => exact still (flush_followed hs hf) rfl
  | setStrategy b => exact still (setStrategy_followed b hs hf) rfl

/-- the base follows the device in every state of a run -/
def Follows : List Op → Stream Memory → Prop
  | [], s => s.Followed
  | op :: ops, s => s.Followed ∧ Follows ops (op.run s)

/-- some write of a run strays -/
def Straying : List Op → Stream Memory → Prop
  | [], _ => False
  | op :: ops, s => op.Strays s ∨ Straying ops (op.run s)

theorem follows_iff (ops : List Op) (hs : s.Appending) (hf : s.Followed) :
    Follows ops s ↔ ¬Straying ops s := by
  induction ops generalizing s with
  | nil => exact iff_of_true hf not_false
  | cons op ops ih =>
    have kept := op_followed op hs hf
    have hs' := (op_path op hs.sound).appending hs
    show s.Followed ∧ Follows ops (op.run s) ↔ ¬(op.Strays s ∨ Straying ops (op.run s))
    rw [not_or, and_iff_right hf]
    constructor
    · intro follows
      have followed : (op.run s).Followed := by
        cases ops with
        | nil => exact follows
        | cons op' ops => exact follows.1
      exact ⟨kept.mp followed, (ih hs' followed).mp follows⟩
    · rintro ⟨here, later⟩
      exact (ih hs' (kept.mpr here)).mpr later

/-! ## where a read begins -/

theorem fresh_place (hs : s.Appending) (hf : s.Followed) (r : s.writing = false) :
    s.fresh = s.device.data.drop (s.base + s.buffer.cursor) := by
  have here := hf fun w => absurd w (by simp [r])
  have order := hs.sound.buffer.cursor_le
  have cursor := hs.device.cursor_le
  have tail := List.suffix_iff_eq_drop.mp (hs.fresh r)
  have length : s.fresh.length = s.buffer.readableSize + (s.device.length - s.device.cursor) := by
    rw [Stream.fresh, List.length_append, Buffer.length_readable hs.sound.buffer,
      Memory.length_rest hs.device.toSound]
  have begins : s.device.data.length - s.fresh.length = s.base + s.buffer.cursor := by
    rw [length, Memory.length_data hs.device.toSound, Buffer.readableSize]
    omega
  rw [← begins]
  exact tail

/-- a read of a stream that reads already takes the data from where the base says it is -/
theorem read_place (n : Nat) (hs : s.Appending) (hf : s.Followed) (r : s.writing = false) :
    (s.read n).1 =
      .ok ((s.buffer.pushed ++ s.device.data.drop (s.base + s.buffer.cursor)).take n) := by
  have input : s.input Source.sound.toContents =
      s.buffer.pushed ++ s.device.data.drop (s.base + s.buffer.cursor) := by
    rw [← fresh_place hs hf r]
    rfl
  have feeding := hs.feeding r
  rw [← input]
  rcases hr : s.read n with ⟨f | bytes, u⟩
  · exact absurd (read_error feeding hr).2 (Nat.lt_irrefl 0)
  · obtain ⟨split, -, length | ⟨-, failed⟩⟩ := read_ok feeding hr
    · rw [List.take_eq_take_min, ← length, split, List.take_left]
    · exact absurd failed (Nat.lt_irrefl 0)

/-- without pending output a read takes the data from where the base says it is -/
theorem settled_read (n : Nat) (hs : s.Appending) (hf : s.Followed) (settled : s.Settled) :
    (s.read n).1 =
      .ok ((s.buffer.pushed ++ s.device.data.drop (s.base + s.buffer.cursor)).take n) := by
  cases w : s.writing with
  | false => exact read_place n hs hf w
  | true =>
    have turned : Leap s { s with writing := false } := .turned w (settled w)
    have ht : s.turnToRead = (.ok (), { s with writing := false }) := by
      rw [turnToRead, if_pos w, drain_idle (settled w)]
    have same : (s.read n).1 = (({ s with writing := false } : Stream Memory).read n).1 := by
      by_cases none : n = 0
      · rw [read, if_pos none, read, if_pos none]
      · rw [read, if_neg none, read, if_neg none, intake, ht, intake, turnToRead_reading rfl]
    rw [same]
    exact read_place n (turned.appending hs) (fun _ => hf settled) rfl

/-! ## from the start on -/

variable {p : Memory.Plan} {m : Memory} {content : Bytes} {first : Nat}

theorem opened_appending (made : Memory.Made p m content first) (appends : p.append = true)
    (small : first < offsetRange) (o : Opening) {mode : OpenMode} (append : mode.append = true) :
    (opened o m mode).Appending ∧ (opened o m mode).Followed := by
  have stands := made.stands small
  have plan : m.plan.append = true := by
    rw [stands.plan_eq]
    exact appends
  refine ⟨⟨opened_sound o m mode, ⟨stands.sound, plan, stands.small⟩, append, rfl,
    fun _ => fresh_dry rfl⟩, fun _ => stands.pos.symm⟩

/-- Take an append stream over a memory device just made that appends, with any operations.  The base
follows the device in every state without pending output if and only if no write strays: none is
stopped, with nothing pending, off the end of the data.  Where it follows, a read takes the data from
where the base says it is. -/
theorem append_base_follows (p : Memory.Plan) (m : Memory) (content : Bytes) (first : Nat)
    (made : Memory.Made p m content first) (appends : p.append = true)
    (small : first < offsetRange) (o : Opening) (mode : OpenMode) (append : mode.append = true)
    (ops : List Op) :
    (Follows ops (opened o m mode) ↔ ¬Straying ops (opened o m mode)) ∧
      ((after ops (opened o m mode)).Settled → (after ops (opened o m mode)).Followed → ∀ n,
        ((after ops (opened o m mode)).read n).1 =
          .ok (((after ops (opened o m mode)).buffer.pushed ++
            (after ops (opened o m mode)).device.data.drop
              ((after ops (opened o m mode)).base +
                (after ops (opened o m mode)).buffer.cursor)).take n)) := by
  obtain ⟨hs, hf⟩ := opened_appending made appends small o append
  refine ⟨follows_iff ops hs hf, ?_⟩
  intro settled followed n
  exact settled_read n ((after_path ops hs.sound).appending hs) followed settled

/-- a write that is refused at the end of the data -/
theorem append_base_follows_four :
    Follows [.setStrategy .direct, .seek 4 .start, .write [5], .read 1]
      (opened { capacity := 4 } (Memory.ofData [1, 2, 3, 4] { append := true, limit := some 4 })
        { access := .readWrite, append := true }) := by
  refine (append_base_follows { append := true, limit := some 4 } _ [1, 2, 3, 4] 4 (.ofData _) rfl
    (by decide) { capacity := 4 } { access := .readWrite, append := true } rfl _).1.mpr ?_
  rintro (h | h | h | h | h)
  · exact h
  · exact h
  · obtain ⟨-, -, -, -, -, off⟩ := h
    exact off (by decide +kernel)
  · exact h
  · exact h

/-- a write that is refused anywhere else leaves the base behind: the stream tells the start of the
data and reads at its end -/
theorem append_base_behind :
    let s := after [.setStrategy .direct, .write [5]]
      (opened { capacity := 4 } (Memory.ofData [1, 2, 3, 4] { append := true, limit := some 4 })
        { access := .readWrite, append := true })
    s.Settled ∧ s.base + s.buffer.filled ≠ s.device.cursor ∧ s.tell = 0 ∧
      (s.read 1).1.toOption = some [] := by
  refine ⟨fun _ => ?_, ?_, ?_, ?_⟩
  all_goals decide +kernel

end Stream

end BufferedStreams
