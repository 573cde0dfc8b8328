import BufferedStreams.Proofs.Contents
import BufferedStreams.Proofs.PlainFile
import BufferedStreams.Proofs.Reading

/-!
# A stream over memory mirrors a plain file

`Mirrors` says where the parts of a plain file are in a stream over memory.  Turning, draining and
moving the stream do what they should to the file, so every request is answered as the file answers
it and leaves the two alike (`perform_mirrors`).
-/

namespace BufferedStreams.Stream

/-- a stream over memory stands for a plain file: the contents are those of the file, the buffer
cursor is at its position, and read-ahead is what comes next in it -/
structure Mirrors (top : Nat) (p : Memory.Plan) (s : Stream Memory) (f : PlainFile) : Prop where
  stored : s.Stored p
  opn : s.closed = false
  contents : s.contents = f.content
  pos : s.base + s.buffer.cursor = f.pos
  pushed : s.buffer.pushed = f.pushed
  marks : s.marks = f.marks
  ahead : s.writing = false → s.buffer.readable ++ s.device.rest = f.content.drop f.pos
  pos_le : f.pos ≤ top
  length_le : f.content.length ≤ offsetRange

variable {top : Nat} {p : Memory.Plan} {s s' u : Stream Memory} {f : PlainFile}

theorem Mirrors.place (h : Mirrors top p s f) : s.place = f.place := by
  rw [Stream.place, PlainFile.place, h.pos, h.pushed]

theorem Mirrors.pos_le_length (h : Mirrors top p s f) : f.pos ≤ f.content.length := by
  rw [← h.pos, ← h.contents]
  exact h.stored.place_le

/-- nothing is pushed back on a file whose stream is writing -/
theorem Mirrors.bare (h : Mirrors top p s f) (w : s.writing = true) : f.pushed = [] := by
  rw [← h.pushed]
  exact (h.stored.sound.collecting w).pushed

/-- at the device cursor a stream without read-ahead has the rest of the data in front of it -/
theorem ahead_dry (h : s.Stored p) (r : s.writing = false) (dry : s.buffer.readableSize = 0) :
    s.buffer.readable ++ s.device.rest = s.contents.drop (s.base + s.buffer.cursor) := by
  have hf := h.cursor
  have hc := h.sound.buffer.cursor_le
  rw [front_reading r] at hf
  rw [Buffer.readableSize] at dry
  have hp : s.base + s.buffer.cursor = s.device.cursor := by omega
  rw [Buffer.readable_eq_nil dry, contents_reading r, hp]
  rfl

/-! ## draining and turning to reading -/

/-- a drain changes nothing that the file tells -/
theorem Mirrors.drained (h : Mirrors top p s f) (w : s.writing = true)
    (path : Path false s [] [] s') (marks : s'.marks = s.marks) : Mirrors top p s' f := by
  have hs := path.stored h.stored
  have w' := path.writing.trans w
  obtain ⟨contents, pos⟩ := path.written w h.stored
  rw [overlay_nil h.stored.place_le] at contents
  exact {
    stored := hs
    opn := path.constant.2.2.trans h.opn
    contents := contents.trans h.contents
    pos := pos.trans h.pos
    pushed := (hs.sound.collecting w').pushed.trans (h.bare w).symm
    marks := marks.trans h.marks
    ahead := fun r => absurd w' (by simp [r])
    pos_le := h.pos_le
    length_le := h.length_le }

theorem Mirrors.drain (a : p.Ample top) (h : Mirrors top p s f) (w : s.writing = true) :
    ∃ u, s.drain = (.ok (), u) ∧ u.writing = true ∧ Mirrors top p u f := by
  obtain ⟨u, hd⟩ := drain_ample a h.stored w (h.pos ▸ h.pos_le)
  have path : Path false s [] [] s.drain.2 := drain_path w
  rw [hd] at path
  exact ⟨u, hd, path.writing.trans w, h.drained w path (drain_marks hd)⟩

theorem Mirrors.flush (a : p.Ample top) (h : Mirrors top p s f) :
    ∃ u, s.flush = (.ok (), u) ∧ Mirrors top p u f := by
  unfold Stream.flush
  split
  · next w =>
    obtain ⟨u, hd, -, hu⟩ := h.drain a w
    exact ⟨u, hd, hu⟩
  · exact ⟨s, rfl, h⟩

/-- a turn to reading succeeds and changes nothing that the file tells -/
theorem Mirrors.turnToRead (a : p.Ample top) (h : Mirrors top p s f) :
    ∃ u, s.turnToRead = (.ok (), u) ∧ u.writing = false ∧ Mirrors top p u f := by
  cases w : s.writing with
  | false => exact ⟨s, turnToRead_reading w, w, h⟩
  | true =>
    obtain ⟨v, hd, wv, hv⟩ := h.drain a w
    have settled := drain_ok hd
    have leap : Path true v [] [] { v with writing := false } := (Leap.turned wv settled).path
    have hs := leap.stored hv.stored
    have hc := hv.stored.sound.collecting wv
    have dry : v.buffer.readableSize = 0 := by
      rw [Buffer.readableSize, hc.filled]
      exact Nat.sub_self _
    have contents : ({ v with writing := false } : Stream Memory).contents = v.contents := by
      rw [contents_reading rfl, contents_settled hv.stored fun _ => settled]
    refine ⟨{ v with writing := false }, ?_, rfl, ?_⟩
    · rw [Stream.turnToRead, if_pos w, hd]
    · exact {
        stored := hs
        opn := hv.opn
        contents := contents.trans hv.contents
        pos := hv.pos
        pushed := hv.pushed
        marks := hv.marks
        ahead := fun r => by
          rw [← hv.contents, ← contents, ← hv.pos]
          exact ahead_dry hs r dry
        pos_le := hv.pos_le
        length_le := hv.length_le }

/-! ## reads -/

theorem Mirrors.input (h : Mirrors top p s f) (r : s.writing = false) :
    s.input (Source.memory p) = f.pushed ++ f.content.drop f.pos := by
  rw [Stream.input, h.pushed]
  exact congrArg _ (h.ahead r)

/-- a read of a reading stream gives what the file gives -/
theorem Mirrors.intake {n : Nat} (h : Mirrors top p s f) (r : s.writing = false) (hn : n ≠ 0)
    (le : (f.read n).2.pos ≤ top) :
    (s.intake n).1.stop = none ∧ (s.intake n).1.bytes = (f.read n).1 ∧
      Mirrors top p (s.intake n).2 (f.read n).2 := by
  have hs := h.stored.feeding r
  have path := intake_reading_path n r h.stored.sound.buffer
  have r' := path.writing.trans r
  have hp' := intake_pushed n r h.stored.sound.buffer
  have moved := intake_place n h.stored.plain h.stored.sound path.writing
  rcases intake_served n hs with ⟨-, failed, -⟩ | ⟨stop, -, len, marks⟩
  · exact absurd failed (Nat.lt_irrefl 0)
  obtain ⟨-, hi⟩ := intake_feeding n hs
  rw [h.input r] at hi len marks
  have hP : (f.pushed ++ f.content.drop f.pos).length =
      f.pushed.length + (f.content.drop f.pos).length := List.length_append
  -- the read takes the start of the input and leaves the rest of it
  have hb : (s.intake n).1.bytes = (f.pushed ++ f.content.drop f.pos).take n := by
    rw [List.take_eq_take_min, ← len, hi, List.take_left]
  have hrest : (s.intake n).2.input (Source.memory p) =
      (f.pushed ++ f.content.drop f.pos).drop (s.intake n).1.bytes.length := by
    rw [hi, List.drop_left]
  have hread : f.read n = ((s.intake n).1.bytes,
      { f with
        pos := f.pos + ((s.intake n).1.bytes.length - f.pushed.length)
        pushed := f.pushed.drop n
        marks := if (s.intake n).1.bytes.length < n then { f.marks with eof := true }
          else f.marks }) := by
    rw [PlainFile.read, if_neg hn, hb]
  rw [hread] at le ⊢
  refine ⟨stop, rfl, ?_⟩
  generalize (s.intake n).1.bytes = bytes at *
  exact {
    stored := path.stored h.stored
    opn := path.constant.2.2.trans h.opn
    contents := (path.unwritten r h.stored).trans h.contents
    pos := by
      rw [Stream.place, Stream.place, h.pos, hp', h.pushed, List.length_drop] at moved
      show _ = f.pos + (bytes.length - f.pushed.length)
      omega
    pushed := by rw [hp', h.pushed]
    marks := by
      have hlt : bytes.length < n ↔ (f.pushed ++ f.content.drop f.pos).length < n := by omega
      simp only [hlt]
      rw [marks, markEnd, h.marks]
    ahead := fun _ => by
      rw [Stream.input, hp', h.pushed, List.drop_append] at hrest
      have used : f.pushed.drop bytes.length = f.pushed.drop n := by
        by_cases hle : n ≤ f.pushed.length
        · rw [show bytes.length = n by omega]
        · rw [List.drop_eq_nil_of_le (by omega), List.drop_eq_nil_of_le (by omega)]
      rw [used, List.drop_drop] at hrest
      exact List.append_cancel_left hrest
    pos_le := le
    length_le := h.length_le }

theorem Mirrors.read {n : Nat} (a : p.Ample top) (h : Mirrors top p s f)
    (le : (f.read n).2.pos ≤ top) :
    (s.read n).1 = .ok (f.read n).1 ∧ Mirrors top p (s.read n).2 (f.read n).2 := by
  by_cases hn : n = 0
  · rw [hn]
    exact ⟨rfl, h⟩
  · obtain ⟨u, ht, r, hu⟩ := h.turnToRead a
    have hi : s.intake n = u.intake n := by
      rw [Stream.intake, ht, Stream.intake, turnToRead_reading r]
    obtain ⟨stop, bytes, mirrors⟩ := hu.intake r hn le
    rw [read_eq hn, hi]
    refine ⟨?_, mirrors⟩
    show (u.intake n).1.result = _
    rw [Intake.result, stop, bytes]

theorem Mirrors.unread (a : p.Ample top) (h : Mirrors top p s f) (bytes : Bytes) :
    (s.unread bytes).1 = .ok (f.unread bytes).1 ∧
      Mirrors top p (s.unread bytes).2 (f.unread bytes).2 := by
  obtain ⟨u, ht, r, hu⟩ := h.turnToRead a
  have hs : s.unread bytes = u.unread bytes := by
    rw [Stream.unread, ht, Stream.unread, turnToRead_reading r]
  have leap := (Leap.pushedBack bytes r).path.stored hu.stored
  have hn : (u.buffer.pushBack bytes).1 = (f.unread bytes).1 := by
    rw [Buffer.pushBack, PlainFile.unread, hu.pushed]
  have pushed : (u.buffer.pushBack bytes).2.pushed = (f.unread bytes).2.pushed := by
    rw [Buffer.pushBack, PlainFile.unread, hu.pushed]
  rw [hs, Stream.unread, turnToRead_reading r]
  refine ⟨congrArg Except.ok hn, ?_⟩
  dsimp only
  rw [hn]
  split
  · next h0 =>
    exact {
      stored := leap
      opn := hu.opn
      contents := hu.contents
      pos := hu.pos
      pushed := pushed
      marks := by
        show u.marks = if (f.unread bytes).1 = 0 then f.marks else { f.marks with eof := false }
        rw [if_pos h0, hu.marks]
      ahead := fun _ => hu.ahead r
      pos_le := hu.pos_le
      length_le := hu.length_le }
  · next h0 =>
    exact {
      stored := (Leap.unmarked _).path.stored leap
      opn := hu.opn
      contents := hu.contents
      pos := hu.pos
      pushed := pushed
      marks := by
        show ({ u.marks with eof := false } : Marks) =
          if (f.unread bytes).1 = 0 then f.marks else { f.marks with eof := false }
        rw [if_neg h0, hu.marks]
      ahead := fun _ => hu.ahead r
      pos_le := hu.pos_le
      length_le := hu.length_le }

/-! ## seeks -/

/-- a refusal shows in the error mark and nowhere else -/
theorem Mirrors.refused (h : Mirrors top p s f) : Mirrors top p s.fail f.refuse where
  stored := (Path.refl true s).snoc_fail.stored h.stored
  opn := h.opn
  contents := h.contents
  pos := h.pos
  pushed := h.pushed
  marks := by
    show ({ s.marks with err := true } : Marks) = { f.marks with err := true }
    rw [h.marks]
  ahead := h.ahead
  pos_le := h.pos_le
  length_le := h.length_le

/-- where the device moves to -/
theorem Mirrors.target (h : Mirrors top p s f) (r : s.writing = false) (off : Int) (w : Whence) :
    (s.device.base w : Int) + (if w = .current then off - s.ahead else off) = f.base w + off := by
  have hf := h.stored.cursor
  have hc := h.stored.sound.buffer.cursor_le
  rw [front_reading r] at hf
  cases w with
  | start => rfl
  | current =>
    have hp := h.place
    rw [if_pos rfl, Stream.ahead, Buffer.readableSize]
    rw [Stream.place] at hp
    show (s.device.cursor : Int) + _ = f.place + off
    omega
  | finish =>
    rw [if_neg (by simp)]
    show (s.device.length : Int) + off = f.content.length + off
    rw [← h.contents, contents_reading r, Memory.length_data h.stored.device.sound]

/-- a move to a place in front of the first byte is refused -/
theorem Mirrors.moveDevice_negative (h : Mirrors top p s f) (r : s.writing = false) {off : Int}
    {w : Whence} (neg : f.base w + off < 0) :
    ∃ why, s.moveDevice off w = (.error (.invalid why), s) := by
  have ht := h.target r off w
  unfold moveDevice
  dsimp only
  generalize (if w = .current then off - s.ahead else off) = target at ht ⊢
  split
  · exact ⟨_, rfl⟩
  · have hd : Device.seek target w s.device = (.error (.invalid .beforeStart), s.device) :=
      Memory.seek_negative (by omega)
    rw [hd]
    exact ⟨_, rfl⟩

/-- the device never counts from behind the data -/
theorem Stored.base_le (h : s.Stored p) (w : Whence) : s.device.base w ≤ s.device.data.length := by
  cases w with
  | start => exact Nat.zero_le _
  | current => exact h.cursor_le
  | finish => exact Nat.le_of_eq (Memory.length_data h.device.sound).symm

/-- any other move goes where the file goes -/
theorem Mirrors.moveDevice (a : p.Ample top) (h : Mirrors top p s f) (r : s.writing = false)
    {off : Int} {w : Whence} {pos : Nat} (hpos : f.base w + off = pos) (le : pos ≤ top) :
    ∃ u, s.moveDevice off w = (.ok pos, u) ∧ u.writing = false ∧ u.buffer = s.buffer.clear ∧
      Mirrors top p u { f.moveTo pos with marks := f.marks } := by
  have ht := h.target r off w
  rw [hpos] at ht
  have hb := h.stored.base_le w
  have hl := h.length_le
  have hdata : s.device.data = f.content := (contents_reading r).symm.trans h.contents
  have htop := a.le_allocatable
  have hallo : allocatable ≤ offsetRange := by decide
  have hword : allocatable < wordRange := by decide
  have able : s.abilities.seek = true := by rw [h.stored.able]; rfl
  unfold Stream.moveDevice
  dsimp only
  generalize (if w = .current then off - s.ahead else off) = target at ht ⊢
  obtain ⟨size, hs, fits⟩ := Memory.seek_ample h.stored.device a ht (by omega) (.inr le)
  have call : Device.seek target w s.device = (.ok pos, (s.device.grown size).moveTo pos) := hs
  have moved := (Leap.moved r able call).path.stored h.stored
  have contents : ((s.device.grown size).moveTo pos).data =
      f.content ++ zeros (pos - f.content.length) := by
    rw [Memory.data_moveTo (Memory.sound_grown h.stored.device.sound size) fits,
      Memory.data_grown h.stored.device.sound, hdata]
  rw [if_neg (by rw [hdata] at hb; omega), call]
  refine ⟨_, rfl, r, rfl, ?_⟩
  exact {
    stored := moved
    opn := h.opn
    contents := (contents_reading (by exact r)).trans contents
    pos := rfl
    pushed := rfl
    marks := h.marks
    ahead := fun _ => by
      have dry := ahead_dry moved r (Nat.zero_sub _)
      rw [contents_reading (by exact r)] at dry
      rw [contents] at dry
      exact dry
    pos_le := le
    length_le := by
      show (f.content ++ zeros (pos - f.content.length)).length ≤ offsetRange
      rw [List.length_append, length_zeros]
      omega }

/-- a seek goes where the file goes, and is refused where the file refuses it -/
theorem Mirrors.seek (a : p.Ample top) (h : Mirrors top p s f) (off : Int) (w : Whence)
    (le : (f.seek off w).2.pos ≤ top) :
    Reply.ofResult .count (s.seek off w).1 = (f.seek off w).1 ∧
      Mirrors top p (s.seek off w).2 (f.seek off w).2 := by
  have able : s.abilities.seek = true := by rw [h.stored.able]; rfl
  obtain ⟨u, ht, r, hu⟩ := h.turnToRead a
  rw [Stream.seek, if_pos able, ht]
  dsimp only
  unfold PlainFile.seek at le ⊢
  split at le
  · next neg =>
    obtain ⟨why, hm⟩ := hu.moveDevice_negative r neg
    rw [if_pos neg, hm]
    exact ⟨rfl, hu.refused⟩
  · next pos =>
    obtain ⟨v, hm, rv, -, hv⟩ := hu.moveDevice a r (Int.toNat_of_nonneg (by omega)).symm le
    rw [if_neg pos, hm]
    refine ⟨rfl, ?_⟩
    have hs : (v.clearMarks.count .seeks 1).Stored p :=
      ((Leap.unmarked {}).path.snoc_count _ _ rfl).stored hv.stored
    exact {
      stored := hs
      opn := hv.opn
      contents := hv.contents
      pos := hv.pos
      pushed := hv.pushed
      marks := rfl
      ahead := hv.ahead
      pos_le := hv.pos_le
      length_le := hv.length_le }

theorem Mirrors.unmarked (h : Mirrors top p s f) (m : Marks) :
    Mirrors top p { s with marks := m } { f with marks := m } where
  stored := (Leap.unmarked m).path.stored h.stored
  opn := h.opn
  contents := h.contents
  pos := h.pos
  pushed := h.pushed
  marks := rfl
  ahead := h.ahead
  pos_le := h.pos_le
  length_le := h.length_le

theorem Mirrors.rewind (a : p.Ample top) (h : Mirrors top p s f) :
    s.rewind.1 = .ok () ∧ Mirrors top p s.rewind.2 (f.moveTo 0) := by
  have hf : f.seek 0 .start = (.count 0, f.moveTo 0) := rfl
  obtain ⟨reply, hs⟩ := h.seek a 0 .start (by rw [hf]; exact Nat.zero_le top)
  rw [hf] at reply hs
  rw [Stream.rewind]
  rcases hk : s.seek 0 .start with ⟨e | pos, u⟩
  · rw [hk] at reply
    cases reply
  · rw [hk] at hs
    exact ⟨rfl, hs.unmarked {}⟩

/-! ## writes -/

/-- a turn to writing goes to the place of the file, or is refused if that is in front of it -/
theorem Mirrors.turnToWrite (a : p.Ample top) (h : Mirrors top p s f) :
    (f.place < 0 ∧ ∃ why u, s.turnToWrite = (.error (.invalid why), u) ∧
        Mirrors top p u f.refuse) ∨
      (0 ≤ f.place ∧ ∃ u, s.turnToWrite = (.ok (), u) ∧ u.writing = true ∧
        Mirrors top p u { f with pos := f.place.toNat, pushed := [] }) := by
  cases w : s.writing with
  | true =>
    have bare := h.bare w
    have hp : f.place = f.pos := by
      rw [PlainFile.place, bare]
      exact Int.sub_zero _
    refine .inr ⟨by omega, s, turnToWrite_writing w, w, ?_⟩
    have hf : ({ f with pos := f.place.toNat, pushed := [] } : PlainFile) = f := by
      rw [hp, Int.toNat_natCast, ← bare]
    rw [hf]
    exact h
  | false =>
    have able : s.abilities.seek = true := by rw [h.stored.able]; rfl
    have hb : f.base .current + 0 = f.place := Int.add_zero _
    have hle := h.pos_le_length
    have hpl : f.place ≤ f.pos := by
      rw [PlainFile.place]
      omega
    rw [Stream.turnToWrite, if_neg (by simp [w]), if_pos able]
    by_cases neg : f.place < 0
    · obtain ⟨why, hm⟩ := h.moveDevice_negative w (w := .current) (by rw [hb]; exact neg)
      refine .inl ⟨neg, why, s.fail, ?_, h.refused⟩
      have hne : ¬Errno.invalid = Errno.cannotSeek := by decide
      rw [hm]
      exact if_neg hne
    · have hpos : f.base .current + 0 = (f.place.toNat : Nat) := by
        rw [hb]
        exact (Int.toNat_of_nonneg (by omega)).symm
      have hpt := h.pos_le
      obtain ⟨u, hm, r, clear, hu⟩ := h.moveDevice a w hpos (by omega)
      have started : Path true u [] [] { u with writing := true } :=
        (Leap.started r (by rw [clear]; rfl) (by rw [clear]; rfl)).path
      have hs := started.stored hu.stored
      have settled : u.buffer.pendingSize = 0 := by
        have hd := (hu.stored.sound.serving r).drained_le
        rw [clear] at hd ⊢
        exact Nat.zero_sub _
      refine .inr ⟨by omega, { u with writing := true }, ?_, rfl, ?_⟩
      · rw [hm]
      · exact {
          stored := hs
          opn := hu.opn
          contents := by
            rw [contents_settled hs fun _ => settled]
            refine (contents_reading r).symm.trans (hu.contents.trans ?_)
            show f.content ++ zeros (f.place.toNat - f.content.length) = f.content
            rw [Nat.sub_eq_zero_of_le (by omega)]
            exact List.append_nil _
          pos := hu.pos
          pushed := hu.pushed
          marks := hu.marks
          ahead := fun r => by cases r
          pos_le := hu.pos_le
          length_le := h.length_le }

/-- a write to a writing stream writes over the file where it is -/
theorem Mirrors.emit (a : p.Ample top) (h : Mirrors top p s f) (w : s.writing = true)
    (bytes : Bytes) (le : f.pos + bytes.length ≤ top) :
    (s.emit bytes).1 = { count := bytes.length } ∧
      Mirrors top p (s.emit bytes).2
        { f with content := overlay f.content f.pos bytes, pos := f.pos + bytes.length } := by
  have stop := emit_ample a bytes h.stored w (h.pos ▸ le)
  obtain ⟨count, marks⟩ := emit_all bytes h.stored.sound stop
  have path := emit_writing_path bytes w
  rw [count, List.take_length] at path
  have w' := path.writing.trans w
  have hs := path.stored h.stored
  obtain ⟨contents, pos⟩ := path.written w h.stored
  rw [h.contents, h.pos] at contents
  rw [h.pos] at pos
  have hl := h.length_le
  have htop := a.le_allocatable
  have hallo : allocatable ≤ offsetRange := by decide
  refine ⟨?_, ?_⟩
  · show (⟨(s.emit bytes).1.count, (s.emit bytes).1.stop⟩ : Outcome) = _
    rw [count, stop]
  · exact {
      stored := hs
      opn := path.constant.2.2.trans h.opn
      contents := contents
      pos := pos
      pushed := (hs.sound.collecting w').pushed.trans (h.bare w).symm
      marks := marks.trans h.marks
      ahead := fun r => absurd w' (by simp [r])
      pos_le := le
      length_le := by
        show (overlay f.content f.pos bytes).length ≤ offsetRange
        rw [length_overlay]
        omega }

/-- a write writes over the file at its place, or is refused if that is in front of it -/
theorem Mirrors.written (a : p.Ample top) (h : Mirrors top p s f) (bytes : Bytes) (r : Reply)
    (le : (f.write bytes r).2.pos ≤ top) :
    (f.place < 0 ∧ ∃ why, (s.emit bytes).1 = { stop := some (.invalid why) } ∧
        Mirrors top p (s.emit bytes).2 (f.write bytes r).2) ∨
      (0 ≤ f.place ∧ (s.emit bytes).1 = { count := bytes.length } ∧
        Mirrors top p (s.emit bytes).2 (f.write bytes r).2) := by
  unfold PlainFile.write at le ⊢
  rcases h.turnToWrite a with ⟨neg, why, u, ht, hu⟩ | ⟨pos, u, ht, w, hu⟩
  · have hs : s.emit bytes = ({ stop := some (.invalid why) }, u) := by
      rw [Stream.emit, ht]
    refine .inl ⟨neg, why, ?_, ?_⟩
    · rw [hs]
    · rw [hs, if_pos neg]
      exact hu
  · have hs : s.emit bytes = u.emit bytes := by
      rw [Stream.emit, ht, Stream.emit, turnToWrite_writing w]
    rw [if_neg (by omega)] at le ⊢
    rw [hs]
    exact .inr ⟨pos, hu.emit a w bytes le⟩

end BufferedStreams.Stream
