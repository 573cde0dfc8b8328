import BufferedStreams.Proofs.Reading
import BufferedStreams.Proofs.Safety

/-!
# What a short transfer says

A read or a write may move fewer bytes than it should.  Over a recorded device it can be told
afterwards why.

* `Heard e s s'`        from one state to the other the device was called, and `e` is the last call;
* `Failure s s' f`      what may stop an operation with fault `f`: a call failed, or there was none to
                        make;
* `ReadEnd n s t s'`    a read of `n` bytes moved all of them and left the marks, or came to the end
                        of the data and set the end mark, or met a failure and set the error mark;
* `WriteEnd n s t s'`   the same for a write, for which there is no end of the data.

Every read and every write ends like that, and answers what that calls for (`transfers_honest`).
-/

namespace BufferedStreams

/-! ## what a call says -/

namespace Event

/-- did a read that wanted some bytes get none? -/
def atEnd : Event → Bool
  | read n (.ok got) => n != 0 && got.count == 0
  | _ => false

/-- the fault of a call; a write that takes nothing has one too -/
def fault? : Event → Option Fault
  | read _ (.error f) | write _ (.error f) | flush (.error f) | seek _ _ (.error f)
  | close (.error f) => some f
  | write _ (.ok 0) => some (.io .nothingAccepted)
  | _ => none

end Event

namespace Intake

variable {t : Intake} {f : Fault}

theorem result_eq_error : t.result = .error f ↔ t.bytes = [] ∧ t.stop = some f := by
  constructor
  · exact result_error
  · rintro ⟨empty, stop⟩
    simp only [result, stop, empty, List.isEmpty_nil, if_true]

end Intake

namespace Outcome

variable {t : Outcome} {f : Fault} {n : Nat}

theorem result_ok (h : t.result = .ok n) : t.count = n := by
  unfold result at h
  split at h
  · split at h
    · cases h
    · cases h
      rfl
  · cases h
    rfl

theorem result_eq_error : t.result = .error f ↔ t.count = 0 ∧ t.stop = some f := by
  constructor
  · intro h
    unfold result at h
    split at h
    · next stop =>
      split at h
      · next none =>
        cases h
        exact ⟨none, stop⟩
      · cases h
    · cases h
  · rintro ⟨none, stop⟩
    simp only [result, stop, none, if_true]

end Outcome

namespace Recorded

variable {δ : Type}

theorem keep_events {α : Type} {d d' : Recorded δ} {event : α → Event} {r : α × δ} {a : α}
    (h : d.keep event r = (a, d')) : d'.events = d.events ++ [event a] := by
  obtain ⟨rfl, rfl⟩ := Prod.mk.inj h
  rfl

variable {d d' : Recorded δ}

theorem past_of_eq {e : Event} (h : d'.events = d.events ++ [e]) : d.events <+: d'.events :=
  h ▸ List.prefix_append _ _

variable [Device δ]

theorem events_read {n : Nat} {r : Except Fault Delivery} (h : Device.read n d = (r, d')) :
    d'.events = d.events ++ [.read n r] :=
  keep_events (show d.keep (.read n) _ = (r, d') from h)

theorem events_write {bytes : Bytes} {r : Except Fault Nat} (h : Device.write bytes d = (r, d')) :
    d'.events = d.events ++ [.write bytes r] :=
  keep_events (show d.keep (.write bytes) _ = (r, d') from h)

theorem events_flush {r : Except Fault Unit} (h : Device.flush d = (r, d')) :
    d'.events = d.events ++ [.flush r] :=
  keep_events (show d.keep .flush _ = (r, d') from h)

theorem events_seek {off : Int} {w : Whence} {r : Except Fault Nat}
    (h : Device.seek off w d = (r, d')) : d'.events = d.events ++ [.seek off w r] :=
  keep_events (show d.keep (.seek off w) _ = (r, d') from h)

end Recorded

namespace Stream

variable {δ : Type} {s u s' : Stream (Recorded δ)} {f : Fault} {n : Nat} {e : Event}

/-! ## from one state to a later one -/

/-- the device was called, and this is the last call with its answer -/
def Heard (e : Event) (s s' : Stream (Recorded δ)) : Prop :=
  ∃ before, s.device.events <+: before ∧ s'.device.events = before ++ [e]

/-- what may stop an operation that leaves `s'`: a call of the device failed, or the device has no
call for it, or the place to turn back to is too far away to be asked for -/
inductive Failure (s s' : Stream (Recorded δ)) : Fault → Prop
  | call {e : Event} {f : Fault} (heard : Heard e s s') (fault : e.fault? = some f) : Failure s s' f
  | noRead (r : s'.writing = false) (unable : s'.abilities.read = false) :
      Failure s s' (.unsupported .read)
  | noWrite (w : s'.writing = true) (unable : s'.abilities.write = false) :
      Failure s s' (.unsupported .write)
  | tooFar (r : s'.writing = false) (far : offsetRange < s'.ahead) :
      Failure s s' (.invalid .offsetOverflow)

/-- nothing happened that a user would want to know -/
structure Clean (s s' : Stream (Recorded δ)) : Prop where
  past : s.device.events <+: s'.device.events
  marks : s'.marks = s.marks

/-- the device came to the end of its data, and only the end mark says so -/
structure Ended (s s' : Stream (Recorded δ)) : Prop where
  call : ∃ e, Heard e s s' ∧ e.atEnd = true
  marks : s'.marks = { s.marks with eof := true }

/-- there was a failure, and only the error mark says so -/
structure Stopped (f : Fault) (s s' : Stream (Recorded δ)) : Prop where
  failure : Failure s s' f
  marks : s'.marks = { s.marks with err := true }

/-- the ways a read of `n` bytes ends, which leaves `s'` -/
inductive ReadEnd (n : Nat) (s : Stream (Recorded δ)) (t : Intake) (s' : Stream (Recorded δ)) : Prop
  | full (all : t.bytes.length = n) (stop : t.stop = none) (clean : Clean s s')
  | ended (short : t.bytes.length < n) (stop : t.stop = none) (ended : Ended s s')
  | stopped {f : Fault} (short : t.bytes.length < n) (stop : t.stop = some f)
      (stopped : Stopped f s s')

/-- the ways a write of `n` bytes ends, which leaves `s'` -/
inductive WriteEnd (n : Nat) (s : Stream (Recorded δ)) (t : Outcome) (s' : Stream (Recorded δ)) :
    Prop
  | full (all : t.count = n) (stop : t.stop = none) (clean : Clean s s')
  | stopped {f : Fault} (short : t.count < n) (stop : t.stop = some f) (stopped : Stopped f s s')

theorem heard_of_eq (h : s'.device.events = s.device.events ++ [e]) : Heard e s s' :=
  ⟨_, List.prefix_refl _, h⟩

/-- a call that went well -/
theorem clean_of_eq (h : s'.device.events = s.device.events ++ [e]) (marks : s'.marks = s.marks) :
    Clean s s' :=
  ⟨Recorded.past_of_eq h, marks⟩

/-- no call at all -/
theorem clean_of_device (h : s'.device = s.device) (marks : s'.marks = s.marks) : Clean s s' :=
  ⟨h ▸ List.prefix_refl _, marks⟩

theorem stopped_of_eq (h : s'.device.events = s.device.events ++ [e]) (fault : e.fault? = some f)
    (marks : s'.marks = { s.marks with err := true }) : Stopped f s s' :=
  ⟨.call (heard_of_eq h) fault, marks⟩

theorem Clean.heard (h : Clean s u) (later : Heard e u s') : Heard e s s' := by
  obtain ⟨before, past, last⟩ := later
  exact ⟨before, h.past.trans past, last⟩

theorem Clean.clean (h : Clean s u) (later : Clean u s') : Clean s s' :=
  ⟨h.past.trans later.past, later.marks.trans h.marks⟩

theorem Clean.ended (h : Clean s u) (later : Ended u s') : Ended s s' := by
  obtain ⟨⟨e, heard, last⟩, marks⟩ := later
  refine ⟨⟨e, h.heard heard, last⟩, ?_⟩
  rw [marks, h.marks]

theorem Clean.stopped (h : Clean s u) (later : Stopped f u s') : Stopped f s s' := by
  obtain ⟨failure, marks⟩ := later
  refine ⟨?_, ?_⟩
  · cases failure with
    | call heard fault => exact .call (h.heard heard) fault
    | noRead r unable => exact .noRead r unable
    | noWrite w unable => exact .noWrite w unable
    | tooFar r far => exact .tooFar r far
  · rw [marks, h.marks]

theorem Clean.readEnd {t : Intake} (h : Clean s u) (later : ReadEnd n u t s') :
    ReadEnd n s t s' := by
  cases later with
  | full all stop later => exact .full all stop (h.clean later)
  | ended short stop later => exact .ended short stop (h.ended later)
  | stopped short stop later => exact .stopped short stop (h.stopped later)

theorem Clean.writeEnd {t : Outcome} (h : Clean s u) (later : WriteEnd n u t s') :
    WriteEnd n s t s' := by
  cases later with
  | full all stop later => exact .full all stop (h.clean later)
  | stopped short stop later => exact .stopped short stop (h.stopped later)

/-- bytes in front of a read that goes on -/
theorem ReadEnd.after {t : Intake} {bytes : Bytes} {k : Nat} (h : ReadEnd (n - k) s t s')
    (len : bytes.length = k) (le : k ≤ n) : ReadEnd n s (t.after bytes) s' := by
  have sum : (t.after bytes).bytes.length = bytes.length + t.bytes.length := List.length_append
  cases h with
  | full all stop clean => exact .full (by omega) stop clean
  | ended short stop ended => exact .ended (by omega) stop ended
  | stopped short stop stopped => exact .stopped (by omega) stop stopped

/-- bytes in front of a write that goes on -/
theorem WriteEnd.after {t : Outcome} {k : Nat} (h : WriteEnd (n - k) s t s') (le : k ≤ n) :
    WriteEnd n s (t.after k) s' := by
  have count : (t.after k).count = k + t.count := rfl
  cases h with
  | full all stop clean => exact .full (by omega) stop clean
  | stopped short stop stopped => exact .stopped (by omega) stop stopped

/-! ## what was recorded stays -/

variable [Device δ]

theorem syncAppend_past (s : Stream (Recorded δ)) :
    s.device.events <+: s.syncAppend.device.events := by
  unfold syncAppend
  split
  · rcases call : Device.seek 0 .current s.device with ⟨_ | pos, d⟩
    · exact Recorded.past_of_eq (Recorded.events_seek call)
    · exact Recorded.past_of_eq (Recorded.events_seek call)
  · exact List.prefix_refl _

theorem Step.past {g t : Bytes} (h : Step s g t s') : s.device.events <+: s'.device.events := by
  cases h with
  | accepted _ _ call => exact Recorded.past_of_eq (Recorded.events_write call)
  | cleared _ _ call =>
    refine List.IsPrefix.trans ?_ (syncAppend_past _)
    exact Recorded.past_of_eq (Recorded.events_write call)
  | refused _ _ call => exact Recorded.past_of_eq (Recorded.events_write call)
  | notified _ _ _ call => exact Recorded.past_of_eq (Recorded.events_flush call)
  | wrote _ _ _ call => exact Recorded.past_of_eq (Recorded.events_write call)
  | synced => exact syncAppend_past s
  | filled _ _ _ _ call => exact Recorded.past_of_eq (Recorded.events_read call)
  | unfilled _ _ _ _ call => exact Recorded.past_of_eq (Recorded.events_read call)
  | pulled _ _ _ _ _ _ call => exact Recorded.past_of_eq (Recorded.events_read call)
  | balked _ _ _ call => exact Recorded.past_of_eq (Recorded.events_read call)
  | _ => exact List.prefix_refl _

theorem Leap.past (h : Leap s s') : s.device.events <+: s'.device.events := by
  cases h with
  | moved _ _ call => exact Recorded.past_of_eq (Recorded.events_seek call)
  | unmoved _ _ call => exact Recorded.past_of_eq (Recorded.events_seek call)
  | _ => exact List.prefix_refl _

theorem Path.past {leaps : Bool} {g t : Bytes} (h : Path leaps s g t s') :
    s.device.events <+: s'.device.events :=
  h.relates (R := fun s s' => s.device.events <+: s'.device.events) (fun _ => List.prefix_refl _)
    List.IsPrefix.trans Step.past Leap.past

/-! ## draining and turning -/

theorem notify_stopped (h : s.notify = (.error f, s')) : Stopped f s s' := by
  unfold notify at h
  rcases call : Device.flush s.device with ⟨_ | _, d⟩
  · rw [call] at h
    cases h
    exact stopped_of_eq (Recorded.events_flush call) rfl rfl
  · rw [call] at h
    cases h

/-- a write that took nothing is a call with a fault -/
theorem fault_refusal {bytes : Bytes} {r : Except Fault Nat} (none : ∀ n, r = .ok n → n = 0) :
    (Event.write bytes r).fault? = some (refusal r) := by
  cases r with
  | error f => rfl
  | ok n =>
    obtain rfl := none n rfl
    rfl

theorem drain_stopped (w : s.writing = true) (h : s.drain = (.error f, s')) : Stopped f s s' := by
  induction s using drain_induct with
  | idle s h0 =>
    rw [drain_idle h0] at h
    cases h
  | lacking s h0 able =>
    rw [drain_lacking h0 able] at h
    cases h
    exact ⟨.noWrite w able, rfl⟩
  | refused s r d h0 able call none =>
    rw [drain_refusal h0 able call none] at h
    cases h
    exact stopped_of_eq (Recorded.events_write call) (fault_refusal none) rfl
  | part s n d able call n_pos hlt ih =>
    have part : Clean s (s.afterPart n d) := clean_of_eq (Recorded.events_write call) rfl
    exact part.stopped (ih w (drain_part able call n_pos hlt ▸ h))
  | all s n d able call some hle =>
    rw [drain_all able call some hle] at h
    have all : Clean s (s.afterAll d) := by
      rw [afterAll_eq]
      refine ⟨List.IsPrefix.trans ?_ (syncAppend_past _), syncAppend_marks _⟩
      exact Recorded.past_of_eq (Recorded.events_write call)
    exact all.stopped (notify_stopped h)

theorem drain_clean (w : s.writing = true) (h : s.drain = (.ok (), s')) : Clean s s' := by
  have path : Path false s [] [] s.drain.2 := drain_path w
  rw [h] at path
  exact ⟨path.past, drain_marks h⟩

theorem turnToRead_stopped (h : s.turnToRead = (.error f, s')) : Stopped f s s' := by
  unfold turnToRead at h
  split at h
  · next w =>
    rcases hd : s.drain with ⟨g | _, u⟩
    · rw [hd] at h
      cases h
      exact drain_stopped w hd
    · rw [hd] at h
      cases h
  · cases h

theorem turnToRead_clean (h : s.turnToRead = (.ok (), s')) : Clean s s' := by
  rcases turnToRead_cases s with ⟨g, u, ht, -, -⟩ | ⟨u, ht, -, path⟩
  · rw [ht] at h
    cases h
  · have marks := turnToRead_marks h
    rw [ht] at h
    cases h
    exact ⟨path.past, marks⟩

/-- a move back to the logical position fails in the device, or the way is too long -/
theorem moveDevice_stopped (r : s.writing = false) (h : s.moveDevice 0 .current = (.error f, s')) :
    Stopped f s s'.fail := by
  unfold moveDevice at h
  dsimp only at h
  rw [if_pos rfl] at h
  split at h
  · next far =>
    cases h
    refine ⟨.tooFar r ?_, rfl⟩
    show offsetRange < s.ahead
    omega
  · rcases call : Device.seek (0 - (s.ahead : Int)) .current s.device with ⟨_ | pos, d⟩
    · rw [call] at h
      cases h
      exact stopped_of_eq (Recorded.events_seek call) rfl rfl
    · rw [call] at h
      cases h

theorem turnToWrite_stopped (h : s.turnToWrite = (.error f, s')) : Stopped f s s' := by
  unfold turnToWrite at h
  split at h
  · cases h
  · next reading =>
    split at h
    · rcases hm : s.moveDevice 0 .current with ⟨g | pos, u⟩
      · rw [hm] at h
        dsimp only at h
        split at h
        · cases h
        · cases h
          exact moveDevice_stopped (Bool.eq_false_iff.mpr reading) hm
      · rw [hm] at h
        cases h
    · cases h

theorem turnToWrite_clean (h : s.turnToWrite = (.ok (), s')) : Clean s s' := by
  rcases turnToWrite_cases s with ⟨g, d, ht, -, -⟩ | ⟨u, ht, -, path⟩
  · rw [ht] at h
    cases h
  · have marks := turnToWrite_marks h
    rw [ht] at h
    cases h
    exact ⟨path.past, marks⟩

/-! ## reading -/

/-- filling the buffer brings read-ahead, or comes to the end of the data, or fails -/
inductive Filled (s : Stream (Recorded δ)) : Except Fault Unit → Stream (Recorded δ) → Prop
  | more {u : Stream (Recorded δ)} (full : u.buffer.readableSize ≠ 0) (clean : Clean s u) :
      Filled s (.ok ()) u
  | ended {u : Stream (Recorded δ)} (dry : u.buffer.readableSize = 0) (ended : Ended s u) :
      Filled s (.ok ()) u
  | stopped {f : Fault} {u : Stream (Recorded δ)} (stopped : Stopped f s u) : Filled s (.error f) u

theorem fill_filled (r : s.writing = false) (room : 0 < s.buffer.capacity) :
    Filled s s.fill.1 s.fill.2 := by
  unfold fill
  dsimp only
  cases able : s.abilities.read with
  | false =>
    rw [if_neg (by simp)]
    exact .stopped ⟨.noRead r able, rfl⟩
  | true =>
    rw [if_pos rfl]
    rcases call : Device.read s.buffer.capacity s.device with ⟨f | got, d⟩
    · exact .stopped (stopped_of_eq (Recorded.events_read call) rfl rfl)
    · have filled := Buffer.filled_receive s.buffer got
      have start := Buffer.cursor_receive s.buffer got
      dsimp only
      by_cases h0 : (s.buffer.receive got).filled = 0
      · have none : got.count = 0 := by omega
        rw [if_pos h0]
        refine .ended ?_ ⟨⟨_, heard_of_eq (Recorded.events_read call), ?_⟩, rfl⟩
        · show (s.buffer.receive got).filled - _ = 0
          rw [h0, Nat.zero_sub]
        · rw [Event.atEnd, none]
          simpa using Nat.ne_of_gt room
      · rw [if_neg h0]
        refine .more ?_ (clean_of_eq (Recorded.events_read call) rfl)
        show (s.buffer.receive got).filled - (s.buffer.receive got).cursor ≠ 0
        rw [start, Nat.sub_zero]
        exact h0

theorem stock_filled (r : s.writing = false) (room : 0 < s.buffer.capacity) :
    Filled s s.stock.1 s.stock.2 := by
  unfold stock
  split
  · exact fill_filled r room
  · next full => exact .more full (clean_of_device rfl rfl)

theorem pull_end (n : Nat) (s : Stream (Recorded δ)) : ReadEnd n s (s.pull n).1 (s.pull n).2 := by
  fun_induction pull n s with
  | case1 s => exact .full rfl rfl (clean_of_device rfl rfl)
  | case2 n s hn bytes d call =>
    refine .ended (Nat.pos_of_ne_zero hn) rfl
      ⟨⟨_, heard_of_eq (Recorded.events_read call), ?_⟩, rfl⟩
    simpa [Event.atEnd] using hn
  | case3 n s hn bytes c d call k t u hp ih =>
    rw [hp] at ih
    have len : (Delivery.part ⟨bytes, c + 1⟩ k).length = k := Delivery.length_part _ _
    have clean : Clean s (({ s with device := d, base := s.base + k } : Stream _).count
        .bytesRead k) := clean_of_eq (Recorded.events_read call) rfl
    exact (clean.readEnd ih).after len (Nat.min_le_right _ _)
  | case4 n s hn f d call =>
    exact .stopped (Nat.pos_of_ne_zero hn) rfl (stopped_of_eq (Recorded.events_read call) rfl rfl)

theorem readDirect_end (n : Nat) (r : s.writing = false) (sound : s.buffer.Sound) :
    ReadEnd n s (s.readDirect n).1 (s.readDirect n).2 := by
  have len : (s.buffer.take n).1.length = min n s.buffer.readableSize :=
    Buffer.length_take_fst sound n
  have clean : Clean s ({ s with buffer := (s.buffer.take n).2 } : Stream _).dropAhead :=
    clean_of_device rfl rfl
  unfold readDirect
  dsimp only
  split
  · next all => exact .full all rfl (clean_of_device rfl rfl)
  · next short =>
    split
    · exact (clean.readEnd (pull_end _ _)).after rfl (by omega)
    · next unable =>
      refine .stopped ?_ rfl (clean.stopped ⟨.noRead r (Bool.eq_false_iff.mpr unable), rfl⟩)
      show (s.buffer.take n).1.length < n
      omega

theorem readStocked_end (n : Nat) (s : Stream (Recorded δ)) (r : s.writing = false)
    (sound : s.Sound) (bare : s.buffer.pushed = []) :
    ReadEnd n s (s.readStocked n).1 (s.readStocked n).2 := by
  fun_induction readStocked n s with
  | case1 s => exact .full rfl rfl (clean_of_device rfl rfl)
  | case2 n s hn f u hs =>
    have stocked := stock_filled r sound.buffer.room
    rw [hs] at stocked
    cases stocked with
    | stopped stopped => exact .stopped (Nat.pos_of_ne_zero hn) rfl stopped
  | case3 n s hn u hs dry =>
    have stocked := stock_filled r sound.buffer.room
    rw [hs] at stocked
    cases stocked with
    | more full _ => exact absurd dry full
    | ended _ ended => exact .ended (Nat.pos_of_ne_zero hn) rfl ended
  | case4 n s hn u hs full k t v hv ih =>
    have stocked := stock_filled r sound.buffer.room
    have path := stock_path r bare
    have pushed := stock_pushed s
    rw [hs] at stocked path pushed
    have hu : u.Sound := path.sound sound
    have reading : u.writing = false := path.writing.trans r
    have handed : Step u _ _ { u with buffer := (u.buffer.take n).2 } :=
      .handed n reading (pushed.trans bare)
    have ih := ih reading (handed.sound hu) (pushed.trans bare)
    rw [hv] at ih
    have len : (u.buffer.take n).1.length = k := Buffer.length_take_fst hu.buffer n
    cases stocked with
    | more _ clean =>
      have clean : Clean s { u with buffer := (u.buffer.take n).2 } :=
        clean.clean (clean_of_device rfl rfl)
      exact (clean.readEnd ih).after len (Nat.min_le_left _ _)
    | ended dry _ => exact absurd dry full

theorem intake_end (n_pos : 0 < n) (sound : s.Sound) :
    ReadEnd n s (s.intake n).1 (s.intake n).2 := by
  rcases turnToRead_cases s with ⟨f, u, ht, -, -⟩ | ⟨u, ht, r, path⟩
  · rw [intake, ht]
    exact .stopped n_pos rfl (turnToRead_stopped ht)
  · have returned : Step u _ _ { u with buffer := (u.buffer.takePushed n).2 } := .returned n r
    have hu : Sound { u with buffer := (u.buffer.takePushed n).2 } :=
      returned.sound (path.sound sound)
    have len : (u.buffer.takePushed n).1.length = min n u.buffer.pushed.length := List.length_take
    have clean : Clean s { u with buffer := (u.buffer.takePushed n).2 } :=
      (turnToRead_clean ht).clean (clean_of_device rfl rfl)
    rw [intake, ht]
    dsimp only
    split
    · next all => exact .full all rfl clean
    · next short =>
      have bare : (u.buffer.takePushed n).2.pushed = [] := List.drop_eq_nil_of_le (by omega)
      split
      · exact (clean.readEnd (readDirect_end _ r hu.buffer)).after rfl (by omega)
      · exact (clean.readEnd (readStocked_end _ _ r hu bare)).after rfl (by omega)

/-! ## writing -/

theorem push_end (bytes : Bytes) (s : Stream (Recorded δ)) :
    WriteEnd bytes.length s (s.push bytes).1 (s.push bytes).2 := by
  fun_induction push bytes s with
  | case1 bytes s h0 => exact .full h0.symm rfl ⟨syncAppend_past s, syncAppend_marks s⟩
  | case2 bytes s h0 d call =>
    exact .stopped (Nat.pos_of_ne_zero h0) rfl (stopped_of_eq (Recorded.events_write call) rfl rfl)
  | case3 bytes s h0 n d call k t u hp ih =>
    rw [hp, List.length_drop] at ih
    have clean : Clean s (({ s with device := d, base := s.base + k } : Stream _).count
        .bytesWritten k) := clean_of_eq (Recorded.events_write call) rfl
    exact (clean.writeEnd ih).after (Nat.min_le_right _ _)
  | case4 bytes s h0 f d call =>
    exact .stopped (Nat.pos_of_ne_zero h0) rfl (stopped_of_eq (Recorded.events_write call) rfl rfl)

theorem writeDirect_end {bytes : Bytes} (some : bytes ≠ []) (w : s.writing = true) :
    WriteEnd bytes.length s (s.writeDirect bytes).1 (s.writeDirect bytes).2 := by
  have length_pos : 0 < bytes.length := List.length_pos_iff.mpr some
  have path : Path false s [] [] s.drain.2 := drain_path w
  unfold writeDirect
  rcases hd : s.drain with ⟨f | _, u⟩
  · exact .stopped length_pos rfl (drain_stopped w hd)
  · have clean := drain_clean w hd
    rw [hd] at path
    dsimp only
    split
    · exact clean.writeEnd (push_end bytes u)
    · next unable =>
      have hw : u.writing = true := path.writing.trans w
      exact .stopped length_pos rfl
        (clean.stopped ⟨.noWrite hw (Bool.eq_false_iff.mpr unable), rfl⟩)

theorem makeSpace_stopped (w : s.writing = true) (h : s.makeSpace = (.error f, s')) :
    Stopped f s s' := by
  unfold makeSpace at h
  split at h
  · exact drain_stopped w h
  · cases h

theorem makeSpace_clean (w : s.writing = true) (h : s.makeSpace = (.ok (), s')) : Clean s s' := by
  unfold makeSpace at h
  split at h
  · exact drain_clean w h
  · cases h
    exact clean_of_device rfl rfl

theorem stow_end (bytes : Bytes) (s : Stream (Recorded δ)) (w : s.writing = true)
    (sound : s.Sound) : WriteEnd bytes.length s (s.stow bytes).1 (s.stow bytes).2 := by
  fun_induction stow bytes s with
  | case1 bytes s h0 => exact .full h0.symm rfl (clean_of_device rfl rfl)
  | case2 bytes s h0 f u hm => exact .stopped (Nat.pos_of_ne_zero h0) rfl (makeSpace_stopped w hm)
  | case3 bytes s h0 u hm full => exact absurd full (Nat.ne_of_gt (makeSpace_space hm w sound))
  | case4 bytes s h0 u hm full k t v hv ih =>
    have path := makeSpace_path w
    rw [hm] at path
    have hw : u.writing = true := path.writing.trans w
    have stored : Step u [] _ { u with buffer := (u.buffer.append bytes).2 } :=
      .stored bytes hw (Nat.pos_of_ne_zero full)
    have clean : Clean s { u with buffer := (u.buffer.append bytes).2 } :=
      (makeSpace_clean w hm).clean (clean_of_device rfl rfl)
    have ih := ih hw (stored.sound (path.sound sound))
    rw [hv, List.length_drop] at ih
    exact (clean.writeEnd ih).after (Nat.min_le_left _ _)

/-- a cut behind a line end leaves something in front -/
theorem splitLastLine?_ne_nil {bytes lines tail : Bytes}
    (h : splitLastLine? bytes = some (lines, tail)) : lines ≠ [] := by
  have whole := congrArg List.length (splitLastLine?_eq_some h)
  unfold splitLastLine? at h
  dsimp only at h
  split at h
  · cases h
  · next cut =>
    injection h with h
    obtain ⟨-, rfl⟩ := Prod.mk.inj h
    rintro rfl
    exact cut whole

theorem writeLines_end {bytes : Bytes} (w : s.writing = true) (sound : s.Sound) :
    WriteEnd bytes.length s (s.writeLines bytes).1 (s.writeLines bytes).2 := by
  unfold writeLines
  rcases hb : splitLastLine? bytes with _ | ⟨lines, tail⟩
  · exact stow_end bytes s w sound
  · have whole := congrArg List.length (splitLastLine?_eq_some hb)
    rw [List.length_append] at whole
    have path := writeDirect_path lines w
    have direct := writeDirect_end (splitLastLine?_ne_nil hb) w
    dsimp only
    rcases hd : s.writeDirect lines with ⟨⟨count, _ | f⟩, u⟩
    · rw [hd] at path direct
      cases direct with
      | full all _ clean =>
        dsimp only at all
        have rest := stow_end tail u (path.writing.trans w) (path.sound sound)
        rw [show tail.length = bytes.length - count by omega] at rest
        exact (clean.writeEnd rest).after (by omega)
      | stopped _ stop _ => cases stop
    · rw [hd] at direct
      cases direct with
      | full _ stop _ => cases stop
      | stopped short stop stopped =>
        exact .stopped (Nat.lt_of_lt_of_le short (by omega)) stop stopped

theorem emit_end {bytes : Bytes} (some : bytes ≠ []) (sound : s.Sound) :
    WriteEnd bytes.length s (s.emit bytes).1 (s.emit bytes).2 := by
  rcases turnToWrite_cases s with ⟨f, d, ht, -, -⟩ | ⟨u, ht, w, path⟩
  · have stopped := turnToWrite_stopped ht
    rw [emit, ht]
    exact .stopped (List.length_pos_iff.mpr some) rfl stopped
  · have hu : u.Sound := path.sound sound
    rw [emit, ht]
    dsimp only
    refine (turnToWrite_clean ht).writeEnd ?_
    split
    · exact writeDirect_end some w
    · exact stow_end bytes u w hu
    · exact writeLines_end w hu

/-! ## what the calls answer -/

/-- a read of `n` bytes says what came of it -/
structure ReadTells (n : Nat) (s : Stream (Recorded δ)) : Prop where
  ends : ReadEnd n s (s.intake n).1 (s.read n).2
  /-- it fails exactly if a failure stopped it before any byte was moved -/
  failed : ∀ f, (s.read n).1 = .error f ↔ (s.intake n).1.bytes = [] ∧ (s.intake n).1.stop = some f
  moved : ∀ bytes, (s.read n).1 = .ok bytes → (s.intake n).1.bytes = bytes
  /-- it gives nothing at the end of the data only -/
  none : (s.read n).1 = .ok [] → (s.read n).2.marks.eof = true

/-- a write says what came of it -/
structure WriteTells (bytes : Bytes) (s : Stream (Recorded δ)) : Prop where
  ends : WriteEnd bytes.length s (s.emit bytes).1 (s.write bytes).2
  /-- it fails exactly if a failure stopped it before any byte was moved -/
  failed : ∀ f, (s.write bytes).1 = .error f ↔
    (s.emit bytes).1.count = 0 ∧ (s.emit bytes).1.stop = some f
  moved : ∀ n, (s.write bytes).1 = .ok n → (s.emit bytes).1.count = n
  some : (s.write bytes).1 ≠ .ok 0

theorem read_tells (n_pos : 0 < n) (sound : s.Sound) : s.ReadTells n := by
  have ends := intake_end n_pos sound
  have answer := read_eq (s := s) (Nat.ne_of_gt n_pos)
  have moved : ∀ bytes, (s.read n).1 = .ok bytes → (s.intake n).1.bytes = bytes := by
    intro bytes h
    rw [answer] at h
    exact (Intake.result_ok h).1
  have failed : ∀ f, (s.read n).1 = .error f ↔
      (s.intake n).1.bytes = [] ∧ (s.intake n).1.stop = some f := by
    intro f
    rw [answer]
    exact Intake.result_eq_error
  have left : (s.read n).2 = (s.intake n).2 := by rw [answer]
  refine ⟨left ▸ ends, failed, moved, ?_⟩
  intro none
  rw [left]
  have empty := moved [] none
  cases ends with
  | full all _ _ =>
    rw [empty] at all
    exact absurd all (Nat.ne_of_lt n_pos)
  | ended _ _ ended => rw [ended.marks]
  | stopped _ stop _ =>
    rw [(failed _).mpr ⟨empty, stop⟩] at none
    cases none

theorem write_tells {bytes : Bytes} (nonempty : bytes ≠ []) (sound : s.Sound) :
    s.WriteTells bytes := by
  have ends := emit_end nonempty sound
  have answer : s.write bytes = ((s.emit bytes).1.result, (s.emit bytes).2) := by
    rw [write, if_neg (by simpa using nonempty)]
  have left : (s.write bytes).2 = (s.emit bytes).2 := by rw [answer]
  have moved : ∀ n, (s.write bytes).1 = .ok n → (s.emit bytes).1.count = n := by
    intro n h
    rw [answer] at h
    exact Outcome.result_ok h
  have failed : ∀ f, (s.write bytes).1 = .error f ↔
      (s.emit bytes).1.count = 0 ∧ (s.emit bytes).1.stop = some f := by
    intro f
    rw [answer]
    exact Outcome.result_eq_error
  refine ⟨left ▸ ends, failed, moved, ?_⟩
  intro none
  have empty := moved 0 none
  cases ends with
  | full all _ _ =>
    rw [empty] at all
    exact absurd all.symm (Nat.ne_of_gt (List.length_pos_iff.mpr nonempty))
  | stopped _ stop _ =>
    rw [(failed _).mpr ⟨empty, stop⟩] at none
    cases none

/-- a write of all bytes fails with what stopped it, and never because it came short without that -/
theorem writeAll_error {s : Stream δ} (bytes : Bytes) (sound : s.Sound) :
    (s.writeAll bytes).1 = .error f ↔ (s.emit bytes).1.stop = some f := by
  have all := emit_all bytes sound
  unfold writeAll
  dsimp only
  rcases hs : (s.emit bytes).1.stop with _ | g
  · obtain ⟨count, -⟩ := all hs
    dsimp only
    rw [if_neg (by omega)]
    constructor <;> intro h <;> cases h
  · dsimp only
    rw [Except.error.injEq, Option.some.injEq]

/-- Take a stream over any device, after anything that can happen to it.  A read of some bytes moves
all of them and leaves both marks; or it comes short at the end of the data, succeeds, and sets the end
mark and nothing else; or it comes short at a failure and sets the error mark and nothing else.  A
write of some bytes takes all of them and leaves both marks, or comes short at a failure and sets the
error mark and nothing else.  Either fails exactly if a failure stopped it before any byte was moved,
and no write of all bytes comes short without a failure. -/
theorem transfers_honest (o : Opening) (d : δ) (m : OpenMode) (acts : List Act) :
    let s := lived acts (opened o ({ inner := d } : Recorded δ) m)
    (∀ n, 0 < n → s.ReadTells n) ∧ (∀ bytes, bytes ≠ [] → s.WriteTells bytes) ∧
      ∀ bytes f, (s.writeAll bytes).1 = .error f ↔ (s.emit bytes).1.stop = some f := by
  intro s
  have sound : s.Sound := lived_sound acts (opened_sound o _ m)
  refine ⟨?_, ?_, ?_⟩
  · intro n n_pos
    exact read_tells n_pos sound
  · intro bytes some
    exact write_tells some sound
  · intro bytes f
    exact writeAll_error bytes sound

/-- six bytes in memory that may not grow, of which two are read -/
theorem transfers_honest_six :
    let s := lived [.op (.read 2)] (opened { capacity := 4 }
      ({ inner := Memory.ofData [1, 2, 3, 4, 5, 6] { limit := some 6 } } : Recorded Memory) .both)
    s.ReadTells 5 ∧ s.WriteTells [7, 8, 9, 10, 11] :=
  have honest := transfers_honest { capacity := 4 }
    (Memory.ofData [1, 2, 3, 4, 5, 6] { limit := some 6 }) .both [.op (.read 2)]
  ⟨honest.1 5 (by decide), honest.2.1 [7, 8, 9, 10, 11] (by decide)⟩

end Stream

end BufferedStreams
