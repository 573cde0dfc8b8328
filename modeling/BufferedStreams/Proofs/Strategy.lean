import BufferedStreams.Device.Script
import BufferedStreams.Proofs.Output
import BufferedStreams.Proofs.ShortTransfer
import Mathlib.Data.List.TakeWhile

/-!
# What a strategy lets wait

The strategy of a stream says what of its output may wait in the buffer: anything under full
buffering, the start of a line under line buffering, and nothing on a direct stream.

* `Path.outstanding`    what waits is the end of what waited before and of what was taken since;
* `Stream.Orderly`      what waits is what the strategy lets wait;
* `emit_orderly`        a write keeps that, wherever it stops;
* `Act.orderly`         so does everything else, a change of strategy included, failed or not;
* `lived_output`        nothing that an open stream took is lost;
* `strategy_obeyed`     so an open stream under line buffering has brought every line that ended to
                        the device.
-/

namespace BufferedStreams

/-! ## the last line end -/

theorem newline_notMem_tail {bytes lines tail : Bytes}
    (h : splitLastLine? bytes = some (lines, tail)) : newline ∉ tail := by
  unfold splitLastLine? at h
  dsimp only at h
  split at h
  · cases h
  · injection h with h
    obtain ⟨-, rfl⟩ := Prod.mk.inj h
    intro mem
    have ended := List.mem_takeWhile_imp (List.mem_reverse.mp mem)
    simp at ended

/-- only bytes without a line end cannot be cut -/
theorem newline_notMem_of_uncut {bytes : Bytes} (h : splitLastLine? bytes = none) :
    newline ∉ bytes := by
  unfold splitLastLine? at h
  dsimp only at h
  split at h
  · next whole =>
    have all : bytes.reverse.takeWhile (· != newline) = bytes.reverse :=
      (List.takeWhile_prefix _).eq_of_length (by simpa using whole)
    intro mem
    have ended := List.takeWhile_eq_self_iff.mp all newline (List.mem_reverse.mpr mem)
    simp at ended
  · cases h

theorem Recorded.accepted_mono {δ : Type} {d d' : Recorded δ} (h : d.events <+: d'.events) :
    d.accepted <+: d'.accepted := by
  obtain ⟨later, h⟩ := h
  rw [accepted, accepted, ← h, List.flatMap_append]
  exact List.prefix_append _ _

namespace Stream

variable {δ : Type}

/-- what waits for the device is what the strategy lets wait -/
structure Orderly (s : Stream δ) : Prop where
  direct : s.strategy = .direct → s.outstanding = []
  line : s.strategy = .line → newline ∉ s.outstanding

theorem Orderly.of_none {s : Stream δ} (h : s.outstanding = []) : s.Orderly := by
  refine ⟨fun _ => h, fun _ => ?_⟩
  rw [h]
  exact List.not_mem_nil

/-- what waits may get less -/
theorem Orderly.of_suffix {s s' : Stream δ} (h : s.Orderly) (same : s'.strategy = s.strategy)
    (less : s'.outstanding <:+ s.outstanding) : s'.Orderly := by
  refine ⟨?_, ?_⟩
  · intro direct
    have none := h.direct (same ▸ direct)
    rw [none] at less
    exact List.suffix_nil.mp less
  · intro line mem
    exact h.line (same ▸ line) (less.subset mem)

variable [Device δ] {s s' : Stream (Recorded δ)} {g t : Bytes} {leaps : Bool}

/-- what waits is the end of what waited before and of what was taken since -/
theorem Path.outstanding (h : Path leaps s g t s') (sound : s.Sound) :
    s'.outstanding <:+ s.outstanding ++ t := by
  obtain ⟨more, accepted⟩ := Recorded.accepted_mono h.past
  have balance := h.output sound
  rw [← accepted, List.append_assoc, List.append_assoc] at balance
  exact ⟨more, List.append_cancel_left balance⟩

/-! ## what changes the strategy -/

@[simp] theorem syncAppend_strategy (s : Stream δ) : s.syncAppend.strategy = s.strategy := by
  obtain ⟨d, base, h⟩ := syncAppend_eq s
  rw [h]

/-- the strategy changes only while nothing waits -/
theorem Step.strategy (h : Step s g t s') : s'.strategy = s.strategy ∨ s'.outstanding = [] := by
  cases h with
  | restyled b name settled => exact .inr (outstanding_settled settled)
  | cleared => exact .inl (syncAppend_strategy _)
  | synced => exact .inl (syncAppend_strategy _)
  | _ => exact .inl rfl

theorem Leap.strategy (h : Leap s s') : s'.strategy = s.strategy := by
  cases h <;> rfl

/-- a path that takes nothing leaves a stream orderly -/
theorem Path.orderly (h : Path leaps s g [] s') (sound : s.Sound) (hs : s.Orderly) :
    s'.Orderly := by
  generalize ht : ([] : Bytes) = t at h
  induction h with
  | refl => exact hs
  | @step leaps s u s' g t g' t' h rest ih =>
    obtain ⟨rfl, rfl⟩ := List.append_eq_nil_iff.mp ht.symm
    have less : u.outstanding <:+ s.outstanding := by
      have whole := (h.path : Path false _ _ _ _).outstanding sound
      rwa [List.append_nil] at whole
    refine ih (h.sound sound) ?_ rfl
    rcases h.strategy with same | none
    · exact hs.of_suffix same less
    · exact .of_none none
  | @leap s u s' g t h rest ih =>
    have less : u.outstanding <:+ s.outstanding := by
      have whole := h.path.outstanding sound
      rwa [List.append_nil] at whole
    exact ih (h.sound sound) (hs.of_suffix h.strategy less) ht

theorem notify_strategy (s : Stream δ) : s.notify.2.strategy = s.strategy := by
  unfold notify
  split <;> rfl

theorem drain_strategy (s : Stream δ) : s.drain.2.strategy = s.strategy := by
  induction s using drain_induct with
  | idle s h0 => rw [drain_idle h0]
  | lacking s h0 able =>
    rw [drain_lacking h0 able]
    rfl
  | refused s r d h0 able call none =>
    rw [drain_refusal h0 able call none]
    rfl
  | part s n d able call n_pos hlt ih =>
    rw [drain_part able call n_pos hlt, ih]
    rfl
  | all s n d able call some hle =>
    rw [drain_all able call some hle, notify_strategy, afterAll_eq]
    exact syncAppend_strategy _

theorem turnToRead_strategy (s : Stream δ) : s.turnToRead.2.strategy = s.strategy := by
  have drained := drain_strategy s
  unfold turnToRead
  split
  · rcases hd : s.drain with ⟨_ | _, u⟩ <;> rw [hd] at drained <;> exact drained
  · rfl

theorem moveDevice_strategy (off : Int) (w : Whence) (s : Stream δ) :
    (s.moveDevice off w).2.strategy = s.strategy := by
  unfold moveDevice
  dsimp only
  generalize (if w = .current then off - s.ahead else off) = target
  split
  · rfl
  · split <;> rfl

theorem turnToWrite_strategy (s : Stream δ) : s.turnToWrite.2.strategy = s.strategy := by
  have moved := moveDevice_strategy 0 .current s
  unfold turnToWrite
  split
  · rfl
  · split
    · rcases hm : s.moveDevice 0 .current with ⟨f | pos, u⟩
      · rw [hm] at moved
        dsimp only
        split <;> exact moved
      · rw [hm] at moved
        exact moved
    · rfl

theorem fill_strategy (s : Stream δ) : s.fill.2.strategy = s.strategy := by
  unfold fill
  dsimp only
  split
  · split
    · split <;> rfl
    · rfl
  · rfl

theorem stock_strategy (s : Stream δ) : s.stock.2.strategy = s.strategy := by
  unfold stock
  split
  · exact fill_strategy s
  · rfl

theorem push_strategy (bytes : Bytes) (s : Stream δ) :
    (s.push bytes).2.strategy = s.strategy := by
  fun_induction push bytes s with
  | case1 bytes s h0 => exact syncAppend_strategy s
  | case2 bytes s h0 d call => rfl
  | case3 bytes s h0 n d call k t u hp ih =>
    rw [hp] at ih
    exact ih
  | case4 bytes s h0 f d call => rfl

theorem writeDirect_strategy (bytes : Bytes) (s : Stream δ) :
    (s.writeDirect bytes).2.strategy = s.strategy := by
  have drained := drain_strategy s
  unfold writeDirect
  rcases hd : s.drain with ⟨_ | _, u⟩
  · rw [hd] at drained
    exact drained
  · rw [hd] at drained
    dsimp only
    split
    · exact (push_strategy bytes u).trans drained
    · exact drained

theorem makeSpace_strategy (s : Stream δ) : s.makeSpace.2.strategy = s.strategy := by
  unfold makeSpace
  split
  · exact drain_strategy s
  · rfl

theorem stow_strategy (bytes : Bytes) (s : Stream δ) :
    (s.stow bytes).2.strategy = s.strategy := by
  fun_induction stow bytes s with
  | case1 bytes s h0 => rfl
  | case2 bytes s h0 f u hm =>
    have room := makeSpace_strategy s
    rw [hm] at room
    exact room
  | case3 bytes s h0 u hm full =>
    have room := makeSpace_strategy s
    rw [hm] at room
    exact room
  | case4 bytes s h0 u hm full k t v hv ih =>
    have room := makeSpace_strategy s
    rw [hm] at room
    rw [hv] at ih
    exact ih.trans room

/-! ## writing -/

/-- bytes that go straight to the device do not wait -/
theorem push_outstanding (bytes : Bytes) (s : Stream δ) :
    (s.push bytes).2.outstanding = s.outstanding := by
  fun_induction push bytes s with
  | case1 bytes s h0 =>
    show s.syncAppend.outstanding = s.outstanding
    simp only [Stream.outstanding, syncAppend_writing, syncAppend_buffer]
  | case2 bytes s h0 d call => rfl
  | case3 bytes s h0 n d call k t u hp ih =>
    rw [hp] at ih
    exact ih
  | case4 bytes s h0 f d call => rfl

theorem writeDirect_outstanding (bytes : Bytes) (w : s.writing = true) (sound : s.Sound) :
    (s.writeDirect bytes).2.outstanding <:+ s.outstanding := by
  have path : Path false s [] [] s.drain.2 := drain_path w
  have less := path.outstanding sound
  rw [List.append_nil] at less
  unfold writeDirect
  rcases hd : s.drain with ⟨_ | _, u⟩
  · rw [hd] at less
    exact less
  · rw [hd] at less
    dsimp only
    split
    · rw [push_outstanding]
      exact less
    · exact less

/-- what waits after a buffered write has no line end if nothing that waited or was written had one -/
theorem stow_unended {bytes : Bytes} (w : s.writing = true) (sound : s.Sound)
    (before : newline ∉ s.outstanding) (unended : newline ∉ bytes) :
    newline ∉ (s.stow bytes).2.outstanding := by
  intro mem
  have whole := (stow_path bytes s w).outstanding sound
  rcases List.mem_append.mp (whole.subset mem) with old | new
  · exact before old
  · exact unended (List.mem_of_mem_take new)

/-- a line buffered write lets no line end wait, wherever it stops -/
theorem writeLines_unended (bytes : Bytes) (w : s.writing = true) (sound : s.Sound)
    (before : newline ∉ s.outstanding) : newline ∉ (s.writeLines bytes).2.outstanding := by
  unfold writeLines
  rcases hb : splitLastLine? bytes with _ | ⟨lines, tail⟩
  · exact stow_unended w sound before (newline_notMem_of_uncut hb)
  · have path := writeDirect_path lines w
    have less := writeDirect_outstanding lines w sound
    dsimp only
    rcases hd : s.writeDirect lines with ⟨⟨count, _ | f⟩, u⟩
    · rw [hd] at path less
      refine stow_unended (path.writing.trans w) (path.sound sound) ?_ (newline_notMem_tail hb)
      intro mem
      exact before (less.subset mem)
    · rw [hd] at less
      intro mem
      exact before (less.subset mem)

theorem writeLines_strategy (bytes : Bytes) (s : Stream δ) :
    (s.writeLines bytes).2.strategy = s.strategy := by
  unfold writeLines
  rcases hb : splitLastLine? bytes with _ | ⟨lines, tail⟩
  · exact stow_strategy bytes s
  · have direct := writeDirect_strategy lines s
    dsimp only
    rcases hd : s.writeDirect lines with ⟨⟨count, _ | f⟩, u⟩
    · rw [hd] at direct
      exact (stow_strategy tail u).trans direct
    · rw [hd] at direct
      exact direct

theorem emit_orderly (bytes : Bytes) (sound : s.Sound) (h : s.Orderly) :
    (s.emit bytes).2.Orderly := by
  rcases turnToWrite_cases s with ⟨f, d, ht, -, path⟩ | ⟨u, ht, w, path⟩
  · rw [emit, ht]
    exact path.orderly sound h
  · have hu : u.Sound := path.sound sound
    have waits : u.Orderly := path.orderly sound h
    rw [emit, ht]
    dsimp only
    split
    · next direct =>
      have less := writeDirect_outstanding bytes w hu
      rw [waits.direct direct] at less
      exact .of_none (List.suffix_nil.mp less)
    · next full =>
      have same := (stow_strategy bytes u).trans full
      refine ⟨?_, ?_⟩ <;> rw [same] <;> intro other <;> cases other
    · next line =>
      have same := (writeLines_strategy bytes u).trans line
      refine ⟨?_, fun _ => writeLines_unended bytes w hu (waits.line line)⟩
      rw [same]
      intro other
      cases other

/-! ## over a life -/

theorem Op.orderly (op : Op) (sound : s.Sound) (h : s.Orderly) : (op.run s).Orderly := by
  have path := op_path op sound
  cases op with
  | write bytes =>
    show (s.write bytes).2.Orderly
    unfold write
    split
    · exact h
    · exact emit_orderly bytes sound h
  | writeAll bytes =>
    show (s.writeAll bytes).2.Orderly
    rw [writeAll_snd]
    exact emit_orderly bytes sound h
  | putc byte =>
    show (s.writeAll [byte]).2.Orderly
    rw [writeAll_snd]
    exact emit_orderly [byte] sound h
  | _ => exact path.orderly sound h

end Stream

namespace Act

variable {δ : Type} [Device δ]

/-- the bytes an act takes from the user -/
def taken (s : Stream δ) : Act → Bytes
  | .op o => o.taken s
  | _ => []

end Act

namespace Stream

variable {δ : Type} [Device δ]

/-- the bytes that were taken from the user in a life -/
def takenIn : List Act → Stream δ → Bytes
  | [], _ => []
  | act :: acts, s => act.taken s ++ takenIn acts (act.run s)

variable {s s' : Stream (Recorded δ)}

theorem snatch_orderly (sound : s.Sound) (h : s.Orderly) : s.snatch.2.Orderly := by
  have path : Path false s [] [] s.flush.2 := flush_path
  have flushed := path.orderly sound h
  unfold snatch
  rcases hf : s.flush with ⟨_ | _, u⟩
  · rw [hf] at flushed
    exact flushed
  · rw [hf] at flushed
    dsimp only
    split <;> exact ⟨flushed.direct, flushed.line⟩

theorem close_orderly (h : s.Orderly) : s.close.2.Orderly := by
  unfold close
  split
  · exact h
  · exact .of_none (outstanding_settled fun _ => rfl)

theorem Act.orderly (act : Act) (sound : s.Sound) (h : s.Orderly) : (act.run s).Orderly := by
  cases act with
  | op op => exact Op.orderly op sound h
  | clearMarks => exact ⟨h.direct, h.line⟩
  | rename name => exact ⟨h.direct, h.line⟩
  | snatch => exact snatch_orderly sound h
  | close => exact close_orderly h

theorem lived_orderly (acts : List Act) (sound : s.Sound) (h : s.Orderly) :
    (lived acts s).Orderly := by
  induction acts generalizing s with
  | nil => exact h
  | cons act acts ih => exact ih (sound.act act) (Act.orderly act sound h)

theorem snatch_output (sound : s.Sound) :
    s.snatch.2.device.accepted ++ s.snatch.2.outstanding =
      s.device.accepted ++ s.outstanding := by
  have path : Path false s [] [] s.flush.2 := flush_path
  have balance := path.output sound
  rw [List.append_nil] at balance
  rw [← balance]
  unfold snatch
  rcases s.flush with ⟨_ | _, u⟩
  · rfl
  · have same : (Device.snatch u.device).2.accepted = u.device.accepted := rfl
    dsimp only
    rcases call : Device.snatch u.device with ⟨_ | bytes, d⟩ <;> rw [call] at same <;>
      exact congrArg (· ++ u.outstanding) same

/-- only a close may drop what waits -/
theorem Act.output (act : Act) (sound : s.Sound) (stays : act ≠ .close) :
    (act.run s).device.accepted ++ (act.run s).outstanding =
      s.device.accepted ++ s.outstanding ++ act.taken s := by
  cases act with
  | op op => exact (op_path op sound).output sound
  | clearMarks => exact (List.append_nil _).symm
  | rename name => exact (List.append_nil _).symm
  | snatch => exact (snatch_output sound).trans (List.append_nil _).symm
  | close => exact absurd rfl stays

/-- nothing that an open stream took is lost -/
theorem lived_output (acts : List Act) (sound : s.Sound) (stays : ∀ act ∈ acts, act ≠ .close) :
    (lived acts s).device.accepted ++ (lived acts s).outstanding =
      s.device.accepted ++ s.outstanding ++ takenIn acts s := by
  induction acts generalizing s with
  | nil => exact (List.append_nil _).symm
  | cons act acts ih =>
    have here := Act.output act sound (stays act List.mem_cons_self)
    have later := ih (sound.act act) fun a mem => stays a (List.mem_cons_of_mem act mem)
    show (lived acts (act.run s)).device.accepted ++ (lived acts (act.run s)).outstanding =
      s.device.accepted ++ s.outstanding ++ (act.taken s ++ takenIn acts (act.run s))
    rw [later, here, List.append_assoc, List.append_assoc]

/-- Take a stream over any device, after anything that can happen to it, and let it be open and
writing.  If it is direct nothing is pending, and if it is line buffered no line end is: of the bytes
it took the device has accepted the first ones, beyond the last line end. -/
theorem strategy_obeyed (o : Opening) (d : δ) (m : OpenMode) (acts : List Act) :
    let start := opened o ({ inner := d } : Recorded δ) m
    let s := lived acts start
    s.closed = false → s.writing = true →
      (s.strategy = .direct → s.buffer.pending = []) ∧
        (s.strategy = .line → newline ∉ s.buffer.pending ∧
          s.device.accepted <+: takenIn acts start ∧
          ∀ k, (takenIn acts start)[k]? = some newline → k < s.device.accepted.length) := by
  intro start s opn w
  have sound : start.Sound := opened_sound o _ m
  have fresh : start.outstanding = [] := outstanding_settled fun _ => rfl
  have orderly : s.Orderly := lived_orderly acts sound (.of_none fresh)
  have balance : s.device.accepted ++ s.buffer.pending = takenIn acts start := by
    have whole := lived_output acts sound (lived_open acts sound opn)
    rw [fresh] at whole
    rw [← outstanding_writing w]
    exact whole
  rw [← balance]
  obtain ⟨direct, line⟩ := orderly
  rw [outstanding_writing w] at direct line
  refine ⟨direct, fun buffered => ⟨line buffered, List.prefix_append _ _, ?_⟩⟩
  intro k ended
  apply Nat.lt_of_not_le
  intro behind
  rw [List.getElem?_append_right behind] at ended
  exact line buffered (List.mem_of_getElem? ended)

/-- the acts of a line buffered stream that writes a line and the start of the next one -/
def lineAndMore : List Act := [.op (.setStrategy .line), .op (.write [1, newline, 2])]

/-- the device takes one byte first, then what is left of the line -/
theorem strategy_obeyed_three :
    let device : Scripted := { script := { writes := [.atMost 1] }, announced := .all }
    let start := opened { capacity := 4 } ({ inner := device } : Recorded Scripted) .both
    let s := lived lineAndMore start
    s.closed = false ∧ s.writing = true ∧ s.strategy = .line ∧ newline ∉ s.buffer.pending ∧
      s.device.accepted <+: takenIn lineAndMore start ∧
      ∀ k, (takenIn lineAndMore start)[k]? = some newline → k < s.device.accepted.length := by
  intro device start s
  have opn : s.closed = false := by decide +kernel
  have w : s.writing = true := by decide +kernel
  have line : s.strategy = .line := by decide +kernel
  obtain ⟨-, obeyed⟩ := strategy_obeyed { capacity := 4 } device .both lineAndMore opn w
  exact ⟨opn, w, line, obeyed line⟩

end Stream

end BufferedStreams
