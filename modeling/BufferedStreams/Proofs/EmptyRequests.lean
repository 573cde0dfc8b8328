import BufferedStreams.Proofs.Strategy

/-!
# Requests for no bytes

A read or a write of no bytes touches nothing, and neither does a write of all of no bytes through the
guarded `Stream.putAll`.  `Stream.writeAll` has no such guard: it turns the stream to writing before it
looks at what there is to write.

* `emit_nil`             what is left to do without bytes once the stream writes;
* `EmptyWriteAll`        what `writeAll` does without bytes, in each kind of state;
* `empty_requests`       so it is a request for nothing on a stream that is `Ready`, and on no other.
-/

namespace BufferedStreams.Stream

variable {δ : Type}

/-- a stream that writes already; if it is direct, its device can write and need not be asked where
its data ends -/
structure Ready (s : Stream δ) : Prop where
  writing : s.writing = true
  direct : s.strategy = .direct →
    s.abilities.write = true ∧ (s.mode.append && s.abilities.seek) = false

/-- a direct stream that writes has nothing pending -/
theorem Orderly.settled {s : Stream δ} (orderly : s.Orderly) (sound : s.Sound)
    (w : s.writing = true) (direct : s.strategy = .direct) : s.buffer.pendingSize = 0 := by
  rw [← length_outstanding w sound, orderly.direct direct]
  rfl

variable [Device δ] {s s' : Stream δ}

/-- a write of all of no bytes where nothing guards it -/
structure EmptyWriteAll (s : Stream δ) : Prop where
  buffered : s.writing = true → s.strategy ≠ .direct → s.writeAll [] = (.ok (), s)
  /-- an append device is asked where its data ends -/
  direct : s.writing = true → s.strategy = .direct → s.abilities.write = true →
    s.writeAll [] = (.ok (), s.syncAppend)
  lacking : s.writing = true → s.strategy = .direct → s.abilities.write = false →
    s.writeAll [] = (.error (.unsupported .write), s.fail)
  /-- a stream that reads is stuck in the turn, or it writes from now on, and read-ahead and pushback
  are gone -/
  reading : s.writing = false →
    (∃ f d, s.writeAll [] = (.error f, ({ s with device := d } : Stream δ).fail)) ∨
      (s.writeAll []).2.writing = true ∧ (s.writeAll []).2.buffer = s.buffer.clear

/-! ## without bytes -/

/-- without bytes only a direct stream has something left to do once it writes -/
theorem emit_nil (w : s.writing = true) (settled : s.strategy = .direct → s.buffer.pendingSize = 0) :
    s.emit [] =
      if s.strategy = .direct then
        if s.abilities.write then ({}, s.syncAppend)
        else ({ stop := some (.unsupported .write) }, s.fail)
      else ({}, s) := by
  have uncut : splitLastLine? [] = none := rfl
  simp only [emit, turnToWrite_writing w]
  cases strategy : s.strategy with
  | full => simp [stow_nil]
  | line => simp [writeLines, uncut, stow_nil]
  | direct => simp [writeDirect, drain_idle (settled strategy), push_nil]

theorem writeAll_nil (s : Stream δ) :
    s.writeAll [] =
      ((match (s.emit []).1.stop with
        | some f => .error f
        | none => .ok ()),
        (s.emit []).2) := by
  simp only [writeAll, List.length_nil, Nat.not_lt_zero, if_false]
  cases (s.emit []).1.stop <;> rfl

/-- whatever is left to do, the stream goes on writing with the buffer it has -/
theorem emit_nil_kept (w : s.writing = true)
    (settled : s.strategy = .direct → s.buffer.pendingSize = 0) :
    (s.emit []).2.writing = true ∧ (s.emit []).2.buffer = s.buffer := by
  rw [emit_nil w settled]
  split
  · split
    · simp [w]
    · exact ⟨w, rfl⟩
  · exact ⟨w, rfl⟩

theorem empty_writeAll (settled : s.writing = true → s.strategy = .direct →
    s.buffer.pendingSize = 0) : s.EmptyWriteAll where
  buffered w buffered := by
    rw [writeAll_nil, emit_nil w (settled w), if_neg buffered]
  direct w direct able := by
    rw [writeAll_nil, emit_nil w (settled w), if_pos direct, if_pos able]
  lacking w direct unable := by
    rw [writeAll_nil, emit_nil w (settled w), if_pos direct, if_neg (by simp [unable])]
  reading r := by
    rcases turnToWrite_cases s with ⟨f, d, ht, -, -⟩ | ⟨u, ht, w, -⟩
    · refine .inl ⟨f, d, ?_⟩
      rw [writeAll_nil, emit, ht]
    · -- from the turn on the write is one to a stream that writes already
      have cleared := turnToWrite_clears ht r
      have turned : s.emit [] = u.emit [] := by
        rw [emit, ht, emit, turnToWrite_writing w]
      have idle : u.buffer.pendingSize = 0 := by
        rw [cleared]
        exact Nat.zero_sub _
      obtain ⟨writing, buffer⟩ := emit_nil_kept w fun _ => idle
      rw [writeAll_nil, turned]
      exact .inr ⟨writing, buffer.trans cleared⟩

/-! ## in every state -/

/-- a device that is asked where its data ends has been called -/
theorem syncAppend_calls {s : Stream (Recorded δ)}
    (asks : (s.mode.append && s.abilities.seek) = true) : s.syncAppend ≠ s := by
  intro same
  have calls : s.syncAppend.device.events.length = s.device.events.length + 1 := by
    unfold syncAppend
    rw [if_pos asks]
    rcases call : Device.seek 0 .current s.device with ⟨_ | pos, d⟩ <;>
      simp [Recorded.events_seek call]
  rw [same] at calls
  omega

/-- Take a stream over any device, after anything that can happen to it.  A read and a write of no
bytes, and a guarded write of all of no bytes, succeed and change nothing: not the stream, and not its
device, which keeps every call.  Without the guard that is so on a stream that is ready, and on no
other: one that reads is turned to writing, and what it had read ahead or got back is dropped. -/
theorem empty_requests (o : Opening) (d : δ) (m : OpenMode) (acts : List Act) :
    let s := lived acts (opened o ({ inner := d } : Recorded δ) m)
    s.read 0 = (.ok [], s) ∧ s.write [] = (.ok 0, s) ∧ s.putAll [] = (.ok (), s) ∧
      (s.writeAll [] = (.ok (), s) ↔ s.Ready) ∧ s.EmptyWriteAll := by
  intro s
  have sound : s.Sound := lived_sound acts (opened_sound o _ m)
  have orderly : s.Orderly :=
    lived_orderly acts (opened_sound o _ m) (.of_none (outstanding_settled fun _ => rfl))
  have empty : s.EmptyWriteAll := empty_writeAll (orderly.settled sound)
  refine ⟨rfl, rfl, rfl, ⟨?_, ?_⟩, empty⟩
  · intro nothing
    cases w : s.writing with
    | false =>
      rcases empty.reading w with ⟨f, d, stuck⟩ | ⟨turned, -⟩
      · rw [stuck] at nothing
        cases nothing
      · rw [nothing, w] at turned
        cases turned
    | true =>
      refine ⟨w, fun direct => ?_⟩
      cases able : s.abilities.write with
      | false =>
        rw [empty.lacking w direct able] at nothing
        cases nothing
      | true =>
        rw [empty.direct w direct able] at nothing
        refine ⟨rfl, Bool.eq_false_iff.mpr fun asks => ?_⟩
        exact syncAppend_calls asks (congrArg Prod.snd nothing)
  · rintro ⟨w, direct⟩
    by_cases strategy : s.strategy = .direct
    · obtain ⟨able, asks⟩ := direct strategy
      rw [empty.direct w strategy able, syncAppend, if_neg (by simp [asks])]
    · exact empty.buffered w strategy

/-- a device that holds six bytes -/
def sixBytes : Scripted := { script := { data := [1, 2, 3, 4, 5, 6] }, announced := .all }

/-- one byte waits in a stream that writes -/
theorem empty_requests_six :
    let s := lived [.op (.write [7])]
      (opened { capacity := 4 } ({ inner := sixBytes } : Recorded Scripted) .both)
    s.Ready ∧ s.writeAll [] = (.ok (), s) := by
  intro s
  have ready : s.Ready :=
    ⟨by decide +kernel, fun direct => absurd direct (by decide +kernel)⟩
  obtain ⟨-, -, -, nothing, -⟩ :=
    empty_requests { capacity := 4 } sixBytes .both [.op (.write [7])]
  exact ⟨ready, nothing.mpr ready⟩

/-- two bytes are read and one is pushed back -/
def readAndBack : List Act := [.op (.read 2), .op (.unread [7])]

/-- a write of all of no bytes moves the device back and drops what was read ahead and pushed back -/
theorem empty_writeAll_turns :
    let s := lived readAndBack
      (opened { capacity := 4 } ({ inner := sixBytes } : Recorded Scripted) .both)
    s.closed = false ∧ s.writing = false ∧ s.buffer.readable = [3, 4] ∧ s.buffer.pushed = [7] ∧
      (s.writeAll []).1 = .ok () ∧ (s.writeAll []).2.writing = true ∧
      (s.writeAll []).2.buffer.readable = [] ∧ (s.writeAll []).2.buffer.pushed = [] ∧
      (s.writeAll []).2.device.events.length = s.device.events.length + 1 := by
  decide +kernel

end BufferedStreams.Stream
