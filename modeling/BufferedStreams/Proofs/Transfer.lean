import BufferedStreams.Proofs.Turn
import BufferedStreams.Stream.Line

/-!
# How bytes go through a stream

The paths of the operations that move bytes.  A transfer is one path that gives what was read and
takes what was written, and it leaps only if it turns the stream.

Main statements: `intake_path`, `emit_path`, `unread_path`, `peek_path`, `skip_path` and
`readLine_path`.
-/

namespace BufferedStreams.Stream

variable {δ : Type} [Device δ] {s s' : Stream δ}

/-! ## input -/

theorem fill_path (r : s.writing = false) (dry : s.buffer.readableSize = 0)
    (bare : s.buffer.pushed = []) : Path false s [] [] s.fill.2 := by
  unfold fill
  dsimp only
  cases able : s.abilities.read with
  | false =>
    rw [if_neg (by simp)]
    exact (Step.lacking r dry bare).path.snoc_fail
  | true =>
    rw [if_pos rfl]
    rcases call : Device.read s.buffer.capacity s.device with ⟨f | got, d⟩
    · exact (Step.unfilled r able dry bare call).path.snoc_fail
    · have h : Path false s [] [] _ := (Step.filled r able dry bare call).path
      refine Path.snoc_count (Path.snoc_count ?_ _ _ rfl) _ _ rfl
      split
      · exact h.snoc_markEnd
      · exact h

theorem stock_path (r : s.writing = false) (bare : s.buffer.pushed = []) :
    Path false s [] [] s.stock.2 := by
  unfold stock
  split
  · next dry => exact fill_path r dry bare
  · exact .refl _ _

theorem fill_pushed (s : Stream δ) : s.fill.2.buffer.pushed = s.buffer.pushed := by
  unfold fill
  dsimp only
  split
  · split
    · split <;> rfl
    · rfl
  · rfl

theorem stock_pushed (s : Stream δ) : s.stock.2.buffer.pushed = s.buffer.pushed := by
  unfold stock
  split
  · exact fill_pushed s
  · rfl

theorem pull_path (n : Nat) (s : Stream δ) (r : s.writing = false)
    (able : s.abilities.read = true) (empty : s.buffer.filled = 0) (start : s.buffer.cursor = 0)
    (bare : s.buffer.pushed = []) :
    Path false s (s.pull n).1.bytes [] (s.pull n).2 := by
  fun_induction pull n s with
  | case1 s => exact .refl _ _
  | case2 n s hn bytes d call =>
    have h : Path false s _ [] _ :=
      (Step.pulled r able empty start bare (Nat.pos_of_ne_zero hn) call).path
    have hz : min 0 n = 0 := Nat.zero_min n
    simp only [hz, Nat.add_zero] at h
    exact h.snoc_markEnd
  | case3 n s hn bytes c d call k t u hp ih =>
    have h : Path false s _ [] _ :=
      (Step.pulled r able empty start bare (Nat.pos_of_ne_zero hn) call).path
    have h' := (h.snoc_count .bytesRead k rfl).trans (ih r able empty start bare)
    rw [hp] at h'
    exact h'
  | case4 n s hn f d call =>
    exact (Step.balked r able (Nat.pos_of_ne_zero hn) call).path.snoc_fail

theorem readDirect_path (n : Nat) (r : s.writing = false) (sound : s.buffer.Sound)
    (bare : s.buffer.pushed = []) :
    Path false s (s.readDirect n).1.bytes [] (s.readDirect n).2 := by
  have h : Path false s (s.buffer.take n).1 [] { s with buffer := (s.buffer.take n).2 } :=
    (Step.handed n r bare).path
  unfold readDirect
  dsimp only
  split
  · exact h
  · next hn =>
    rw [Buffer.length_take_fst sound] at hn
    have dry : (s.buffer.take n).2.readableSize = 0 := by
      rw [Buffer.readableSize_take]
      omega
    have h' : Path false { s with buffer := (s.buffer.take n).2 } [] [] _ :=
      (Step.emptied (s := { s with buffer := (s.buffer.take n).2 }) r dry bare).path
    cases able : s.abilities.read with
    | false =>
      rw [if_neg (by simp [dropAhead, able])]
      exact (h.snoc h').snoc_fail
    | true =>
      rw [if_pos (by exact able)]
      exact (h.snoc h').trans (pull_path _ _ r able rfl rfl rfl)

theorem readStocked_path (n : Nat) (s : Stream δ) (r : s.writing = false)
    (bare : s.buffer.pushed = []) :
    Path false s (s.readStocked n).1.bytes [] (s.readStocked n).2 := by
  fun_induction readStocked n s with
  | case1 s => exact .refl _ _
  | case2 n s hn f u hs =>
    have h := stock_path r bare
    rw [hs] at h
    exact h
  | case3 n s hn u hs dry =>
    have h := stock_path r bare
    rw [hs] at h
    exact h
  | case4 n s hn u hs dry k t v hv ih =>
    have h := stock_path r bare
    have hb := stock_pushed s
    rw [hs] at h hb
    have hu : u.writing = false := h.writing.trans r
    have hp : u.buffer.pushed = [] := hb.trans bare
    have h' := (h.trans (Step.handed n hu hp).path).trans (ih hu hp)
    rw [hv] at h'
    exact h'

/-- a read of a stream that reads already -/
theorem intake_reading_path (n : Nat) (r : s.writing = false) (sound : s.buffer.Sound) :
    Path false s (s.intake n).1.bytes [] (s.intake n).2 := by
  have h : Path false s (s.buffer.takePushed n).1 []
      { s with buffer := (s.buffer.takePushed n).2 } := (Step.returned n r).path
  unfold intake
  rw [turnToRead_reading r]
  dsimp only
  split
  · exact h
  · next hn =>
    have bare : (s.buffer.takePushed n).2.pushed = [] := by
      simp only [Buffer.takePushed, List.length_take] at hn ⊢
      exact List.drop_eq_nil_of_le (by omega)
    have sound' : (s.buffer.takePushed n).2.Sound :=
      ⟨sound.drained_le, sound.cursor_le, sound.filled_le, sound.room, by
        rw [bare]
        exact Nat.zero_le _⟩
    split
    · exact h.trans (readDirect_path _ r sound' bare)
    · exact h.trans (readStocked_path _ _ r bare)

/-- a read is one path, which leaps only if it turns the stream -/
theorem intake_path (n : Nat) (sound : s.Sound) :
    Path (s.turns (s.intake n).2) s (s.intake n).1.bytes [] (s.intake n).2 := by
  rcases turnToRead_cases s with ⟨f, u, ht, -, h⟩ | ⟨u, ht, r, h⟩
  · have hi : s.intake n = ({ stop := some f }, u) := by
      rw [intake, ht]
    rw [hi]
    exact h.loose
  · -- from the turn on the read is one of a stream that reads already
    have hi : s.intake n = u.intake n := by
      rw [intake, ht, intake, turnToRead_reading r]
    have h' : Path false u _ [] _ := intake_reading_path n r (h.sound sound).buffer
    rw [hi, turns, h'.writing, r, Bool.bne_false]
    exact h.trans h'.loose

theorem read_path (n : Nat) (sound : s.Sound) :
    Path (s.turns (s.read n).2) s (if n = 0 then [] else (s.intake n).1.bytes) []
      (s.read n).2 := by
  unfold read
  split
  · exact .refl _ _
  · exact intake_path n sound

theorem getc_path (sound : s.Sound) :
    Path (s.turns s.getc.2) s (s.intake 1).1.bytes [] s.getc.2 :=
  read_path 1 sound

/-- `F` turns a stream to reading before anything else -/
structure TurnsFirst (F : Stream δ → Stream δ) : Prop where
  stuck : ∀ s f s', s.turnToRead = (.error f, s') → F s = s'
  turned : ∀ s s', s.turnToRead = (.ok (), s') → F s = F s'

/-- so it is stuck in the turn, or it does what it does to the stream turned -/
theorem TurnsFirst.cases {F : Stream δ → Stream δ} (h : TurnsFirst F) (s : Stream δ) :
    (∃ f u, s.turnToRead = (.error f, u) ∧ Path false s [] [] u ∧ F s = u) ∨
      ∃ u, s.turnToRead = (.ok (), u) ∧ u.writing = false ∧ Path s.writing s [] [] u ∧
        F s = F u := by
  rcases turnToRead_cases s with ⟨f, u, ht, -, path⟩ | ⟨u, ht, r, path⟩
  · exact .inl ⟨f, u, ht, path, h.stuck s f u ht⟩
  · exact .inr ⟨u, ht, r, path, h.turned s u ht⟩

/-- an operation that turns the stream first is a path if it is one on a stream that reads already -/
theorem TurnsFirst.path {F : Stream δ → Stream δ} (h : TurnsFirst F)
    (reading : ∀ s : Stream δ, s.writing = false → Path true s [] [] (F s)) (s : Stream δ) :
    Path true s [] [] (F s) := by
  rcases h.cases s with ⟨f, u, -, path, same⟩ | ⟨u, -, r, path, same⟩
  · rw [same]
    exact path.loose
  · rw [same]
    exact path.to_true.trans (reading u r)

theorem intake_turnsFirst (n : Nat) : TurnsFirst fun s : Stream δ => (s.intake n).2 := by
  refine ⟨?_, ?_⟩
  · intro s f s' ht
    simp only [intake, ht]
  · intro s s' ht
    simp only [intake, ht, turnToRead_reading (turnToRead_ok ht)]

theorem unread_turnsFirst (bytes : Bytes) :
    TurnsFirst fun s : Stream δ => (s.unread bytes).2 := by
  refine ⟨?_, ?_⟩
  · intro s f s' ht
    simp only [unread, ht]
  · intro s s' ht
    simp only [unread, ht, turnToRead_reading (turnToRead_ok ht)]

theorem peek_turnsFirst : TurnsFirst fun s : Stream δ => s.peek.2 := by
  refine ⟨?_, ?_⟩
  · intro s f s' ht
    simp only [peek, ht]
  · intro s s' ht
    simp only [peek, ht, turnToRead_reading (turnToRead_ok ht)]

theorem unread_path (bytes : Bytes) (s : Stream δ) : Path true s [] [] (s.unread bytes).2 := by
  refine (unread_turnsFirst bytes).path ?_ s
  intro s r
  simp only [unread, turnToRead_reading r]
  split
  · exact (Leap.pushedBack bytes r).path
  · exact (Leap.pushedBack bytes r).path.snoc (Leap.unmarked _).path

/-- a peek of a stream that reads already -/
theorem peek_reading_path (r : s.writing = false) : Path false s [] [] s.peek.2 := by
  simp only [peek, turnToRead_reading r]
  split
  · exact .refl _ _
  · next bare =>
    have h : Path false s [] [] s.stock.2 := stock_path r (Decidable.not_not.mp bare)
    rcases hs : s.stock with ⟨_ | _, u⟩ <;> rw [hs] at h <;> exact h

theorem peek_path (s : Stream δ) : Path true s [] [] s.peek.2 :=
  peek_turnsFirst.path (fun _ r => (peek_reading_path r).loose) s

theorem skip_path (n : Nat) (s : Stream δ) : Path true s [] [] (s.skip n).2 := by
  unfold skip
  split
  · exact .refl _ _
  · next r =>
    rcases hk : skipped n s.buffer with _ | b
    · exact .refl _ _
    · exact (Leap.skipped (Bool.eq_false_iff.mpr r) hk).path

/-! ## output -/

theorem push_nil (s : Stream δ) : s.push [] = ({}, s.syncAppend) := by
  rw [push, if_pos List.length_nil]

theorem stow_nil (s : Stream δ) : s.stow [] = ({}, s) := by
  rw [stow, if_pos List.length_nil]

theorem push_path (bytes : Bytes) (s : Stream δ) (w : s.writing = true)
    (able : s.abilities.write = true) (settled : s.buffer.pendingSize = 0) :
    Path false s [] (bytes.take (s.push bytes).1.count) (s.push bytes).2 := by
  fun_induction push bytes s with
  | case1 bytes s h0 => exact (Step.synced w settled).path
  | case2 bytes s h0 d call =>
    exact (Step.refused w able call (by rintro _ ⟨⟩; rfl)).path.snoc_fail
  -- the device took `n + 1` bytes, or all if it was offered fewer: that is the first `k` of them
  | case3 bytes s h0 n d call k t u hp ih =>
    have h : Path false s [] (bytes.take (n + 1)) _ :=
      (Step.wrote w able settled call (Nat.succ_pos n)).path
    have h' := (h.snoc_count .bytesWritten k rfl).trans (ih w able settled)
    rw [hp] at h'
    have hk : bytes.take (n + 1) = bytes.take k := List.take_eq_take_min
    rw [hk, ← List.take_add] at h'
    exact h'
  | case4 bytes s h0 f d call =>
    exact (Step.refused w able call (by rintro _ ⟨⟩)).path.snoc_fail

/-- a direct write takes no more than it was given, and all of it if it does not stop early -/
theorem push_count (bytes : Bytes) (s : Stream δ) :
    (s.push bytes).1.count ≤ bytes.length ∧
      ((s.push bytes).1.stop = none → (s.push bytes).1.count = bytes.length) := by
  fun_induction push bytes s with
  | case1 bytes s h0 => exact ⟨Nat.zero_le _, fun _ => h0.symm⟩
  | case2 bytes s h0 d call => exact ⟨Nat.zero_le _, fun h => by cases h⟩
  | case3 bytes s h0 n d call k t u hp ih =>
    rw [hp, List.length_drop] at ih
    have hk : k ≤ bytes.length := Nat.min_le_right _ _
    show k + t.count ≤ bytes.length ∧ (t.stop = none → k + t.count = bytes.length)
    obtain ⟨hle, hall⟩ := ih
    dsimp only at hle hall
    refine ⟨by omega, fun h => ?_⟩
    have := hall h
    omega
  | case4 bytes s h0 f d call => exact ⟨Nat.zero_le _, fun h => by cases h⟩

theorem writeDirect_path (bytes : Bytes) (w : s.writing = true) :
    Path false s [] (bytes.take (s.writeDirect bytes).1.count) (s.writeDirect bytes).2 := by
  have h : Path false s [] [] s.drain.2 := drain_path w
  unfold writeDirect
  rcases hd : s.drain with ⟨_ | _, u⟩
  · rw [hd] at h
    exact h
  · rw [hd] at h
    dsimp only
    have hu : u.writing = true := h.writing.trans w
    cases able : u.abilities.write with
    | false =>
      rw [if_neg (by simp)]
      exact h.snoc_fail
    | true =>
      rw [if_pos rfl]
      exact h.trans (push_path bytes u hu able (drain_ok hd))

theorem writeDirect_count (bytes : Bytes) (s : Stream δ) :
    (s.writeDirect bytes).1.count ≤ bytes.length ∧
      ((s.writeDirect bytes).1.stop = none → (s.writeDirect bytes).1.count = bytes.length) := by
  unfold writeDirect
  rcases s.drain with ⟨_ | _, u⟩
  · exact ⟨Nat.zero_le _, fun h => by cases h⟩
  · dsimp only
    split
    · exact push_count bytes u
    · exact ⟨Nat.zero_le _, fun h => by cases h⟩

theorem makeSpace_path (w : s.writing = true) : Path false s [] [] s.makeSpace.2 := by
  unfold makeSpace
  split
  · exact drain_path w
  · exact .refl _ _

theorem stow_path (bytes : Bytes) (s : Stream δ) (w : s.writing = true) :
    Path false s [] (bytes.take (s.stow bytes).1.count) (s.stow bytes).2 := by
  fun_induction stow bytes s with
  | case1 bytes s h0 => exact .refl _ _
  | case2 bytes s h0 f u hm =>
    have h := makeSpace_path w
    rw [hm] at h
    exact h
  | case3 bytes s h0 u hm full =>
    have h := makeSpace_path w
    rw [hm] at h
    exact h
  | case4 bytes s h0 u hm full k t v hv ih =>
    have h := makeSpace_path w
    rw [hm] at h
    have hu : u.writing = true := h.writing.trans w
    have h' := (h.trans (Step.stored bytes hu (Nat.pos_of_ne_zero full)).path).trans (ih hu)
    rw [hv] at h'
    have hk : bytes.take u.buffer.space = bytes.take k := by
      rw [List.take_eq_take_min, Nat.min_comm]
    simp only [List.nil_append] at h'
    rw [hk, ← List.take_add] at h'
    exact h'

theorem writeLines_path (bytes : Bytes) (w : s.writing = true) :
    Path false s [] (bytes.take (s.writeLines bytes).1.count) (s.writeLines bytes).2 := by
  unfold writeLines
  rcases hb : splitLastLine? bytes with _ | ⟨lines, tail⟩
  · exact stow_path bytes s w
  · have hl := splitLastLine?_eq_some hb
    have h := writeDirect_path lines w
    obtain ⟨hle, hall⟩ := writeDirect_count lines s
    dsimp only
    rcases hd : s.writeDirect lines with ⟨⟨count, _ | f⟩, u⟩
    · rw [hd] at h hle hall
      have hc : count = lines.length := hall rfl
      have h' := h.trans (stow_path tail u (h.writing.trans w))
      have ht : bytes.take (count + (u.stow tail).1.count) =
          lines.take count ++ tail.take (u.stow tail).1.count := by
        rw [← hl, hc, List.take_length_add_append, List.take_length]
      rw [← ht] at h'
      exact h'
    · rw [hd] at h hle
      have ht : bytes.take count = lines.take count := by
        rw [← hl, List.take_append_of_le_length hle]
      dsimp only
      rw [ht]
      exact h

/-- was the write stuck in the turn, as the device refused to move? -/
def Stuck (bytes : Bytes) (s : Stream δ) : Prop :=
  ∃ f d, s.emit bytes = ({ stop := some f }, { s with device := d }.fail) ∧ s.writing = false

/-- a write to a stream that writes already -/
theorem emit_writing_path (bytes : Bytes) (w : s.writing = true) :
    Path false s [] (bytes.take (s.emit bytes).1.count) (s.emit bytes).2 := by
  rw [emit, turnToWrite_writing w]
  dsimp only
  split
  · exact writeDirect_path bytes w
  · exact stow_path bytes s w
  · exact writeLines_path bytes w

/-- a write is one path, which leaps only if it turns the stream or is stuck -/
theorem emit_path (bytes : Bytes) (s : Stream δ) :
    Path true s [] (bytes.take (s.emit bytes).1.count) (s.emit bytes).2 ∧
      (s.Stuck bytes ∨
        Path (s.turns (s.emit bytes).2) s [] (bytes.take (s.emit bytes).1.count)
          (s.emit bytes).2) := by
  rcases turnToWrite_cases s with ⟨f, d, ht, r, h⟩ | ⟨u, ht, w, h⟩
  · have hi : s.emit bytes = ({ stop := some f }, { s with device := d }.fail) := by
      rw [emit, ht]
    refine ⟨?_, .inl ⟨f, d, hi, r⟩⟩
    rw [hi]
    exact h
  · -- from the turn on the write is one to a stream that writes already
    have hi : s.emit bytes = u.emit bytes := by
      rw [emit, ht, emit, turnToWrite_writing w]
    have h' : Path false u _ _ _ := emit_writing_path bytes w
    rw [hi]
    have hb : s.turns (u.emit bytes).2 = !s.writing := by
      rw [turns, h'.writing, w]
      cases s.writing <;> rfl
    refine ⟨h.to_true.trans h'.to_true, .inr ?_⟩
    rw [hb]
    exact h.trans h'.loose

theorem write_path (bytes : Bytes) (s : Stream δ) :
    Path true s [] (bytes.take (s.emit bytes).1.count) (s.write bytes).2 := by
  unfold write
  split
  · next h =>
    rw [List.isEmpty_iff.mp h, List.take_nil]
    exact .refl _ _
  · exact (emit_path bytes s).1

theorem writeAll_snd (bytes : Bytes) (s : Stream δ) : (s.writeAll bytes).2 = (s.emit bytes).2 := by
  unfold writeAll
  dsimp only
  split <;> rfl

theorem writeAll_path (bytes : Bytes) (s : Stream δ) :
    Path true s [] (bytes.take (s.emit bytes).1.count) (s.writeAll bytes).2 := by
  rw [writeAll_snd]
  exact (emit_path bytes s).1

/-! ## lines -/

/-- collecting a line is peeks and skips, and keeps what they keep -/
theorem collect_keeps {P : Stream δ → Prop} (peek : ∀ s : Stream δ, P s → P s.peek.2)
    (skip : ∀ (n : Nat) (s : Stream δ), P s → P (s.skip n).2) (room : Option Nat) (size : Nat)
    (s : Stream δ) (done : Stream Memory) (h : P s) : P (s.collect room size done).2.2 := by
  have peeked : ∀ {s u : Stream δ} {r : Except Fault Bytes}, s.peek = (r, u) → P s → P u := by
    intro s u r hp h
    have kept := peek s h
    rwa [hp] at kept
  have skipped : ∀ {s u : Stream δ} {q : Except Fault Unit} {n : Nat}, s.skip n = (q, u) →
      P s → P u := by
    intro s u q n hk h
    have kept := skip n s h
    rwa [hk] at kept
  fun_induction collect room size s done with
  | case1 => exact h
  | case2 _ _ _ _ _ _ _ hp => exact peeked hp h
  | case3 _ _ _ _ _ _ _ hp => exact peeked hp h
  | case4 _ _ _ _ _ _ _ hp => exact peeked hp h
  | case5 _ _ _ _ _ _ _ hp => exact peeked hp h
  | case6 _ _ _ _ _ _ _ hp _ _ _ _ _ _ _ hk => exact skipped hk (peeked hp h)
  | case7 _ _ _ _ _ _ _ hp _ _ _ _ _ _ hk => exact skipped hk (peeked hp h)
  | case8 _ _ _ _ _ _ _ hp _ _ _ _ _ _ hk _ ih => exact ih (skipped hk (peeked hp h))

theorem collect_path (room : Option Nat) (size : Nat) (s : Stream δ) (done : Stream Memory) :
    Path true s [] [] (s.collect room size done).2.2 := by
  refine collect_keeps (P := fun u => Path true s [] [] u) ?_ ?_ room size s done (.refl _ _)
  · intro u h
    exact h.snoc (peek_path u)
  · intro n u h
    exact h.snoc (skip_path n u)

/-- the pieces go to the scratch stream on a path of its own -/
theorem collect_scratch_path (room : Option Nat) (size : Nat) (s : Stream δ)
    (done : Stream Memory) : ∃ t, Path true done [] t (s.collect room size done).2.1 := by
  have written : ∀ {done done' : Stream Memory} {bytes : Bytes} {r : Except Fault Unit},
      done.writeAll bytes = (r, done') → ∃ t, Path true done [] t done' := by
    intro done done' bytes r hw
    have h := writeAll_path bytes done
    rw [hw] at h
    exact ⟨_, h⟩
  fun_induction collect room size s done with
  | case1 | case2 | case3 | case4 => exact ⟨[], .refl _ _⟩
  | case5 _ _ _ _ _ _ _ _ _ _ _ _ _ hw => exact written hw
  | case6 _ _ _ _ _ _ _ _ _ _ _ _ hw => exact written hw
  | case7 _ _ _ _ _ _ _ _ _ _ _ _ hw => exact written hw
  | case8 _ _ _ _ _ _ _ _ _ _ _ _ hw _ _ _ ih =>
    obtain ⟨t, first⟩ := written hw
    obtain ⟨t', rest⟩ := ih
    exact ⟨_, first.trans rest⟩

theorem readFully_path (n : Nat) (s : Stream δ) (sound : s.Sound) :
    ∃ g, Path true s g [] (s.readFully n).2 := by
  have got : ∀ {s u : Stream δ} {n : Nat} {r : Except Fault Bytes}, s.Sound → s.read n = (r, u) →
      ∃ g, Path true s g [] u := by
    intro s u n r sound hr
    have h := (read_path n sound).to_true
    rw [hr] at h
    exact ⟨_, h⟩
  fun_induction readFully n s with
  | case1 s => exact ⟨[], .refl _ _⟩
  | case2 n s hn f u hr => exact got sound hr
  | case3 n s hn u hr => exact got sound hr
  | case4 n s hn b bytes u hr r v hv ih =>
    obtain ⟨g, first⟩ := got sound hr
    obtain ⟨g', rest⟩ := ih (first.sound sound)
    rw [hv] at rest
    exact ⟨_, first.trans rest⟩

/-- reading a line back ends with a close, which is on no path -/
theorem readBack_turnover (n : Nat) (done : Stream Memory) (sound : done.Sound) :
    (done.readBack n).2.turnover = done.turnover := by
  have start : Path true done [] [] (done.seek 0 .start).2 := seek_path 0 .start
  unfold readBack
  rcases hs : done.seek 0 .start with ⟨_ | _, u⟩ <;> rw [hs] at start
  · exact start.turnover
  · obtain ⟨g, fully⟩ := readFully_path n u (start.sound sound)
    dsimp only
    rcases hr : u.readFully n with ⟨_ | _, v⟩ <;> rw [hr] at fully
    · exact (start.trans fully).turnover
    · exact (close_turnover v).trans (start.trans fully).turnover

/-- once a line is collected the stream that it came from changes in its marks and counters only, and
the scratch stream adds no coming or going to these -/
theorem nextLine_noted (limit : Nat) (s : Stream δ) :
    ∃ m c, (s.nextLine limit).2 =
        { (s.collect (lineRoom limit) 0 scratch).2.2 with marks := m, tally := c } ∧
      (s.collect (lineRoom limit) 0 scratch).2.2.marks.Upto m ∧
      c.turnover = (s.collect (lineRoom limit) 0 scratch).2.2.turnover := by
  obtain ⟨t, path⟩ := collect_scratch_path (lineRoom limit) 0 s scratch
  have gathered : (s.collect (lineRoom limit) 0 scratch).2.1.turnover = (0, 0) := path.turnover
  have sound := path.sound (ofDevice_sound _ _ _)
  unfold nextLine
  rcases hc : s.collect (lineRoom limit) 0 scratch with ⟨f | size, done, u⟩ <;>
    rw [hc] at gathered sound
  · exact ⟨u.marks, _, rfl, Marks.upto_refl _, Tally.turnover_add _ gathered⟩
  · dsimp only
    split
    · split
      · exact ⟨u.marks, u.tally, rfl, Marks.upto_refl _, rfl⟩
      · exact ⟨{ u.marks with eof := true }, u.tally, rfl, ⟨fun _ => rfl, id⟩, rfl⟩
    · have back := (readBack_turnover size done sound).trans gathered
      exact ⟨u.marks, _, rfl, Marks.upto_refl _, Tally.turnover_add _ back⟩

theorem readLine_noted (limit : Nat) (line : Bytes) (s : Stream δ) :
    ∃ m c, (s.readLine limit line).2.2 =
        { (s.collect (lineRoom limit) 0 scratch).2.2 with marks := m, tally := c } ∧
      (s.collect (lineRoom limit) 0 scratch).2.2.marks.Upto m ∧
      c.turnover = (s.collect (lineRoom limit) 0 scratch).2.2.turnover := by
  obtain ⟨m, c, next, upto, kept⟩ := nextLine_noted limit s
  unfold readLine
  rcases hn : s.nextLine limit with ⟨f | bytes, u⟩
  · rw [hn] at next
    obtain rfl : u = _ := next
    exact ⟨{ m with err := true }, c, rfl, ⟨upto.1, fun _ => rfl⟩, kept⟩
  · rw [hn] at next
    exact ⟨m, c, next, upto, kept⟩

theorem readLine_path (limit : Nat) (line : Bytes) (s : Stream δ) :
    Path true s [] [] (s.readLine limit line).2.2 := by
  obtain ⟨m, c, noted, upto, kept⟩ := readLine_noted limit line s
  rw [noted]
  exact (collect_path (lineRoom limit) 0 s scratch).snoc_noted m c upto kept

end BufferedStreams.Stream
