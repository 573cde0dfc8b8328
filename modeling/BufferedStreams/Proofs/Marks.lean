import BufferedStreams.Device.Script
import BufferedStreams.Proofs.ShortTransfer

/-!
# When marks come and go

A mark that is set stays until the user asks for a new start.  The error mark goes when a stream is
moved, the end mark also when bytes are pushed back, and neither goes in a move that a stream makes on
its own, as it turns from reading to writing.  And every call that fails leaves the error mark, but for
a skip.

* `Path.upto`          a path without leaps takes no mark back;
* `turnToWrite_upto`   nor does a turn, whose move of the device is not one the user asked for;
* `intake_err`, `emit_err`  a transfer that was stopped leaves the error mark, whichever layer stopped it;
* `Op.fault?`          the failure that an operation answers with;
* `Op.upto`, `Op.err`  what every operation does to the marks;
* `marks_stay`         the same for every operation on any stream that was used in any way.
-/

namespace BufferedStreams

theorem Marks.Upto.trans {m m' m'' : Marks} (h : m.Upto m') (h' : m'.Upto m'') : m.Upto m'' :=
  ⟨fun eof => h'.1 (h.1 eof), fun err => h'.2 (h.2 err)⟩

namespace Stream

variable {δ : Type} [Device δ] {s s' : Stream δ} {g t : Bytes} {f : Fault}

/-! ## what takes no mark back -/

theorem Step.upto (h : Step s g t s') : s.marks.Upto s'.marks := by
  cases h with
  | noted m c upto => exact upto
  | cleared =>
    rw [syncAppend_marks]
    exact Marks.upto_refl _
  | synced =>
    rw [syncAppend_marks]
    exact Marks.upto_refl _
  | _ => exact Marks.upto_refl _

theorem Path.upto (h : Path false s g t s') : s.marks.Upto s'.marks := by
  generalize hf : false = leaps at h
  induction h with
  | refl => exact Marks.upto_refl _
  | step h _ ih => exact h.upto.trans (ih hf)
  | leap => exact absurd hf (by simp)

theorem turnToRead_upto (s : Stream δ) : s.marks.Upto s.turnToRead.2.marks := by
  rcases turnToRead_cases s with ⟨e, u, ht, -, path⟩ | ⟨u, ht, -, -⟩
  · rw [ht]
    exact path.upto
  · rw [ht, turnToRead_marks ht]
    exact Marks.upto_refl _

theorem turnToWrite_upto (s : Stream δ) : s.marks.Upto s.turnToWrite.2.marks := by
  rcases turnToWrite_cases s with ⟨e, d, ht, -, -⟩ | ⟨u, ht, -, -⟩
  · rw [ht]
    exact ⟨id, fun _ => rfl⟩
  · rw [ht, turnToWrite_marks ht]
    exact Marks.upto_refl _

/-- an operation that turns the stream first takes no mark back if it takes none back on a stream that
reads already -/
theorem TurnsFirst.upto {F : Stream δ → Stream δ} (h : TurnsFirst F)
    (reading : ∀ s : Stream δ, s.writing = false → s.Sound → s.marks.Upto (F s).marks)
    (sound : s.Sound) : s.marks.Upto (F s).marks := by
  have turn := turnToRead_upto s
  rcases h.cases s with ⟨e, u, ht, -, same⟩ | ⟨u, ht, r, path, same⟩
  · rw [same]
    rwa [ht] at turn
  · rw [same]
    rw [ht] at turn
    exact turn.trans (reading u r (path.sound sound))

theorem intake_upto (n : Nat) (sound : s.Sound) : s.marks.Upto (s.intake n).2.marks :=
  (intake_turnsFirst n).upto (fun _ r sound => (intake_reading_path n r sound.buffer).upto) sound

theorem read_upto (n : Nat) (sound : s.Sound) : s.marks.Upto (s.read n).2.marks := by
  unfold read
  split
  · exact Marks.upto_refl _
  · exact intake_upto n sound

theorem peek_upto (sound : s.Sound) : s.marks.Upto s.peek.2.marks :=
  peek_turnsFirst.upto (fun _ r _ => (peek_reading_path r).upto) sound

omit [Device δ] in
@[simp] theorem skip_marks (n : Nat) (s : Stream δ) : (s.skip n).2.marks = s.marks := by
  unfold skip
  split
  · rfl
  · rcases skipped n s.buffer with _ | b <;> rfl

theorem emit_upto (bytes : Bytes) (s : Stream δ) : s.marks.Upto (s.emit bytes).2.marks := by
  have turn := turnToWrite_upto s
  rcases turnToWrite_cases s with ⟨e, d, ht, -, -⟩ | ⟨u, ht, w, -⟩
  · rw [emit, ht]
    rwa [ht] at turn
  · have same : s.emit bytes = u.emit bytes := by
      rw [emit, ht, emit, turnToWrite_writing w]
    rw [same]
    rw [ht] at turn
    exact turn.trans (emit_writing_path bytes w).upto

theorem write_upto (bytes : Bytes) (s : Stream δ) : s.marks.Upto (s.write bytes).2.marks := by
  unfold write
  split
  · exact Marks.upto_refl _
  · exact emit_upto bytes s

theorem collect_upto (room : Option Nat) (size : Nat) (s : Stream δ) (done : Stream Memory)
    (sound : s.Sound) : s.marks.Upto (s.collect room size done).2.2.marks := by
  have kept := collect_keeps (P := fun u => u.Sound ∧ s.marks.Upto u.marks) ?_ ?_ room size s done
    ⟨sound, Marks.upto_refl _⟩
  · exact kept.2
  · intro u ⟨sound, upto⟩
    exact ⟨(peek_path u).sound sound, upto.trans (peek_upto sound)⟩
  · intro n u ⟨sound, upto⟩
    refine ⟨(skip_path n u).sound sound, ?_⟩
    rw [skip_marks]
    exact upto

theorem readLine_upto (limit : Nat) (line : Bytes) (sound : s.Sound) :
    s.marks.Upto (s.readLine limit line).2.2.marks := by
  obtain ⟨m, c, noted, upto, -⟩ := readLine_noted limit line s
  rw [noted]
  exact (collect_upto (lineRoom limit) 0 s scratch sound).trans upto

/-- bytes pushed back leave the error mark -/
theorem unread_err (bytes : Bytes) (h : s.marks.err = true) :
    (s.unread bytes).2.marks.err = true := by
  have turn := (turnToRead_upto s).2 h
  unfold unread
  rcases ht : s.turnToRead with ⟨e | _, u⟩
  · rw [ht] at turn
    exact turn
  · rw [ht] at turn
    dsimp only
    split <;> exact turn

/-- and the end mark, if there are none -/
theorem unread_upto {bytes : Bytes} (none : ∀ n, (s.unread bytes).1 = .ok n → n = 0) :
    s.marks.Upto (s.unread bytes).2.marks := by
  have turn := turnToRead_upto s
  unfold unread at none ⊢
  rcases ht : s.turnToRead with ⟨e | _, u⟩
  · rw [ht] at turn
    exact turn
  · rw [ht] at turn none
    dsimp only at none ⊢
    rw [if_pos (none _ rfl)]
    exact turn

/-! ## what leaves the error mark -/

theorem notify_err (h : s.notify = (.error f, s')) : s'.marks.err = true := by
  unfold notify at h
  split at h <;> cases h
  rfl

theorem drain_err (h : s.drain = (.error f, s')) : s'.marks.err = true := by
  induction s using drain_induct with
  | idle s h0 =>
    rw [drain_idle h0] at h
    cases h
  | lacking s h0 able =>
    rw [drain_lacking h0 able] at h
    cases h
    rfl
  | refused s r d h0 able call none =>
    rw [drain_refusal h0 able call none] at h
    cases h
    rfl
  | part s n d able call n_pos hlt ih => exact ih (drain_part able call n_pos hlt ▸ h)
  | all s n d able call some hle =>
    rw [drain_all able call some hle] at h
    exact notify_err h

theorem flush_err (h : s.flush = (.error f, s')) : s'.marks.err = true := by
  unfold flush at h
  split at h
  · exact drain_err h
  · cases h

theorem setStrategy_err {b : Buffering} (h : s.setStrategy b = (.error f, s')) :
    s'.marks.err = true := by
  unfold setStrategy at h
  rcases hf : s.flush with ⟨e | _, u⟩
  · rw [hf] at h
    cases h
    exact flush_err hf
  · rw [hf] at h
    cases h

theorem turnToRead_err (h : s.turnToRead = (.error f, s')) : s'.marks.err = true := by
  unfold turnToRead at h
  split at h
  · rcases hd : s.drain with ⟨e | _, u⟩
    · rw [hd] at h
      cases h
      exact drain_err hd
    · rw [hd] at h
      cases h
  · cases h

theorem turnToWrite_err (h : s.turnToWrite = (.error f, s')) : s'.marks.err = true := by
  rcases turnToWrite_cases s with ⟨e, d, ht, -, -⟩ | ⟨u, ht, -, -⟩
  · rw [ht] at h
    cases h
    rfl
  · rw [ht] at h
    cases h

theorem fill_err (h : s.fill = (.error f, s')) : s'.marks.err = true := by
  unfold fill at h
  dsimp only at h
  split at h
  · split at h
    · cases h
    · cases h
      rfl
  · cases h
    rfl

theorem stock_err (h : s.stock = (.error f, s')) : s'.marks.err = true := by
  unfold stock at h
  split at h
  · exact fill_err h
  · cases h

theorem pull_err (n : Nat) (s : Stream δ) (h : (s.pull n).1.stop = some f) :
    (s.pull n).2.marks.err = true := by
  fun_induction pull n s with
  | case1 s => cases h
  | case2 n s hn bytes d call => cases h
  | case3 n s hn bytes c d call k t u hp ih =>
    rw [hp] at ih
    exact ih h
  | case4 n s hn e d call => rfl

theorem readDirect_err {n : Nat} (h : (s.readDirect n).1.stop = some f) :
    (s.readDirect n).2.marks.err = true := by
  unfold readDirect at h ⊢
  dsimp only at h ⊢
  split at h
  · cases h
  · next short =>
    rw [if_neg short]
    split at h
    · next able =>
      rw [if_pos able]
      exact pull_err _ _ h
    · next unable =>
      rw [if_neg unable]
      rfl

theorem readStocked_err (n : Nat) (s : Stream δ) (h : (s.readStocked n).1.stop = some f) :
    (s.readStocked n).2.marks.err = true := by
  fun_induction readStocked n s with
  | case1 s => cases h
  | case2 n s hn e u hs => exact stock_err hs
  | case3 n s hn u hs dry => cases h
  | case4 n s hn u hs full k t v hv ih =>
    rw [hv] at ih
    exact ih h

theorem intake_err {n : Nat} (h : (s.intake n).1.stop = some f) :
    (s.intake n).2.marks.err = true := by
  unfold intake at h ⊢
  rcases ht : s.turnToRead with ⟨e | _, u⟩
  · exact turnToRead_err ht
  · rw [ht] at h
    dsimp only at h ⊢
    split at h
    · cases h
    · next short =>
      rw [if_neg short]
      split at h
      · next direct =>
        rw [if_pos direct]
        exact readDirect_err h
      · next stocked =>
        rw [if_neg stocked]
        exact readStocked_err _ _ h

theorem read_err {n : Nat} (h : s.read n = (.error f, s')) : s'.marks.err = true := by
  by_cases none : n = 0
  · rw [read, if_pos none] at h
    cases h
  · rw [read_eq none] at h
    obtain ⟨failed, rfl⟩ := Prod.mk.inj h
    exact intake_err (Intake.result_error failed).2

theorem peek_err (h : s.peek = (.error f, s')) : s'.marks.err = true := by
  unfold peek at h
  rcases ht : s.turnToRead with ⟨e | _, u⟩
  · rw [ht] at h
    cases h
    exact turnToRead_err ht
  · rw [ht] at h
    dsimp only at h
    split at h
    · cases h
    · rcases hs : u.stock with ⟨e | _, v⟩
      · rw [hs] at h
        cases h
        exact stock_err hs
      · rw [hs] at h
        cases h

theorem unread_failed {bytes : Bytes} (h : s.unread bytes = (.error f, s')) :
    s'.marks.err = true := by
  unfold unread at h
  rcases ht : s.turnToRead with ⟨e | _, u⟩
  · rw [ht] at h
    cases h
    exact turnToRead_err ht
  · rw [ht] at h
    cases h

theorem push_err (bytes : Bytes) (s : Stream δ) (h : (s.push bytes).1.stop = some f) :
    (s.push bytes).2.marks.err = true := by
  fun_induction push bytes s with
  | case1 bytes s h0 => cases h
  | case2 bytes s h0 d call => rfl
  | case3 bytes s h0 n d call k t u hp ih =>
    rw [hp] at ih
    exact ih h
  | case4 bytes s h0 e d call => rfl

theorem writeDirect_err {bytes : Bytes} (h : (s.writeDirect bytes).1.stop = some f) :
    (s.writeDirect bytes).2.marks.err = true := by
  unfold writeDirect at h ⊢
  rcases hd : s.drain with ⟨e | _, u⟩
  · exact drain_err hd
  · rw [hd] at h
    dsimp only at h ⊢
    split at h
    · next able =>
      rw [if_pos able]
      exact push_err bytes u h
    · next unable =>
      rw [if_neg unable]
      rfl

theorem makeSpace_err (h : s.makeSpace = (.error f, s')) : s'.marks.err = true := by
  unfold makeSpace at h
  split at h
  · exact drain_err h
  · cases h

theorem stow_err (bytes : Bytes) (s : Stream δ) (h : (s.stow bytes).1.stop = some f) :
    (s.stow bytes).2.marks.err = true := by
  fun_induction stow bytes s with
  | case1 bytes s h0 => cases h
  | case2 bytes s h0 e u hm => exact makeSpace_err hm
  | case3 bytes s h0 u hm full => cases h
  | case4 bytes s h0 u hm full k t v hv ih =>
    rw [hv] at ih
    exact ih h

theorem writeLines_err {bytes : Bytes} (h : (s.writeLines bytes).1.stop = some f) :
    (s.writeLines bytes).2.marks.err = true := by
  unfold writeLines at h ⊢
  rcases hb : splitLastLine? bytes with _ | ⟨lines, tail⟩
  · rw [hb] at h
    exact stow_err bytes s h
  · rw [hb] at h
    have direct : ∀ e, (s.writeDirect lines).1.stop = some e →
        (s.writeDirect lines).2.marks.err = true := fun e => writeDirect_err
    dsimp only at h ⊢
    rcases hd : s.writeDirect lines with ⟨⟨count, _ | e⟩, u⟩
    · rw [hd] at h
      exact stow_err tail u h
    · rw [hd] at direct
      exact direct e rfl

theorem emit_err {bytes : Bytes} (h : (s.emit bytes).1.stop = some f) :
    (s.emit bytes).2.marks.err = true := by
  unfold emit at h ⊢
  rcases ht : s.turnToWrite with ⟨e | _, u⟩
  · exact turnToWrite_err ht
  · rw [ht] at h
    dsimp only at h ⊢
    cases hs : u.strategy with
    | direct =>
      rw [hs] at h
      exact writeDirect_err h
    | full =>
      rw [hs] at h
      exact stow_err bytes u h
    | line =>
      rw [hs] at h
      exact writeLines_err h

theorem write_err {bytes : Bytes} (h : s.write bytes = (.error f, s')) : s'.marks.err = true := by
  unfold write at h
  split at h
  · cases h
  · obtain ⟨failed, rfl⟩ := Prod.mk.inj h
    exact emit_err (Outcome.result_eq_error.mp failed).2

theorem writeAll_err {bytes : Bytes} (sound : s.Sound) (h : s.writeAll bytes = (.error f, s')) :
    s'.marks.err = true := by
  have left := writeAll_snd bytes s
  have stopped := (writeAll_error bytes sound).mp (congrArg Prod.fst h)
  rw [h] at left
  rw [show s' = (s.emit bytes).2 from left]
  exact emit_err stopped

theorem seek_err {off : Int} {w : Whence} (h : s.seek off w = (.error f, s')) :
    s'.marks.err = true := by
  unfold seek at h
  split at h
  · rcases ht : s.turnToRead with ⟨e | _, u⟩
    · rw [ht] at h
      cases h
      exact turnToRead_err ht
    · rw [ht] at h
      dsimp only at h
      split at h
      · cases h
      · cases h
        rfl
  · cases h
    rfl

theorem readLine_err {limit : Nat} {line line' : Bytes}
    (h : s.readLine limit line = (.error f, line', s')) : s'.marks.err = true := by
  unfold readLine at h
  split at h
  · cases h
  · cases h
    rfl

/-! ## a move that the user asked for -/

theorem seek_upto {off : Int} {w : Whence} (h : s.seek off w = (.error f, s')) :
    s.marks.Upto s'.marks := by
  have turn := turnToRead_upto s
  unfold seek at h
  split at h
  · rcases ht : s.turnToRead with ⟨e | _, u⟩
    · rw [ht] at h turn
      cases h
      exact turn
    · rw [ht] at h turn
      have moved := moveDevice_marks (s := u) off w
      dsimp only at h
      split at h
      · cases h
      · next e v hm =>
        rw [hm] at moved
        cases h
        refine turn.trans ⟨?_, fun _ => rfl⟩
        intro eof
        exact (congrArg Marks.eof moved).trans eof
  · cases h
    exact ⟨id, fun _ => rfl⟩

theorem seek_clears {off : Int} {w : Whence} {pos : Nat} (h : s.seek off w = (.ok pos, s')) :
    s'.marks = {} := by
  unfold seek at h
  split at h
  · split at h
    · cases h
    · split at h
      · cases h
        rfl
      · cases h
  · cases h

theorem rewind_clears (h : s.rewind = (.ok (), s')) : s'.marks = {} := by
  unfold rewind at h
  split at h
  · cases h
    rfl
  · cases h

theorem rewind_error (h : s.rewind = (.error f, s')) : s.seek 0 .start = (.error f, s') := by
  unfold rewind at h
  split at h
  · cases h
  · next e u hs =>
    cases h
    exact hs

theorem unread_clears {bytes : Bytes} {n : Nat} (h : s.unread bytes = (.ok n, s')) (some : 0 < n) :
    s'.marks.eof = false := by
  unfold unread at h
  rcases ht : s.turnToRead with ⟨e | _, u⟩
  · rw [ht] at h
    cases h
  · rw [ht] at h
    dsimp only at h
    obtain ⟨count, rfl⟩ := Prod.mk.inj h
    rw [Except.ok.inj count, if_neg (Nat.ne_of_gt some)]

end Stream

/-! ## every operation -/

/-- the failure that an answer tells of -/
def failure? {α : Type} : Except Fault α → Option Fault
  | .ok _ => none
  | .error f => some f

theorem failure?_eq_some {α : Type} {r : Except Fault α} {f : Fault} :
    failure? r = some f ↔ r = .error f := by
  cases r with
  | ok a => simp [failure?]
  | error e => simp [failure?]

theorem failure?_eq_none {α : Type} {r : Except Fault α} : failure? r = none ↔ ∃ a, r = .ok a := by
  cases r with
  | ok a => simp [failure?]
  | error e => simp [failure?]

theorem failure?_map {α β : Type} (f : α → β) (r : Except Fault α) :
    failure? (r.map f) = failure? r := by
  cases r <;> rfl

namespace Op

variable {δ : Type} [Device δ]

/-- is it the user who moves the stream? -/
def moves : Op → Bool
  | seek _ _ | rewind => true
  | _ => false

/-- the failure that the user is told of -/
def fault? (s : Stream δ) : Op → Option Fault
  | read n => failure? (s.read n).1
  | getc => failure? s.getc.1
  | peek => failure? s.peek.1
  | skip n => failure? (s.skip n).1
  | unread bytes => failure? (s.unread bytes).1
  | readLine limit line => failure? (s.readLine limit line).1
  | write bytes => failure? (s.write bytes).1
  | writeAll bytes => failure? (s.writeAll bytes).1
  | putc byte => failure? (s.putc byte).1
  | seek off w => failure? (s.seek off w).1
  | rewind => failure? s.rewind.1
  | flush => failure? s.flush.1
  | setStrategy b => failure? (s.setStrategy b).1

/-- the user moves the stream, and that goes well -/
def Restarts (s : Stream δ) (op : Op) : Prop := op.moves = true ∧ op.fault? s = none

/-- how many bytes it pushes back -/
def pushedBack (s : Stream δ) : Op → Nat
  | unread bytes => (s.unread bytes).1.toOption.getD 0
  | _ => 0

end Op

namespace Stream

variable {δ : Type} [Device δ] {s : Stream δ} {f : Fault}

/-- the user is told of no failure that the error mark does not tell of, but for a refused skip -/
theorem Op.err {op : Op} (sound : s.Sound) (h : op.fault? s = some f) (kept : ∀ n, op ≠ .skip n) :
    (op.run s).marks.err = true := by
  cases op with
  | read n => exact read_err (Prod.ext (failure?_eq_some.mp h) rfl)
  | getc =>
    have failed : failure? (s.read 1).1 = some f := (failure?_map _ _).symm.trans h
    exact read_err (Prod.ext (failure?_eq_some.mp failed) rfl)
  | peek => exact peek_err (Prod.ext (failure?_eq_some.mp h) rfl)
  | skip n => exact absurd rfl (kept n)
  | unread bytes => exact unread_failed (Prod.ext (failure?_eq_some.mp h) rfl)
  -- a line may fail for want of memory, which no device reports; the line itself sets the mark
  | readLine limit line => exact readLine_err (Prod.ext (failure?_eq_some.mp h) rfl)
  | write bytes => exact write_err (Prod.ext (failure?_eq_some.mp h) rfl)
  | writeAll bytes => exact writeAll_err sound (Prod.ext (failure?_eq_some.mp h) rfl)
  | putc byte => exact writeAll_err sound (Prod.ext (failure?_eq_some.mp h) rfl)
  | seek off w => exact seek_err (Prod.ext (failure?_eq_some.mp h) rfl)
  | rewind => exact seek_err (rewind_error (Prod.ext (failure?_eq_some.mp h) rfl))
  | flush => exact flush_err (Prod.ext (failure?_eq_some.mp h) rfl)
  | setStrategy b => exact setStrategy_err (Prod.ext (failure?_eq_some.mp h) rfl)

/-- an operation takes a mark back only if the user moves the stream or pushes bytes back -/
theorem Op.upto {op : Op} (sound : s.Sound) (stays : ¬ op.Restarts s)
    (none : op.pushedBack s = 0) : s.marks.Upto (op.run s).marks := by
  cases op with
  | read n => exact read_upto n sound
  | getc => exact read_upto 1 sound
  | peek => exact peek_upto sound
  | skip n =>
    show s.marks.Upto (s.skip n).2.marks
    rw [skip_marks]
    exact Marks.upto_refl _
  | unread bytes =>
    apply unread_upto
    intro n count
    have pushed : (s.unread bytes).1.toOption.getD 0 = 0 := none
    rw [count] at pushed
    exact pushed
  | readLine limit line => exact readLine_upto limit line sound
  | write bytes => exact write_upto bytes s
  | writeAll bytes =>
    show s.marks.Upto (s.writeAll bytes).2.marks
    rw [writeAll_snd]
    exact emit_upto bytes s
  | putc byte =>
    show s.marks.Upto (s.writeAll [byte]).2.marks
    rw [writeAll_snd]
    exact emit_upto [byte] s
  | seek off w =>
    obtain ⟨e, failed⟩ := Option.ne_none_iff_exists'.mp fun ok => stays ⟨rfl, ok⟩
    exact seek_upto (Prod.ext (failure?_eq_some.mp failed) rfl)
  | rewind =>
    obtain ⟨e, failed⟩ := Option.ne_none_iff_exists'.mp fun ok => stays ⟨rfl, ok⟩
    exact seek_upto (rewind_error (Prod.ext (failure?_eq_some.mp failed) rfl))
  | flush => exact (flush_path : Path false s [] [] _).upto
  | setStrategy b => exact (setStrategy_path b : Path false s [] [] _).upto

/-- the error mark goes only if the user moves the stream -/
theorem Op.err_stays {op : Op} (sound : s.Sound) (stays : ¬ op.Restarts s)
    (h : s.marks.err = true) : (op.run s).marks.err = true := by
  by_cases none : op.pushedBack s = 0
  · exact (Op.upto sound stays none).2 h
  · -- bytes pushed back take the end mark back, and no other
    cases op with
    | unread bytes => exact unread_err bytes h
    | _ => exact absurd rfl none

theorem Op.clears {op : Op} (restarts : op.Restarts s) : (op.run s).marks = {} := by
  obtain ⟨moves, ok⟩ := restarts
  cases op with
  | seek off w =>
    obtain ⟨pos, h⟩ := failure?_eq_none.mp ok
    exact seek_clears (Prod.ext h rfl)
  | rewind =>
    obtain ⟨_, h⟩ := failure?_eq_none.mp ok
    exact rewind_clears (Prod.ext h rfl)
  | _ => cases moves

theorem Op.pushedBack_clears {op : Op} (some : 0 < op.pushedBack s) :
    (op.run s).marks.eof = false := by
  cases op with
  | unread bytes =>
    have some : 0 < (s.unread bytes).1.toOption.getD 0 := some
    show (s.unread bytes).2.marks.eof = false
    rcases h : s.unread bytes with ⟨e | n, s'⟩
    · rw [h] at some
      exact absurd some (Nat.lt_irrefl 0)
    · rw [h] at some
      exact unread_clears h some
  | _ => exact absurd some (Nat.lt_irrefl 0)

/-- what an operation does to the marks -/
structure Marking (s : Stream δ) (op : Op) : Prop where
  /-- the error mark stays, unless the user moves the stream and that goes well -/
  err : s.marks.err = true → ¬ op.Restarts s → (op.run s).marks.err = true
  /-- so does the end mark, unless bytes are pushed back -/
  eof : s.marks.eof = true → ¬ op.Restarts s → op.pushedBack s = 0 → (op.run s).marks.eof = true
  /-- a failure leaves the error mark, if it is not that of a skip -/
  failed : op.fault? s ≠ none → (∀ n, op ≠ .skip n) → (op.run s).marks.err = true
  /-- the user moves the stream to start anew -/
  restarted : op.Restarts s → (op.run s).marks = {}
  pushedBack : 0 < op.pushedBack s → (op.run s).marks.eof = false
  /-- the move that a turn to writing makes on its own takes no mark back -/
  turned : s.marks.Upto s.turnToWrite.2.marks

/-- Take a stream over any device, after anything that can happen to it, and any operation.  A mark
that is set stays, except that a move which the user asked for and which goes well takes both back,
and bytes pushed back take the end mark back.  The move that a write after a read makes takes none
back.  And if the operation fails and is not a skip, the error mark is set afterwards. -/
theorem marks_stay (o : Opening) (d : δ) (m : OpenMode) (acts : List Act) (op : Op) :
    Marking (lived acts (opened o d m)) op := by
  have sound : (lived acts (opened o d m)).Sound := lived_sound acts (opened_sound o d m)
  refine ⟨?_, ?_, ?_, Op.clears, Op.pushedBack_clears, turnToWrite_upto _⟩
  · intro set stays
    exact Op.err_stays sound stays set
  · intro set stays none
    exact (Op.upto sound stays none).1 set
  · intro failed kept
    obtain ⟨f, fault⟩ := Option.ne_none_iff_exists'.mp failed
    exact Op.err sound fault kept

/-- a flush whose notification fails and a read that comes to the end set both marks; the write that
follows moves the device back and takes neither -/
theorem marks_stay_both :
    let device : Scripted :=
      { script := { data := [1, 2, 3], flushes := [.fail (.code 5)] }, announced := .all }
    let s := lived [.op (.write [4]), .op .flush, .op (.read 9)]
      (opened { capacity := 4 } device .both)
    s.marks = ⟨true, true⟩ ∧ s.writing = false ∧ ((Op.write [5]).run s).writing = true ∧
      ((Op.write [5]).run s).marks = ⟨true, true⟩ := by
  intro device s
  have both : s.marks = ⟨true, true⟩ := by decide +kernel
  have reading : s.writing = false := by decide +kernel
  have writing : ((Op.write [5]).run s).writing = true := by decide +kernel
  have stays : ¬ (Op.write [5]).Restarts s := fun restarts => by cases restarts.1
  have marking := marks_stay { capacity := 4 } device .both
    [.op (.write [4]), .op .flush, .op (.read 9)] (.write [5])
  have eof : ((Op.write [5]).run s).marks.eof = true :=
    marking.eof (congrArg Marks.eof both) stays rfl
  have err : ((Op.write [5]).run s).marks.err = true := marking.err (congrArg Marks.err both) stays
  exact ⟨both, reading, writing, congr (congrArg Marks.mk eof) err⟩

end Stream

end BufferedStreams
