import BufferedStreams.Proofs.SoundBuffer
import BufferedStreams.Stream.Output

/-!
# Steps and paths

All a stream ever does is a sequence of small steps: one device call, or one change of the buffer.

* `Stream.Step s gave took s'`   a step that leaves the place in the data where it is, but for the
  bytes `gave` that went to the user and the bytes `took` that came from the user;
* `Stream.Leap s s'`             any other step: a turn, a seek, a pushback, a skip;
* `Stream.Path leaps s gave took s'`   a sequence of steps, with leaps among them if `leaps` is true.

What every step keeps, every path keeps (`Path.keeps`).  So the mode and the abilities stay, the stream
stays open (`Path.constant`), and it counts no coming or going of streams, as a desk does that
(`Path.turnover`).
-/

namespace BufferedStreams

/-- no mark is taken back -/
def Marks.Upto (m m' : Marks) : Prop :=
  (m.eof = true → m'.eof = true) ∧ (m.err = true → m'.err = true)

theorem Marks.upto_refl (m : Marks) : m.Upto m := ⟨id, id⟩

namespace Stream

variable {δ : Type}

/-- how many comings and goings a stream counted -/
def turnover (s : Stream δ) : UInt64 × UInt64 := s.tally.turnover

variable [Device δ]

/-- A small step that moves the place in the data by what it gives and takes and by nothing else.

While the stream writes, the device took a part of the pending output (`accepted`) or the rest of it
(`cleared`), took nothing of what it was offered (`refused`), was told of a flush (`notified`), took
bytes straight from the user (`wrote`), or told where an append stream ends (`synced`); or the buffer
took bytes from the user (`stored`).

While it reads, the used-up buffer was filled by a device read (`filled`), or not, as the read failed
(`unfilled`) or the device has none (`lacking`); a device read went straight to the user (`pulled`) or
failed (`balked`); read-ahead or pushed back bytes went to the user (`handed`, `returned`); or the
used-up buffer was dropped (`emptied`).

Marks may be set and what streams count goes up, all but the two counters that only a desk moves
(`noted`); and the strategy and the name may change (`restyled`). -/
inductive Step : Stream δ → Bytes → Bytes → Stream δ → Prop
  | accepted {s : Stream δ} {n : Nat} {d : δ} (w : s.writing = true)
      (able : s.abilities.write = true)
      (call : Device.write s.buffer.pending s.device = (.ok n, d)) (n_pos : 0 < n)
      (part : n < s.buffer.pendingSize) :
      Step s [] [] { s with device := d, buffer := s.buffer.markDrained n }
  | cleared {s : Stream δ} {n : Nat} {d : δ} (w : s.writing = true)
      (able : s.abilities.write = true)
      (call : Device.write s.buffer.pending s.device = (.ok n, d)) (n_pos : 0 < n)
      (all : s.buffer.pendingSize ≤ n) :
      Step s [] [] { s with
        device := d
        base := s.base + s.buffer.cursor
        buffer := s.buffer.forgetOutput }.syncAppend
  | refused {s : Stream δ} {bytes : Bytes} {r : Except Fault Nat} {d : δ} (w : s.writing = true)
      (able : s.abilities.write = true) (call : Device.write bytes s.device = (r, d))
      (none : ∀ n, r = .ok n → n = 0) :
      Step s [] [] { s with device := d }
  | notified {s : Stream δ} {r : Except Fault Unit} {d : δ} (w : s.writing = true)
      (able : s.abilities.write = true) (settled : s.buffer.pendingSize = 0)
      (call : Device.flush s.device = (r, d)) :
      Step s [] [] { s with device := d }
  | wrote {s : Stream δ} {bytes : Bytes} {n : Nat} {d : δ} (w : s.writing = true)
      (able : s.abilities.write = true) (settled : s.buffer.pendingSize = 0)
      (call : Device.write bytes s.device = (.ok n, d)) (n_pos : 0 < n) :
      Step s [] (bytes.take n) { s with device := d, base := s.base + min n bytes.length }
  | synced {s : Stream δ} (w : s.writing = true) (settled : s.buffer.pendingSize = 0) :
      Step s [] [] s.syncAppend
  | stored {s : Stream δ} (bytes : Bytes) (w : s.writing = true) (space : 0 < s.buffer.space) :
      Step s [] (bytes.take s.buffer.space) { s with buffer := (s.buffer.append bytes).2 }
  | filled {s : Stream δ} {got : Delivery} {d : δ} (r : s.writing = false)
      (able : s.abilities.read = true) (dry : s.buffer.readableSize = 0)
      (bare : s.buffer.pushed = [])
      (call : Device.read s.buffer.capacity s.device = (.ok got, d)) :
      Step s [] [] { s with
        device := d
        base := s.base + s.buffer.filled
        buffer := s.buffer.receive got }
  | unfilled {s : Stream δ} {f : Fault} {d : δ} (r : s.writing = false)
      (able : s.abilities.read = true) (dry : s.buffer.readableSize = 0)
      (bare : s.buffer.pushed = [])
      (call : Device.read s.buffer.capacity s.device = (.error f, d)) :
      Step s [] [] { s with
        device := d
        base := s.base + s.buffer.filled
        buffer := s.buffer.expose 0 }
  | lacking {s : Stream δ} (r : s.writing = false) (dry : s.buffer.readableSize = 0)
      (bare : s.buffer.pushed = []) :
      Step s [] [] { s with base := s.base + s.buffer.filled, buffer := s.buffer.expose 0 }
  | pulled {s : Stream δ} {n : Nat} {got : Delivery} {d : δ} (r : s.writing = false)
      (able : s.abilities.read = true) (empty : s.buffer.filled = 0) (start : s.buffer.cursor = 0)
      (bare : s.buffer.pushed = []) (n_pos : 0 < n)
      (call : Device.read n s.device = (.ok got, d)) :
      Step s (got.part (min got.count n)) []
        { s with device := d, base := s.base + min got.count n }
  | balked {s : Stream δ} {n : Nat} {f : Fault} {d : δ} (r : s.writing = false)
      (able : s.abilities.read = true) (n_pos : 0 < n)
      (call : Device.read n s.device = (.error f, d)) :
      Step s [] [] { s with device := d }
  | handed {s : Stream δ} (n : Nat) (r : s.writing = false) (bare : s.buffer.pushed = []) :
      Step s (s.buffer.take n).1 [] { s with buffer := (s.buffer.take n).2 }
  | returned {s : Stream δ} (n : Nat) (r : s.writing = false) :
      Step s (s.buffer.takePushed n).1 [] { s with buffer := (s.buffer.takePushed n).2 }
  | emptied {s : Stream δ} (r : s.writing = false) (dry : s.buffer.readableSize = 0)
      (bare : s.buffer.pushed = []) :
      Step s [] [] s.dropAhead
  | noted {s : Stream δ} (m : Marks) (t : Tally) (upto : s.marks.Upto m)
      (kept : t.turnover = s.turnover) :
      Step s [] [] { s with marks := m, tally := t }
  | restyled {s : Stream δ} (b : Buffering) (name : Option String)
      (settled : s.writing = true → s.buffer.pendingSize = 0) :
      Step s [] [] { s with strategy := b, name := name }

/-- A step that may change the place in the data, or calls for that: a turn from writing to reading
(`turned`) or back (`started`), buffered input dropped where the device cursor is (`dropped`), a seek
of the device that went well (`moved`) or did not (`unmoved`), bytes pushed back (`pushedBack`) or
skipped (`skipped`), marks taken back (`unmarked`). -/
inductive Leap : Stream δ → Stream δ → Prop
  | turned {s : Stream δ} (w : s.writing = true) (settled : s.buffer.pendingSize = 0) :
      Leap s { s with writing := false }
  | started {s : Stream δ} (r : s.writing = false) (empty : s.buffer.filled = 0)
      (bare : s.buffer.pushed = []) :
      Leap s { s with writing := true }
  | dropped {s : Stream δ} (r : s.writing = false) : Leap s s.dropAhead
  | moved {s : Stream δ} {off : Int} {w : Whence} {pos : Nat} {d : δ} (r : s.writing = false)
      (able : s.abilities.seek = true) (call : Device.seek off w s.device = (.ok pos, d)) :
      Leap s { s with device := d, buffer := s.buffer.clear, base := pos }
  | unmoved {s : Stream δ} {off : Int} {w : Whence} {f : Fault} {d : δ} (r : s.writing = false)
      (able : s.abilities.seek = true) (call : Device.seek off w s.device = (.error f, d)) :
      Leap s { s with device := d }
  | pushedBack {s : Stream δ} (bytes : Bytes) (r : s.writing = false) :
      Leap s { s with buffer := (s.buffer.pushBack bytes).2 }
  | skipped {s : Stream δ} {n : Nat} {b : Buffer} (r : s.writing = false)
      (ok : Stream.skipped n s.buffer = .ok b) :
      Leap s { s with buffer := b }
  | unmarked {s : Stream δ} (m : Marks) : Leap s { s with marks := m }

/-- a sequence of steps; `leaps` tells whether leaps may be among them -/
inductive Path : Bool → Stream δ → Bytes → Bytes → Stream δ → Prop
  | refl (leaps : Bool) (s : Stream δ) : Path leaps s [] [] s
  | step {leaps : Bool} {s s' s'' : Stream δ} {g t g' t' : Bytes} (h : Step s g t s')
      (rest : Path leaps s' g' t' s'') : Path leaps s (g ++ g') (t ++ t') s''
  | leap {s s' s'' : Stream δ} {g t : Bytes} (h : Leap s s') (rest : Path true s' g t s'') :
      Path true s g t s''

variable {s s' s'' : Stream δ} {g t g' t' : Bytes} {leaps : Bool}

theorem Step.path (h : Step s g t s') : Path leaps s g t s' := by
  have := Path.step h (Path.refl leaps s')
  rwa [List.append_nil, List.append_nil] at this

theorem Leap.path (h : Leap s s') : Path true s [] [] s' := .leap h (.refl _ _)

namespace Path

theorem trans (h : Path leaps s g t s') (h' : Path leaps s' g' t' s'') :
    Path leaps s (g ++ g') (t ++ t') s'' := by
  induction h with
  | refl => exact h'
  | step hs _ ih =>
    rw [List.append_assoc, List.append_assoc]
    exact .step hs (ih h')
  | leap hl _ ih => exact .leap hl (ih h')

/-- a path without leaps is a path -/
theorem loose (h : Path false s g t s') : Path leaps s g t s' := by
  generalize hf : false = leaps' at h
  induction h with
  | refl => exact .refl _ _
  | step hs _ ih => exact .step hs (ih hf)
  | leap => exact absurd hf (by simp)

theorem to_true (h : Path leaps s g t s') : Path true s g t s' := by
  cases leaps
  · exact h.loose
  · exact h

/-- what every step and every leap keeps, every path keeps -/
theorem keeps {P : Stream δ → Prop} (h : Path leaps s g t s')
    (step : ∀ {s g t s'}, Step s g t s' → P s → P s') (leap : ∀ {s s'}, Leap s s' → P s → P s')
    (hs : P s) : P s' := by
  induction h with
  | refl => exact hs
  | step h _ ih => exact ih (step h hs)
  | leap h _ ih => exact ih (leap h hs)

/-- a relation of a state to a later one holds along a path if it holds of every step and leap and is
reflexive and transitive -/
theorem relates {R : Stream δ → Stream δ → Prop} (h : Path leaps s g t s')
    (refl : ∀ s, R s s) (trans : ∀ {a b c}, R a b → R b c → R a c)
    (step : ∀ {s g t s'}, Step s g t s' → R s s') (leap : ∀ {s s'}, Leap s s' → R s s') :
    R s s' := by
  induction h with
  | refl => exact refl _
  | step h _ ih => exact trans (step h) ih
  | leap h _ ih => exact trans (leap h) ih

end Path

/-! ## what no step changes -/

theorem syncAppend_eq (s : Stream δ) :
    ∃ d base, s.syncAppend = { s with device := d, base := base } := by
  unfold syncAppend
  split
  · split
    · next pos d _ => exact ⟨d, pos, rfl⟩
    · next _ d _ => exact ⟨d, s.base, rfl⟩
  · exact ⟨s.device, s.base, rfl⟩

@[simp] theorem syncAppend_buffer (s : Stream δ) : s.syncAppend.buffer = s.buffer := by
  obtain ⟨d, base, h⟩ := syncAppend_eq s
  rw [h]

@[simp] theorem syncAppend_writing (s : Stream δ) : s.syncAppend.writing = s.writing := by
  obtain ⟨d, base, h⟩ := syncAppend_eq s
  rw [h]

@[simp] theorem syncAppend_mode (s : Stream δ) : s.syncAppend.mode = s.mode := by
  obtain ⟨d, base, h⟩ := syncAppend_eq s
  rw [h]

@[simp] theorem syncAppend_abilities (s : Stream δ) : s.syncAppend.abilities = s.abilities := by
  obtain ⟨d, base, h⟩ := syncAppend_eq s
  rw [h]

@[simp] theorem syncAppend_closed (s : Stream δ) : s.syncAppend.closed = s.closed := by
  obtain ⟨d, base, h⟩ := syncAppend_eq s
  rw [h]

@[simp] theorem syncAppend_turnover (s : Stream δ) : s.syncAppend.turnover = s.turnover := by
  obtain ⟨d, base, h⟩ := syncAppend_eq s
  rw [h]
  rfl

/-- only append streams ask for the end of the data -/
theorem syncAppend_eq_self {s : Stream δ} (h : s.mode.append = false) : s.syncAppend = s := by
  simp [syncAppend, h]

theorem Step.writing (h : Step s g t s') : s'.writing = s.writing := by
  cases h <;> simp [dropAhead]

theorem Path.writing (h : Path false s g t s') : s'.writing = s.writing := by
  generalize hf : false = leaps at h
  induction h with
  | refl => rfl
  | step h _ ih => exact (ih hf).trans h.writing
  | leap => exact absurd hf (by simp)

theorem Step.constant (h : Step s g t s') :
    s'.mode = s.mode ∧ s'.abilities = s.abilities ∧ s'.closed = s.closed := by
  cases h <;> simp [dropAhead]

theorem Leap.constant (h : Leap s s') :
    s'.mode = s.mode ∧ s'.abilities = s.abilities ∧ s'.closed = s.closed := by
  cases h <;> simp [dropAhead]

/-- the mode and the abilities of a stream are for life, and no step closes it -/
theorem Path.constant (h : Path leaps s g t s') :
    s'.mode = s.mode ∧ s'.abilities = s.abilities ∧ s'.closed = s.closed := by
  refine h.relates
    (R := fun s s' => s'.mode = s.mode ∧ s'.abilities = s.abilities ∧ s'.closed = s.closed)
    (fun _ => ⟨rfl, rfl, rfl⟩) ?_ Step.constant Leap.constant
  rintro a b c ⟨h₁, h₂, h₃⟩ ⟨k₁, k₂, k₃⟩
  exact ⟨k₁.trans h₁, k₂.trans h₂, k₃.trans h₃⟩

theorem Step.turnover (h : Step s g t s') : s'.turnover = s.turnover := by
  cases h with
  | cleared => exact syncAppend_turnover _
  | synced => exact syncAppend_turnover _
  | noted m c upto kept => exact kept
  | _ => rfl

theorem Leap.turnover (h : Leap s s') : s'.turnover = s.turnover := by
  cases h <;> rfl

/-- a stream counts no coming and going -/
theorem Path.turnover (h : Path leaps s g t s') : s'.turnover = s.turnover :=
  h.relates (R := fun s s' => s'.turnover = s.turnover) (fun _ => rfl) (fun h h' => h'.trans h)
    Step.turnover Leap.turnover

end Stream

end BufferedStreams
