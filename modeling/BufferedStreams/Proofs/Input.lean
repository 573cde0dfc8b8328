import BufferedStreams.Proofs.Contract
import BufferedStreams.Proofs.Transfer

/-!
# No input is lost

The input of a reading stream is what is pushed back, then what is read ahead, then what the device
has not delivered.  A path gives the start of the input and leaves the rest (`Path.feeding`), so no
byte is lost, given twice or out of turn.

How much a read gives is a question of its own.  It gives all that was wanted or all there is, unless
a device read fails (`intake_served`), and it sets the end mark if it came short.
-/

namespace BufferedStreams.Stream

variable {δ : Type} [Device δ] {s s' : Stream δ} {g t : Bytes}

/-- what a stream has to read -/
def input (c : Contents δ) (s : Stream δ) : Bytes :=
  s.buffer.pushed ++ (s.buffer.readable ++ c.rest s.device)

/-- a sound stream that reads from a device with bytes to deliver -/
structure Feeding (c : Contents δ) (s : Stream δ) : Prop where
  reading : s.writing = false
  able : s.abilities.read = true
  sound : s.Sound
  valid : c.valid s.device

theorem Feeding.serving {c : Contents δ} (h : s.Feeding c) : s.buffer.Serving :=
  h.sound.serving h.reading

theorem input_bare {c : Contents δ} (bare : s.buffer.pushed = []) :
    s.input c = s.buffer.readable ++ c.rest s.device := by
  rw [input, bare, List.nil_append]

theorem input_dry {c : Contents δ} (dry : s.buffer.readableSize = 0)
    (bare : s.buffer.pushed = []) : s.input c = c.rest s.device := by
  rw [input_bare bare, Buffer.readable_eq_nil dry, List.nil_append]

/-- a delivery is the start of what the device had -/
theorem rest_part {c : Contents δ} {n : Nat} {got : Delivery} {d d' : δ} (ok : c.valid d)
    (n_pos : 0 < n) (call : Device.read n d = (.ok got, d')) :
    got.part (min got.count n) ++ c.rest d' = c.rest d := by
  obtain ⟨-, -, h⟩ := c.read ok n_pos call
  obtain ⟨hn, hl, hb, hr, -⟩ := h got rfl
  have hlen : (got.bytes.take got.count).length = got.count := by
    rw [hb]
    exact List.length_take_of_le hl
  rw [Nat.min_eq_left hn, Delivery.part, hlen, Nat.sub_self, zeros_zero, List.append_nil, hb, hr]
  exact List.take_append_drop _ _

/-! ## conservation -/

theorem Step.input {c : Contents δ} (h : Step s g t s') (hs : s.Feeding c) :
    c.valid s'.device ∧ s.input c = g ++ s'.input c := by
  have r := hs.reading
  have ok := hs.valid
  have room := hs.serving.room
  cases h with
  | accepted w => exact absurd w (by simp [r])
  | cleared w => exact absurd w (by simp [r])
  | refused w => exact absurd w (by simp [r])
  | notified w => exact absurd w (by simp [r])
  | wrote w => exact absurd w (by simp [r])
  | synced w => exact absurd w (by simp [r])
  | stored bytes w => exact absurd w (by simp [r])
  | @filled got d _ able dry bare call =>
    obtain ⟨ok', -, h⟩ := c.read ok room call
    obtain ⟨hn, hl, hb, hr, -⟩ := h got rfl
    refine ⟨ok', ?_⟩
    have hlen : got.count ≤ got.bytes.length := by
      have := congrArg List.length hb
      rw [List.length_take_of_le hl, List.length_take] at this
      omega
    rw [input_dry dry bare, input_bare (by exact bare)]
    show c.rest s.device = (s.buffer.receive got).readable ++ c.rest d
    rw [Buffer.readable_receive _ _ hn hlen, hb, hr]
    exact (List.take_append_drop _ _).symm
  | @unfilled f d _ able dry bare call =>
    obtain ⟨ok', h, -⟩ := c.read ok room call
    refine ⟨ok', ?_⟩
    rw [input_dry dry bare, input_dry (Buffer.readableSize_expose_zero _) (by exact bare)]
    exact (h f rfl).symm
  | lacking _ dry bare =>
    refine ⟨ok, ?_⟩
    rw [input_dry dry bare, input_dry (Buffer.readableSize_expose_zero _) (by exact bare)]
    rfl
  | @pulled n got d _ able empty start bare n_pos call =>
    obtain ⟨ok', -⟩ := c.read ok n_pos call
    have dry : s.buffer.readableSize = 0 := by
      rw [Buffer.readableSize, empty]
      exact Nat.zero_sub _
    refine ⟨ok', ?_⟩
    rw [input_dry dry bare, input_dry (by exact dry) (by exact bare)]
    exact (rest_part ok n_pos call).symm
  | @balked n f d _ able n_pos call =>
    obtain ⟨ok', h, -⟩ := c.read ok n_pos call
    refine ⟨ok', ?_⟩
    show _ = s.buffer.pushed ++ (s.buffer.readable ++ c.rest d)
    rw [h f rfl]
    rfl
  | handed n _ bare =>
    refine ⟨ok, ?_⟩
    rw [input_bare bare, input_bare (by exact bare), Buffer.take_fst, Buffer.readable_take,
      ← List.append_assoc, List.take_append_drop]
  | returned n _ =>
    refine ⟨ok, ?_⟩
    show _ = s.buffer.pushed.take n ++ (s.buffer.pushed.drop n ++ _)
    rw [← List.append_assoc, List.take_append_drop]
    rfl
  | emptied _ dry bare =>
    refine ⟨ok, ?_⟩
    rw [input_dry dry bare, input_dry (by exact Nat.zero_sub _) (by rfl)]
    rfl
  | noted m k upto => exact ⟨ok, rfl⟩
  | restyled b name settled => exact ⟨ok, rfl⟩

/-- a path without leaps gives the start of the input and leaves the rest -/
theorem Path.feeding {c : Contents δ} (h : Path false s g t s') (hs : s.Feeding c) :
    s'.Feeding c ∧ s.input c = g ++ s'.input c := by
  generalize hf : false = leaps at h
  induction h with
  | refl => exact ⟨hs, rfl⟩
  | step h _ ih =>
    obtain ⟨ok, hi⟩ := h.input hs
    obtain ⟨hs'', hi'⟩ := ih ⟨h.writing.trans hs.reading,
      (congrArg Abilities.read h.constant.2.1).trans hs.able, h.sound hs.sound, ok⟩ hf
    refine ⟨hs'', ?_⟩
    rw [hi, hi', List.append_assoc]
  | leap => exact absurd hf (by simp)

/-- what is pushed back comes from leaps only -/
theorem Path.bare (h : Path false s g t s') (bare : s.buffer.pushed = []) :
    s'.buffer.pushed = [] := by
  generalize hf : false = leaps at h
  induction h with
  | refl => exact bare
  | step h _ ih =>
    refine ih ?_ hf
    cases h <;> simp_all [Buffer.markDrained, Buffer.append, Buffer.forgetOutput, Buffer.expose,
      Buffer.takePushed, dropAhead, Buffer.clear]
  | leap => exact absurd hf (by simp)

/-- a read uses up what is pushed back first -/
theorem intake_pushed (n : Nat) (r : s.writing = false) (sound : s.buffer.Sound) :
    (s.intake n).2.buffer.pushed = s.buffer.pushed.drop n := by
  unfold intake
  rw [turnToRead_reading r]
  dsimp only
  split
  · rfl
  · next hn =>
    have used : s.buffer.pushed.drop n = [] := by
      simp only [Buffer.takePushed, List.length_take] at hn
      exact List.drop_eq_nil_of_le (by omega)
    have bare : (s.buffer.takePushed n).2.pushed = [] := used
    have sound' : (s.buffer.takePushed n).2.Sound :=
      ⟨sound.drained_le, sound.cursor_le, sound.filled_le, sound.room, by
        rw [bare]
        exact Nat.zero_le _⟩
    rw [used]
    split
    · exact (readDirect_path (s := { s with buffer := (s.buffer.takePushed n).2 }) _ r sound'
        bare).bare bare
    · exact (readStocked_path _ { s with buffer := (s.buffer.takePushed n).2 } r bare).bare bare

/-! ## how much a read gives -/

/-- what a read of `n` bytes comes to if there are `size` bytes: a device read fails and stops it, or
it gives all that is wanted or all there is, and sets the end mark if it comes short -/
def Served (c : Source δ) (n size : Nat) (s : Stream δ) (r : Intake × Stream δ) : Prop :=
  (r.1.stop ≠ none ∧ c.failures s.device < c.failures r.2.device ∧ r.1.bytes.length ≤ n) ∨
    (r.1.stop = none ∧ c.failures r.2.device = c.failures s.device ∧
      r.1.bytes.length = min n size ∧
      r.2.marks = if size < n then s.markEnd.marks else s.marks)

variable {c : Source δ} {n size : Nat}

theorem served_all {bytes : Bytes} (hn : bytes.length = n) (hs : n ≤ size)
    (same : c.failures s'.device = c.failures s.device) (marks : s'.marks = s.marks) :
    Served c n size s ({ bytes }, s') := by
  refine .inr ⟨rfl, same, ?_, ?_⟩
  · rw [Nat.min_eq_left hs]
    exact hn
  · rw [if_neg (Nat.not_lt.mpr hs)]
    exact marks

/-- at the end of the input -/
theorem served_none (hs : size = 0) (n_pos : 0 < n)
    (same : c.failures s'.device = c.failures s.device) (marks : s'.marks = s.markEnd.marks) :
    Served c n size s ({}, s') := by
  refine .inr ⟨rfl, same, ?_, ?_⟩
  · rw [hs]
    exact (Nat.min_zero n).symm
  · rw [if_pos (hs ▸ n_pos)]
    exact marks

/-- bytes in front of a read that goes on -/
theorem Served.after {u : Stream δ} {r : Intake × Stream δ} {bytes : Bytes}
    (h : Served c (n - bytes.length) (size - bytes.length) u r) (hn : bytes.length ≤ n)
    (hs : bytes.length ≤ size) (same : c.failures u.device = c.failures s.device)
    (marks : u.marks = s.marks) : Served c n size s (r.1.after bytes, r.2) := by
  have hlen : (r.1.after bytes).bytes.length = bytes.length + r.1.bytes.length :=
    List.length_append
  rcases h with ⟨stop, failed, len⟩ | ⟨stop, same', len, marks'⟩
  · refine .inl ⟨stop, ?_, ?_⟩
    · rw [← same]
      exact failed
    · rw [hlen]
      omega
  · refine .inr ⟨stop, same'.trans same, ?_, ?_⟩
    · rw [hlen, len]
      omega
    · have hlt : size - bytes.length < n - bytes.length ↔ size < n := by omega
      have hm : u.markEnd.marks = s.markEnd.marks := by
        rw [markEnd, markEnd, marks]
      simp only [hlt, hm, marks] at marks'
      exact marks'

theorem pull_served (n : Nat) (s : Stream δ) (ok : c.valid s.device) :
    Served c n (c.rest s.device).length s (s.pull n) := by
  fun_induction pull n s with
  | case1 s => exact served_all rfl (Nat.zero_le _) rfl rfl
  -- nothing came, so the device is at the end
  | case2 n s hn bytes d call =>
    have n_pos := Nat.pos_of_ne_zero hn
    obtain ⟨-, -, h⟩ := c.read ok n_pos call
    obtain ⟨-, -, -, -, hend⟩ := h _ rfl
    refine served_none ?_ n_pos ((c.count ok n_pos call).2 _ rfl) rfl
    rw [hend rfl]
    rfl
  -- some bytes came, and the rest is asked for
  | case3 n s hn bytes k d call m t u hp ih =>
    have n_pos := Nat.pos_of_ne_zero hn
    obtain ⟨ok', -, h⟩ := c.read ok n_pos call
    obtain ⟨hle, hl, -, hr, -⟩ := h _ rfl
    have hm : m = k + 1 := Nat.min_eq_left hle
    have ih := ih ok'
    rw [hp] at ih
    have hlen : ((⟨bytes, k + 1⟩ : Delivery).part m).length = k + 1 := by
      rw [Delivery.length_part, hm]
    apply Served.after (s := s)
      (u := ({ s with device := d, base := s.base + m } : Stream δ).count .bytesRead m)
      (r := (t, u))
    · rw [hlen]
      have hd : (c.rest d).length = (c.rest s.device).length - (k + 1) := by
        rw [hr, List.length_drop]
      rw [← hd, ← hm]
      exact ih
    · rw [hlen]
      exact hle
    · rw [hlen]
      exact hl
    · exact (c.count ok n_pos call).2 _ rfl
    · rfl
  | case4 n s hn f d call =>
    exact .inl ⟨by simp, (c.count ok (Nat.pos_of_ne_zero hn) call).1 f rfl, Nat.zero_le n⟩

/-- a fill fails with its device read, or comes to the end, or brings read-ahead -/
theorem fill_cases (h : s.Feeding c) :
    (∃ f u, s.fill = (.error f, u) ∧ c.failures s.device < c.failures u.device) ∨
      ∃ u, s.fill = (.ok (), u) ∧ c.failures u.device = c.failures s.device ∧
        ((u.buffer.readableSize = 0 ∧ c.rest s.device = [] ∧ u.marks = s.markEnd.marks) ∨
          (u.buffer.readableSize ≠ 0 ∧ u.marks = s.marks)) := by
  have room := h.serving.room
  unfold fill
  dsimp only
  rw [if_pos h.able]
  rcases call : Device.read s.buffer.capacity s.device with ⟨f | got, d⟩
  · exact .inl ⟨f, _, rfl, (c.count h.valid room call).1 f rfl⟩
  · have same := (c.count h.valid room call).2 got rfl
    obtain ⟨-, -, hg⟩ := c.read h.valid room call
    obtain ⟨hle, -, -, -, hend⟩ := hg got rfl
    have hf : (s.buffer.receive got).filled = got.count := by
      rw [Buffer.filled_receive]
      exact Nat.min_eq_left hle
    have hr : (s.buffer.receive got).readableSize = got.count := by
      rw [Buffer.readableSize, hf, Buffer.cursor_receive]
      rfl
    dsimp only
    by_cases h0 : got.count = 0
    · rw [hf, if_pos h0]
      exact .inr ⟨_, rfl, same, .inl ⟨hr.trans h0, hend h0, rfl⟩⟩
    · rw [hf, if_neg h0]
      refine .inr ⟨_, rfl, same, .inr ⟨?_, rfl⟩⟩
      show (s.buffer.receive got).readableSize ≠ 0
      rw [hr]
      exact h0

theorem stock_error {f : Fault} {u : Stream δ} (h : s.Feeding c)
    (hs : s.stock = (.error f, u)) : c.failures s.device < c.failures u.device := by
  unfold stock at hs
  split at hs
  · rcases fill_cases h with ⟨f', u', hf, failed⟩ | ⟨u', hf, -⟩
    · rw [hf] at hs
      cases hs
      exact failed
    · rw [hf] at hs
      cases hs
  · cases hs

/-- a stream fills its buffer if its read-ahead is used up; then it comes to the end, or has
read-ahead -/
theorem stock_ok {u : Stream δ} (h : s.Feeding c) (bare : s.buffer.pushed = [])
    (hs : s.stock = (.ok (), u)) :
    c.failures u.device = c.failures s.device ∧
      ((u.buffer.readableSize = 0 ∧ s.input c = [] ∧ u.marks = s.markEnd.marks) ∨
        (u.buffer.readableSize ≠ 0 ∧ u.marks = s.marks)) := by
  unfold stock at hs
  split at hs
  · next dry =>
    rw [input_dry dry bare]
    rcases fill_cases h with ⟨f', u', hf, -⟩ | ⟨u', hf, filled⟩
    · rw [hf] at hs
      cases hs
    · rw [hf] at hs
      cases hs
      exact filled
  · next full =>
    cases hs
    exact ⟨rfl, .inr ⟨full, rfl⟩⟩

theorem readStocked_served (n : Nat) (s : Stream δ) (h : s.Feeding c)
    (bare : s.buffer.pushed = []) :
    Served c n (s.input c).length s (s.readStocked n) := by
  fun_induction readStocked n s with
  | case1 s => exact served_all rfl (Nat.zero_le _) rfl rfl
  | case2 n s hn f u hs => exact .inl ⟨by simp, stock_error h hs, Nat.zero_le n⟩
  | case3 n s hn u hs dry =>
    rcases stock_ok h bare hs with ⟨same, ⟨-, hi, marks⟩ | ⟨full, -⟩⟩
    · refine served_none ?_ (Nat.pos_of_ne_zero hn) same marks
      rw [hi]
      rfl
    · exact absurd dry full
  -- the read-ahead goes to the user, and the read goes on with what is left of the input
  | case4 n s hn u hs full k t v hv ih =>
    have hp := stock_path h.reading bare
    have hb := stock_pushed s
    rw [hs] at hp hb
    obtain ⟨hu, hi⟩ := hp.feeding h
    have bare' : u.buffer.pushed = [] := hb.trans bare
    obtain ⟨hu', hi'⟩ := (Step.handed n hu.reading bare').path.feeding hu
    have ih := ih hu' bare'
    rw [hv] at ih
    have hlen : (u.buffer.take n).1.length = k := Buffer.length_take_fst hu.sound.buffer n
    have hsize : (s.input c).length = k + (({ u with buffer := (u.buffer.take n).2 } :
        Stream δ).input c).length := by
      rw [hi, List.nil_append, hi', List.length_append, hlen]
    obtain ⟨same, ⟨dry, -⟩ | ⟨-, marks⟩⟩ := stock_ok h bare hs
    · exact absurd dry full
    · apply Served.after (s := s) (u := ({ u with buffer := (u.buffer.take n).2 } : Stream δ))
        (r := (t, v))
      · rw [hlen, hsize, Nat.add_sub_cancel_left]
        exact ih
      · rw [hlen]
        exact Nat.min_le_left _ _
      · rw [hlen, hsize]
        exact Nat.le_add_right _ _
      · exact same
      · exact marks

theorem readDirect_served (n : Nat) (h : s.Feeding c) (bare : s.buffer.pushed = []) :
    Served c n (s.input c).length s (s.readDirect n) := by
  have hlen : (s.buffer.take n).1.length = min n s.buffer.readableSize :=
    Buffer.length_take_fst h.sound.buffer n
  have hsize : (s.input c).length =
      s.buffer.readableSize + (c.rest s.device).length := by
    rw [input_bare bare, List.length_append, Buffer.length_readable h.sound.buffer]
  unfold readDirect
  dsimp only
  split
  · next hn => exact served_all hn (by omega) rfl rfl
  · next hn =>
    rw [if_pos (by exact h.able)]
    refine Served.after (u := ({ s with buffer := (s.buffer.take n).2 } : Stream δ).dropAhead)
      (r := ({ s with buffer := (s.buffer.take n).2 } : Stream δ).dropAhead.pull _) ?_ ?_ ?_ rfl rfl
    · have := pull_served (c := c) (n - (s.buffer.take n).1.length)
        ({ s with buffer := (s.buffer.take n).2 } : Stream δ).dropAhead h.valid
      have hk : (s.input c).length - (s.buffer.take n).1.length =
          (c.rest s.device).length := by omega
      rw [hk]
      exact this
    · omega
    · omega

/-- a read of a reading stream gives all that is wanted or all there is, unless the device fails -/
theorem intake_served (n : Nat) (h : s.Feeding c) :
    Served c n (s.input c).length s (s.intake n) := by
  obtain ⟨hu, hi⟩ := (Step.returned n h.reading).path.feeding h
  have hlen : (s.buffer.takePushed n).1.length = min n s.buffer.pushed.length :=
    List.length_take
  have hsize := congrArg List.length hi
  rw [List.length_append] at hsize
  unfold intake
  rw [turnToRead_reading h.reading]
  dsimp only
  split
  · next hn => exact served_all hn (by omega) rfl rfl
  · next hn =>
    have bare : (s.buffer.takePushed n).2.pushed = [] :=
      List.drop_eq_nil_of_le (by omega)
    have hk : (s.input c).length - (s.buffer.takePushed n).1.length =
        (({ s with buffer := (s.buffer.takePushed n).2 } : Stream δ).input c).length := by
      omega
    split
    · refine Served.after (u := ({ s with buffer := (s.buffer.takePushed n).2 } : Stream δ))
        (r := ({ s with buffer := (s.buffer.takePushed n).2 } : Stream δ).readDirect _)
        ?_ (by omega) (by omega) rfl rfl
      rw [hk]
      exact readDirect_served _ hu bare
    · refine Served.after (u := ({ s with buffer := (s.buffer.takePushed n).2 } : Stream δ))
        (r := ({ s with buffer := (s.buffer.takePushed n).2 } : Stream δ).readStocked _)
        ?_ (by omega) (by omega) rfl rfl
      rw [hk]
      exact readStocked_served _ _ hu bare

end BufferedStreams.Stream
