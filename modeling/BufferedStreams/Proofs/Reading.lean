import BufferedStreams.Proofs.Input
import BufferedStreams.Proofs.Memory
import BufferedStreams.Proofs.Runs
import BufferedStreams.Proofs.Trace

/-!
# What the readers do to the input

`Reads` says for each reader what it does to the input of a stream.  It holds in every state that a
reading stream comes to by readers, whatever the chunks its device delivers and whichever device
reads fail (`input_conserved`).
-/

namespace BufferedStreams

namespace Intake

variable {t : Intake} {bytes : Bytes} {f : Fault}

theorem result_ok (h : t.result = .ok bytes) : t.bytes = bytes ∧ (t.stop ≠ none → bytes ≠ []) := by
  unfold result at h
  split at h
  · split at h
    · cases h
    · next some =>
      cases h
      exact ⟨rfl, fun _ e => some (by rw [e]; rfl)⟩
  · next none =>
    cases h
    exact ⟨rfl, fun stop => absurd none stop⟩

theorem result_error (h : t.result = .error f) : t.bytes = [] ∧ t.stop = some f := by
  unfold result at h
  split at h
  · next stop =>
    split at h
    · next empty =>
      cases h
      exact ⟨List.isEmpty_iff.mp empty, stop⟩
    · cases h
  · cases h

end Intake

namespace Stream

variable {δ : Type} [Device δ] {s s' : Stream δ} {c : Source δ}

theorem intake_feeding (n : Nat) (h : s.Feeding c) :
    (s.intake n).2.Feeding c ∧
      s.input c = (s.intake n).1.bytes ++ (s.intake n).2.input c :=
  (intake_reading_path n h.reading h.sound.buffer).feeding h

theorem read_eq {n : Nat} (hn : n ≠ 0) : s.read n = ((s.intake n).1.result, (s.intake n).2) := by
  rw [read, if_neg hn]

theorem read_feeding (n : Nat) (h : s.Feeding c) : (s.read n).2.Feeding c := by
  unfold read
  split
  · exact h
  · exact (intake_feeding n h).1

/-- a read takes the start of the input, all of it that was wanted unless a device read fails; then it
takes at least one byte -/
theorem read_ok {n : Nat} {bytes : Bytes} (h : s.Feeding c)
    (hr : s.read n = (.ok bytes, s')) :
    s.input c = bytes ++ s'.input c ∧ bytes.length ≤ n ∧
      (bytes.length = min n (s.input c).length ∨
        bytes ≠ [] ∧ c.failures s.device < c.failures s'.device) := by
  by_cases hn : n = 0
  · rw [read, if_pos hn] at hr
    cases hr
    refine ⟨rfl, Nat.zero_le n, .inl ?_⟩
    rw [hn, Nat.zero_min]
    rfl
  · rw [read_eq hn] at hr
    obtain rfl := congrArg Prod.snd hr
    obtain ⟨rfl, some⟩ := Intake.result_ok (congrArg Prod.fst hr)
    refine ⟨(intake_feeding n h).2, ?_⟩
    rcases intake_served n h with ⟨stop, failed, len⟩ | ⟨-, -, len, -⟩
    · exact ⟨len, .inr ⟨some stop, failed⟩⟩
    · exact ⟨len ▸ Nat.min_le_left n _, .inl len⟩

/-- a read that fails takes nothing, and a device read failed -/
theorem read_error {n : Nat} {f : Fault} (h : s.Feeding c)
    (hr : s.read n = (.error f, s')) :
    s'.input c = s.input c ∧ c.failures s.device < c.failures s'.device := by
  by_cases hn : n = 0
  · rw [read, if_pos hn] at hr
    cases hr
  · rw [read_eq hn] at hr
    obtain rfl := congrArg Prod.snd hr
    obtain ⟨empty, stop⟩ := Intake.result_error (congrArg Prod.fst hr)
    have hi := (intake_feeding n h).2
    rw [empty, List.nil_append] at hi
    refine ⟨hi.symm, ?_⟩
    rcases intake_served n h with ⟨-, failed, -⟩ | ⟨none, -⟩
    · exact failed
    · rw [stop] at none
      cases none

/-- a stream that reads pushes back without turning -/
theorem unread_eq (bytes : Bytes) (h : s.Feeding c) :
    ∃ s', s.unread bytes = (.ok (min bytes.length (pushbackRoom - s.buffer.pushed.length)), s') ∧
      s'.Feeding c ∧
      s'.input c =
        (bytes.take (pushbackRoom - s.buffer.pushed.length)).reverse ++ s.input c := by
  have hs := h.serving.pushBack bytes
  unfold unread
  rw [turnToRead_reading h.reading]
  dsimp only
  rw [Buffer.length_pushBack]
  refine ⟨_, rfl, ?_⟩
  split
  · refine ⟨⟨h.reading, h.able, .of_serving h.reading hs, h.valid⟩, ?_⟩
    exact List.append_assoc _ _ _
  · refine ⟨⟨h.reading, h.able, .of_serving (by exact h.reading) hs, h.valid⟩, ?_⟩
    exact List.append_assoc _ _ _

/-- a peek leaves the input as it is and shows the start of it, which is empty only at the end -/
theorem peek_input (h : s.Feeding c) :
    s.peek.2.Feeding c ∧ s.peek.2.input c = s.input c ∧
      ∀ view, s.peek.1 = .ok view → view <+: s.input c ∧ (view = [] → s.input c = []) := by
  unfold peek
  rw [turnToRead_reading h.reading]
  dsimp only
  split
  · next hp =>
    refine ⟨h, rfl, ?_⟩
    rintro _ ⟨⟩
    exact ⟨List.prefix_append _ _, fun e => absurd e hp⟩
  · next hp =>
    have bare : s.buffer.pushed = [] := Decidable.not_not.mp hp
    have path := stock_path h.reading bare
    have hb := stock_pushed s
    rcases hs : s.stock with ⟨f | _, u⟩
    · rw [hs] at path
      obtain ⟨hu, hi⟩ := path.feeding h
      exact ⟨hu, hi.symm, by rintro _ ⟨⟩⟩
    · rw [hs] at path hb
      obtain ⟨hu, hi⟩ := path.feeding h
      refine ⟨hu, hi.symm, ?_⟩
      rintro _ ⟨⟩
      refine ⟨⟨c.rest u.device, ?_⟩, ?_⟩
      · rw [hi, List.nil_append, input_bare (hb.trans bare)]
      · intro empty
        rcases stock_ok h bare hs with ⟨-, ⟨-, hi, -⟩ | ⟨full, -⟩⟩
        · exact hi
        · have := Buffer.length_readable hu.sound.buffer
          rw [show u.buffer.readable = [] from empty] at this
          exact absurd this.symm full

/-- a skip steps over the start of the input, or changes nothing -/
theorem skip_input (n : Nat) (h : s.Feeding c) :
    (∃ s', s.skip n = (.ok (), s') ∧ s'.Feeding c ∧
        n ≤ (s.input c).length ∧
        s'.input c = (s.input c).drop n) ∨
      ∃ f, s.skip n = (.error f, s) := by
  unfold skip
  rw [if_neg (by simp [h.reading])]
  rcases hk : skipped n s.buffer with f | b
  · exact .inr ⟨f, rfl⟩
  · refine .inl ⟨_, rfl, ?_⟩
    have hb : b.Serving := h.serving.skipped hk
    refine ⟨⟨h.reading, h.able, .of_serving h.reading hb, h.valid⟩, ?_⟩
    rcases Buffer.skipped_eq_ok hk with ⟨-, hn, rfl⟩ | ⟨bare, hn, rfl⟩
    · refine ⟨?_, ?_⟩
      · rw [input, List.length_append]
        omega
      · show _ = (s.buffer.pushed ++ (s.buffer.readable ++ c.rest s.device)).drop n
        rw [List.drop_append_of_le_length hn]
        rfl
    · have hl := Buffer.length_readable h.sound.buffer
      refine ⟨?_, ?_⟩
      · rw [input_bare bare, List.length_append]
        omega
      · rw [input_bare bare, input_bare (by exact bare), Buffer.readable_take,
          List.drop_append_of_le_length (by omega)]

theorem setStrategy_reading (b : Buffering) (r : s.writing = false) :
    s.setStrategy b = (.ok (), { s with strategy := b }) := by
  rw [setStrategy, flush, if_neg (by simp [r])]

/-! ## the readers together -/

/-- a reader leaves a reading stream reading -/
theorem reader_feeding (op : Op) (hop : op.reads = true) (h : s.Feeding c) :
    (op.run s).Feeding c := by
  cases op with
  | read n => exact read_feeding n h
  | getc => exact read_feeding 1 h
  | peek => exact (peek_input h).1
  | skip n =>
    show (s.skip n).2.Feeding c
    rcases skip_input n h with ⟨s', hs, hs', -⟩ | ⟨f, hs⟩
    · rw [hs]
      exact hs'
    · rw [hs]
      exact h
  | unread bytes =>
    show (s.unread bytes).2.Feeding c
    obtain ⟨s', hs, hs', -⟩ := unread_eq bytes h
    rw [hs]
    exact hs'
  | setStrategy b =>
    show (s.setStrategy b).2.Feeding c
    rw [setStrategy_reading b h.reading]
    exact ⟨h.reading, h.able, ⟨h.sound.collecting, h.sound.serving⟩, h.valid⟩
  | _ => cases hop

theorem readers_feeding (ops : List Op) (hops : ∀ op ∈ ops, op.reads = true) (h : s.Feeding c) :
    (after ops s).Feeding c := by
  induction ops generalizing s with
  | nil => exact h
  | cons op ops ih =>
    exact ih (fun o ho => hops o (List.mem_cons_of_mem _ ho))
      (reader_feeding op (hops op List.mem_cons_self) h)

/-- what each reader does to the input of a stream -/
structure Reads (c : Source δ) (s : Stream δ) : Prop where
  /-- a read takes the start of the input, all of it that is wanted unless a device read fails -/
  read : ∀ n bytes s', s.read n = (.ok bytes, s') →
    s.input c = bytes ++ s'.input c ∧ bytes.length ≤ n ∧
      (bytes.length = min n (s.input c).length ∨
        bytes ≠ [] ∧ c.failures s.device < c.failures s'.device)
  read_error : ∀ n f s', s.read n = (.error f, s') →
    s'.input c = s.input c ∧ c.failures s.device < c.failures s'.device
  getc : ∀ b s', s.getc = (.ok (some b), s') → s.input c = b :: s'.input c
  getc_none : ∀ s', s.getc = (.ok none, s') → s.input c = [] ∧ s'.input c = []
  getc_error : ∀ f s', s.getc = (.error f, s') →
    s'.input c = s.input c ∧ c.failures s.device < c.failures s'.device
  /-- as many bytes as fit come in front of the input, the last one first -/
  unread : ∀ (bytes : Bytes) (n : Nat),
    n = min bytes.length (pushbackRoom - s.buffer.pushed.length) →
    ∃ s', s.unread bytes = (.ok n, s') ∧ s'.input c = (bytes.take n).reverse ++ s.input c
  peek : ∀ r s', s.peek = (r, s') →
    s'.input c = s.input c ∧
      ∀ view, r = .ok view → view <+: s.input c ∧ (view = [] → s.input c = [])
  skip : ∀ n,
    (∃ s', s.skip n = (.ok (), s') ∧ n ≤ (s.input c).length ∧ s'.input c = (s.input c).drop n) ∨
      ∃ f, s.skip n = (.error f, s)
  setStrategy : ∀ b, ∃ s', s.setStrategy b = (.ok (), s') ∧ s'.input c = s.input c

/-! ## one byte -/

theorem getc_ok {b : Option UInt8} (hg : s.getc = (.ok b, s')) :
    ∃ bytes, s.read 1 = (.ok bytes, s') ∧ bytes.head? = b := by
  unfold getc at hg
  rcases hr : s.read 1 with ⟨f | bytes, u⟩
  · rw [hr] at hg
    cases hg
  · rw [hr] at hg
    cases hg
    exact ⟨bytes, rfl, rfl⟩

theorem getc_error {f : Fault} (hg : s.getc = (.error f, s')) : s.read 1 = (.error f, s') := by
  unfold getc at hg
  rcases hr : s.read 1 with ⟨f' | bytes, u⟩
  · rw [hr] at hg
    cases hg
    rfl
  · rw [hr] at hg
    cases hg

theorem getc_some {b : UInt8} (h : s.Feeding c) (hg : s.getc = (.ok (some b), s')) :
    s.input c = b :: s'.input c := by
  obtain ⟨bytes, hr, hb⟩ := getc_ok hg
  obtain ⟨hi, one, -⟩ := read_ok h hr
  obtain ⟨rest, rfl⟩ := List.head?_eq_some_iff.mp hb
  have none : rest = [] := by
    rw [List.length_cons] at one
    exact List.eq_nil_of_length_eq_zero (by omega)
  rw [hi, none]
  rfl

/-- a read of one byte that gives none has come to the end -/
theorem getc_none (h : s.Feeding c) (hg : s.getc = (.ok none, s')) :
    s.input c = [] ∧ s'.input c = [] := by
  obtain ⟨bytes, hr, hb⟩ := getc_ok hg
  obtain rfl := List.head?_eq_none_iff.mp hb
  obtain ⟨hi, -, len | ⟨some, -⟩⟩ := read_ok h hr
  · have h0 : s.input c = [] := by
      rw [List.length_nil] at len
      exact List.eq_nil_of_length_eq_zero (by omega)
    rw [h0] at hi
    exact ⟨h0, hi.symm⟩
  · exact absurd rfl some

theorem reads_feeding (h : s.Feeding c) : s.Reads c where
  read n bytes s' hr := read_ok h hr
  read_error n f s' hr := read_error h hr
  getc b s' hg := getc_some h hg
  getc_none s' hg := getc_none h hg
  getc_error f s' hg := read_error h (getc_error hg)
  unread bytes n hn := by
    obtain ⟨s', hs, -, hi⟩ := unread_eq bytes h
    refine ⟨s', ?_, ?_⟩
    · rw [hn]
      exact hs
    · rw [hi, hn, List.take_eq_take_min, Nat.min_comm]
  peek r s' hp := by
    obtain ⟨-, input⟩ := peek_input h
    rw [hp] at input
    exact input
  skip n := by
    rcases skip_input n h with ⟨s', hs, -, hn, hi⟩ | stuck
    · exact .inl ⟨s', hs, hn, hi⟩
    · exact .inr stuck
  setStrategy b := ⟨_, setStrategy_reading b h.reading, rfl⟩

/-- Take a device with bytes to deliver, whatever the chunks it delivers and whichever of its reads
fail, and a stream over it that reads after some operations.  Then the readers do to its input what
they should, after any of them in any order. -/
theorem input_conserved (c : Contents δ) (o : Opening) (d : δ) (m : OpenMode)
    (able : (Device.abilities d).read = true) (before ops : List Op)
    (readers : ∀ op ∈ ops, op.reads = true)
    (reading : (after before (opened o ({ inner := d } : Recorded δ) m)).writing = false)
    (valid : c.valid (after before (opened o ({ inner := d } : Recorded δ) m)).device.inner) :
    (after (before ++ ops) (opened o ({ inner := d } : Recorded δ) m)).Reads c.recorded := by
  have sound := after_sound before (opened_sound o ({ inner := d } : Recorded δ) m)
  have path := after_path before (opened_sound o ({ inner := d } : Recorded δ) m)
  have feeding : (after before (opened o ({ inner := d } : Recorded δ) m)).Feeding c.recorded := by
    refine ⟨reading, ?_, sound, valid⟩
    rw [path.constant.2.1]
    exact able
  rw [after_append]
  exact reads_feeding (readers_feeding ops readers feeding)

/-- six bytes in memory, a byte pushed back, and a change of strategy between two reads -/
theorem input_conserved_six :
    (after ([.flush] ++ [.read 2, .unread [7], .setStrategy .direct, .read 3])
      (opened { capacity := 4 } ({ inner := Memory.ofData [1, 2, 3, 4, 5, 6] {} } : Recorded Memory)
        { access := .readOnly })).Reads (Source.memory {}).toContents.recorded :=
  input_conserved (Source.memory {}).toContents { capacity := 4 }
    (Memory.ofData [1, 2, 3, 4, 5, 6] {}) { access := .readOnly } rfl [.flush] [.read 2, .unread [7], .setStrategy .direct, .read 3]
    (by simp [Op.reads]) rfl (Memory.plain_ofData _ rfl)

end Stream

end BufferedStreams
