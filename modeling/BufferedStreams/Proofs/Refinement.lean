import BufferedStreams.Desk.Shared
import BufferedStreams.Proofs.Mirror

/-!
# A stream over memory is a plain file

Whatever a user asks through a handle, with any buffer and any strategies, the answers and the marks
are those of a plain file, and the storage handed over at the end holds what the file holds
(`memory_is_file`).
-/

namespace BufferedStreams

/-! ## desks -/

namespace Desk

variable {δ σ : Type}

theorem find?_replace {d : Desk δ σ} {h : Handle} {s : Stream δ} (hd : d.find? h = some s)
    (s' : Stream δ) : (d.replace h s').find? h = some s' := by
  unfold find? at hd
  split at hd
  · next slot hs =>
    have hlt : h.index < d.slots.length := (List.getElem?_eq_some_iff.mp hs).1
    rw [find?, replace, List.getElem?_set_self hlt]
    exact if_pos rfl
  · cases hd

/-- a visit where devices share nothing -/
theorem visit_memory {α : Type} {d : Desk Memory σ} {h : Handle} {s : Stream Memory}
    (hd : d.find? h = some s) (f : Stream Memory → α × Stream Memory) :
    d.visit h f = some ((f s).1, d.replace h (f s).2) := by
  rw [visit, hd]
  rfl

variable [Device δ] [Shares δ σ]

/-- a list of requests through a handle: the replies, each with the marks afterwards -/
def serve (h : Handle) : List Request → Desk δ σ → Option (List (Reply × Marks) × Desk δ σ)
  | [], d => some ([], d)
  | r :: rs, d =>
    match d.visit h fun s => (((r.perform s).1, (r.perform s).2.marks), (r.perform s).2) with
    | none => none
    | some (reply, d) => (serve h rs d).map fun (replies, d) => (reply :: replies, d)

end Desk

namespace Stream

variable {top : Nat} {p : Memory.Plan} {s : Stream Memory} {f : PlainFile}

/-! ## one request -/

theorem Mirrors.write (a : p.Ample top) (h : Mirrors top p s f) {bytes : Bytes} (hb : bytes ≠ [])
    (le : (f.write bytes (.count bytes.length)).2.pos ≤ top) :
    Reply.ofResult .count (s.write bytes).1 = (f.write bytes (.count bytes.length)).1 ∧
      Mirrors top p (s.write bytes).2 (f.write bytes (.count bytes.length)).2 := by
  rw [Stream.write, if_neg (by simp [hb])]
  rcases h.written a bytes _ le with ⟨neg, why, he, hm⟩ | ⟨pos, he, hm⟩
  · refine ⟨?_, hm⟩
    dsimp only
    rw [he, PlainFile.write, if_pos neg]
    rfl
  · refine ⟨?_, hm⟩
    dsimp only
    rw [he, PlainFile.write, if_neg (by omega)]
    rfl

theorem Mirrors.writeAll (a : p.Ample top) (h : Mirrors top p s f) (bytes : Bytes)
    (le : (f.write bytes .done).2.pos ≤ top) :
    Reply.ofResult (fun _ => .done) (s.writeAll bytes).1 = (f.write bytes .done).1 ∧
      Mirrors top p (s.writeAll bytes).2 (f.write bytes .done).2 := by
  rw [writeAll_snd]
  rcases h.written a bytes _ le with ⟨neg, why, he, hm⟩ | ⟨pos, he, hm⟩
  · refine ⟨?_, hm⟩
    rw [Stream.writeAll, PlainFile.write, if_pos neg]
    dsimp only
    rw [he]
    rfl
  · refine ⟨?_, hm⟩
    rw [Stream.writeAll, PlainFile.write, if_neg (by omega)]
    dsimp only
    rw [he]
    dsimp only
    rw [if_neg (Nat.lt_irrefl _)]
    rfl

/-- a request is answered as the file answers it, and leaves stream and file alike -/
theorem perform_mirrors (a : p.Ample top) (r : Request) (h : Mirrors top p s f)
    (le : (f.answer r).2.pos ≤ top) :
    (r.perform s).1 = (f.answer r).1 ∧ Mirrors top p (r.perform s).2 (f.answer r).2 := by
  cases r with
  | read n =>
    obtain ⟨result, mirrors⟩ := h.read a le
    exact ⟨congrArg (Reply.ofResult .bytes) result, mirrors⟩
  | getc =>
    obtain ⟨result, mirrors⟩ := h.read a le
    refine ⟨?_, mirrors⟩
    show Reply.ofResult .byte ((s.read 1).1.map List.head?) = _
    rw [result]
    rfl
  | write bytes =>
    by_cases hb : bytes = []
    · subst hb
      exact ⟨rfl, h⟩
    · rw [PlainFile.answer, if_neg hb] at le ⊢
      exact h.write a hb le
  | writeAll bytes =>
    by_cases hb : bytes = []
    · subst hb
      exact ⟨rfl, h⟩
    · have hs : s.putAll bytes = s.writeAll bytes := if_neg (by simp [hb])
      rw [PlainFile.answer, if_neg hb] at le ⊢
      rw [Request.perform, hs]
      exact h.writeAll a bytes le
  | putc byte => exact h.writeAll a [byte] le
  | unread bytes =>
    obtain ⟨result, mirrors⟩ := h.unread a bytes
    exact ⟨congrArg (Reply.ofResult .count) result, mirrors⟩
  | seek off w => exact h.seek a off w le
  | rewind =>
    obtain ⟨result, mirrors⟩ := h.rewind a
    exact ⟨congrArg (Reply.ofResult fun _ => .done) result, mirrors⟩
  | flush =>
    obtain ⟨u, hf, hu⟩ := h.flush a
    rw [Request.perform, hf]
    exact ⟨rfl, hu⟩
  | setStrategy b =>
    obtain ⟨u, hf, hu⟩ := h.flush a
    have hs : s.setStrategy b = (.ok (), { u with strategy := b }) := by
      rw [Stream.setStrategy, hf]
    have stored : ({ u with strategy := b } : Stream Memory).Stored p := by
      have path : Path true s [] [] (s.setStrategy b).2 := setStrategy_path b
      rw [hs] at path
      exact path.stored h.stored
    rw [Request.perform, hs]
    exact ⟨rfl, { hu with stored := stored }⟩
  | tell =>
    refine ⟨?_, h⟩
    have hp := h.place
    show Reply.count s.tell = Reply.count f.place.toNat
    rw [← hp, Stream.place, Stream.tell]
    congr 1
    omega

/-! ## the beginning and the end -/

theorem mirrors_opened (o : Opening) (m : OpenMode) (content : Bytes) (plain : m.append = false)
    (overwrites : p.append = false) (fits : content.length ≤ offsetRange) :
    Mirrors top p (opened o (Memory.ofData content p) m) { content } := by
  have stored : (opened o (Memory.ofData content p) m).Stored p := {
    sound := opened_sound o _ m
    level := ⟨Memory.plain_ofData content overwrites, by
      unfold front
      split <;> rfl⟩
    able := rfl
    plain := plain }
  have data : (opened o (Memory.ofData content p) m).contents = content := by
    rw [contents_settled stored fun _ => rfl]
    exact Memory.data_ofData content p
  exact {
    stored := stored
    opn := rfl
    contents := data
    pos := rfl
    pushed := rfl
    marks := rfl
    ahead := fun r => by
      rw [ahead_dry stored r rfl, data]
      rfl
    pos_le := Nat.zero_le top
    length_le := fits }

/-- the storage holds what the file holds -/
theorem Mirrors.snatch (a : p.Ample top) (h : Mirrors top p s f) :
    ∃ u, s.snatch = (.ok f.content, u) ∧ u.closed = false ∧ u.abilities = Abilities.all ∧
      (u.writing = true → u.buffer.pendingSize = 0) := by
  obtain ⟨u, hf, hu⟩ := h.flush a
  have settled : u.writing = true → u.buffer.pendingSize = 0 := by
    intro w
    have path : Path false s [] [] s.flush.2 := flush_path
    rw [hf] at path
    exact flush_ok hf (path.writing.symm.trans w)
  have data : u.device.data = f.content :=
    (contents_settled hu.stored settled).symm.trans hu.contents
  refine ⟨{ u with device := u.device.emptied }, ?_, hu.opn, hu.stored.able, settled⟩
  rw [Stream.snatch, hf]
  show (Except.ok u.device.data, _) = _
  rw [data]

/-- a stream without pending output over memory closes -/
theorem close_settled {u : Stream Memory} (opn : u.closed = false)
    (able : u.abilities = Abilities.all) (settled : u.writing = true → u.buffer.pendingSize = 0) :
    u.close.1 = .ok () := by
  have hf : u.flush = (.ok (), u) := by
    unfold Stream.flush
    split
    · next w => exact drain_idle (settled w)
    · rfl
  have hc : u.abilities.close = true := by rw [able]; rfl
  rw [close, if_neg (by simp [opn]), hf]
  dsimp only
  rw [release, if_pos hc]
  rfl

end Stream

/-! ## whole runs -/

namespace Desk

variable {σ : Type} {top : Nat} {p : Memory.Plan} {s : Stream Memory} {f : PlainFile} {h : Handle}

/-- a list of requests is answered as the file answers it -/
theorem serve_mirrors (a : p.Ample top) (rs : List Request) (d : Desk Memory σ)
    (hd : d.find? h = some s) (hm : s.Mirrors top p f) (within : PlainFile.Within top rs f) :
    ∃ d' s', d.serve h rs = some (PlainFile.answers rs f, d') ∧ d'.find? h = some s' ∧
      s'.Mirrors top p (PlainFile.after rs f) := by
  induction rs generalizing d s f with
  | nil => exact ⟨d, s, rfl, hd, hm⟩
  | cons r rs ih =>
    have le : (f.answer r).2.pos ≤ top := by
      cases rs with
      | nil => exact within.2
      | cons r' rs => exact within.2.1
    obtain ⟨reply, mirrors⟩ := Stream.perform_mirrors a r hm le
    obtain ⟨d', s', hs, hd', hm'⟩ := ih _ (find?_replace hd _) mirrors within.2
    refine ⟨d', s', ?_, hd', hm'⟩
    rw [serve, visit_memory hd]
    dsimp only
    rw [hs, reply, mirrors.marks]
    rfl

/-- closing hands the contents of the file over -/
theorem closeSnatch_mirrors (a : p.Ample top) {d : Desk Memory σ} (hd : d.find? h = some s)
    (hm : s.Mirrors top p f) : (d.closeSnatch h).map (·.1) = some (.ok f.content) := by
  obtain ⟨u, hs, opn, able, settled⟩ := hm.snatch a
  have closed := Stream.close_settled opn able settled
  have hu := find?_replace hd u
  rw [closeSnatch, visit_memory hd, hs]
  dsimp only
  rw [close, remove, hu]
  dsimp only
  have hc : ∀ shared : σ, borrow Stream.close shared u = (u.close.1, u.close.2, shared) :=
    fun _ => rfl
  rw [hc, closed]
  rfl

/-- Take a stream over memory that may grow, just opened, with any buffer and any strategy, and any
list of requests through its handle by which no position gets higher than storage can be had for.
The replies and the marks after each are those of a plain file with the same bytes, and the storage
handed over at the end holds what the file holds then. -/
theorem memory_is_file (d : Desk Memory σ) (h : Handle) (o : Opening) (m : OpenMode)
    (p : Memory.Plan) (content : Bytes) (top : Nat) (rs : List Request)
    (named : d.find? h = some (Stream.opened o (Memory.ofData content p) m))
    (plain : m.append = false) (overwrites : p.append = false) (ample : p.Ample top)
    (fits : content.length ≤ offsetRange) (within : PlainFile.Within top rs { content }) :
    ∃ d', d.serve h rs = some (PlainFile.answers rs { content }, d') ∧
      (d'.closeSnatch h).map (·.1) = some (.ok (PlainFile.after rs { content }).content) := by
  have fresh : (Stream.opened o (Memory.ofData content p) m).Mirrors top p { content } :=
    Stream.mirrors_opened o m content plain overwrites fits
  obtain ⟨d', s', hs, hd', hm'⟩ := serve_mirrors ample rs d named fresh within
  exact ⟨d', hs, closeSnatch_mirrors ample hd' hm'⟩

/-- a desk with one stream, over five bytes of memory behind a buffer of three -/
def fiveBytes : Handle × Desk Memory Unit :=
  ({ shared := () } : Desk Memory Unit).place { capacity := 3, strategy := .line }
    (Memory.ofData [1, 2, 3, 4, 5] { block := 2 }) OpenMode.both

/-- reads, pushback, a write in front of what was pushed back, refusals and a seek beyond the end -/
theorem memory_is_file_five :
    ∃ d', fiveBytes.2.serve fiveBytes.1
        [.read 2, .unread [9, 8], .seek 0 .current, .write [10, 11], .tell, .unread [7], .read 9,
          .putc 12, .seek (-9) .finish, .seek 7 .start, .rewind, .unread [1], .putc 2, .getc] =
      some ([(.bytes [1, 2], {}), (.count 2, {}), (.count 0, {}), (.count 2, {}), (.count 2, {}),
        (.count 1, {}), (.bytes [7, 3, 4, 5], { eof := true }), (.done, { eof := true }),
        (.failed .invalid, { eof := true, err := true }), (.count 7, {}), (.done, {}),
        (.count 1, {}), (.failed .invalid, { err := true }), (.byte (some 1), { err := true })],
        d') ∧
      (d'.closeSnatch fiveBytes.1).map (·.1) = some (.ok [10, 11, 3, 4, 5, 12, 0]) :=
  memory_is_file fiveBytes.2 fiveBytes.1 { capacity := 3, strategy := .line } OpenMode.both
    { block := 2 } [1, 2, 3, 4, 5] 100 _ rfl rfl rfl ⟨rfl, rfl, by decide⟩ (by decide) (by decide)

end Desk

end BufferedStreams
