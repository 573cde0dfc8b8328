import BufferedStreams.Proofs.Refinement

/-!
# Lines

A line is the shortest start of the input that ends with a newline, fills the limit or is all there
is (`IsLine`).  There is exactly one (`isLine_linePiece`, `IsLine.unique`), and it can be put together
from pieces, wherever the input is cut (`linePiece_append`).

A stream that reads a line collects it piece by piece on a scratch stream.  The scratch stream mirrors
a file that holds the pieces so far (`Gathered`), so what is read back is the line
(`next_line_read`).
-/

namespace BufferedStreams

/-! ## lines of a byte string -/

/-- does a start of the input come to the end of a line there? -/
def LineEnds (limit : Nat) (input line : Bytes) : Prop :=
  line.getLast? = some newline ∨ (0 < limit ∧ line.length = limit - 1) ∨ line = input

/-- the shortest start of the input that comes to the end of a line -/
structure IsLine (limit : Nat) (input line : Bytes) : Prop where
  start : line <+: input
  ends : LineEnds limit input line
  first : ∀ k < line.length, ¬LineEnds limit input (line.take k)

namespace Stream

/-- what of the bytes may belong to a line that may have `room` bytes -/
def window (room : Option Nat) (bytes : Bytes) : Bytes := bytes.take (room.getD bytes.length)

theorem linePiece_eq (room : Option Nat) (bytes : Bytes) :
    linePiece room bytes = uptoNewline (window room bytes) := by
  cases room with
  | none => rw [linePiece, window, Option.getD_none, List.take_length]
  | some n => rfl

theorem linePiece_start (room : Option Nat) (bytes : Bytes) : linePiece room bytes <+: bytes := by
  rw [linePiece_eq]
  exact (uptoNewline_start _).trans (List.take_prefix _ _)

/-- a piece is empty only if nothing is in view, or there is no room -/
theorem linePiece_nil {room : Option Nat} {bytes : Bytes} (more : room ≠ some 0)
    (h : linePiece room bytes = []) : bytes = [] := by
  cases bytes with
  | nil => rfl
  | cons b bytes =>
    obtain ⟨n, hn⟩ : ∃ n, room.getD (b :: bytes).length = n + 1 := by
      cases room with
      | none => exact ⟨_, rfl⟩
      | some n =>
        refine ⟨n - 1, ?_⟩
        have : n ≠ 0 := fun e => more (congrArg some e)
        show n = n - 1 + 1
        omega
    rw [linePiece_eq, window, hn, List.take_succ_cons, uptoNewline_cons] at h
    split at h <;> cases h

/-- a line is put together from a piece of what is in view and the rest -/
theorem linePiece_append (room : Option Nat) (view rest : Bytes) :
    linePiece room (view ++ rest) =
      if endsLine (linePiece room view) then linePiece room view
      else linePiece room view ++ linePiece (room.map (· - (linePiece room view).length))
        ((view ++ rest).drop (linePiece room view).length) := by
  have split : ∃ more, window room (view ++ rest) = window room view ++ more ∧
      more = window (room.map (· - (window room view).length))
        ((view ++ rest).drop (window room view).length) := by
    cases room with
    | none =>
      refine ⟨rest, ?_, ?_⟩
      · simp only [window, Option.getD_none, List.take_length]
      · simp only [window, Option.getD_none, Option.map_none, List.take_length, List.drop_left]
    | some n =>
      refine ⟨rest.take (n - view.length), List.take_append, ?_⟩
      simp only [window, Option.getD_some, Option.map_some, List.length_take]
      rcases Nat.le_total n view.length with le | le
      · rw [Nat.min_eq_left le, Nat.sub_self, List.take_zero, Nat.sub_eq_zero_of_le le,
          List.take_zero]
      · rw [Nat.min_eq_right le, List.drop_left]
  obtain ⟨more, whole, hmore⟩ := split
  rw [linePiece_eq, whole, uptoNewline_append, linePiece_eq room view, endsLine_uptoNewline]
  by_cases h : newline ∈ window room view
  · rw [if_pos h, decide_eq_true h, if_pos rfl]
  · rw [if_neg h, decide_eq_false h, if_neg Bool.false_ne_true, uptoNewline_none h, linePiece_eq,
      hmore]

theorem isLine_linePiece (limit : Nat) (input : Bytes) :
    IsLine limit input (linePiece (lineRoom limit) input) where
  start := linePiece_start _ _
  ends := by
    rw [linePiece_eq]
    by_cases h : newline ∈ window (lineRoom limit) input
    · exact .inl (getLast?_uptoNewline h)
    · rw [uptoNewline_none h]
      unfold lineRoom window
      split
      · refine .inr (.inr ?_)
        rw [Option.getD_none, List.take_length]
      · rw [Option.getD_some]
        rcases Nat.le_total (limit - 1) input.length with le | le
        · refine .inr (.inl ⟨by omega, ?_⟩)
          exact List.length_take_of_le le
        · exact .inr (.inr (List.take_of_length_le le))
  first := by
    intro k hk
    have short : ((linePiece (lineRoom limit) input).take k).length = k :=
      List.length_take_of_le (Nat.le_of_lt hk)
    have hin := (linePiece_start (lineRoom limit) input).length_le
    rintro (last | ⟨pos, full⟩ | all)
    · rw [linePiece_eq] at last hk
      have := uptoNewline_first (List.mem_of_getLast? last)
      omega
    · have bound : (linePiece (lineRoom limit) input).length ≤ limit - 1 := by
        rw [lineRoom, if_neg (by omega), linePiece_eq]
        refine Nat.le_trans (uptoNewline_start _).length_le ?_
        exact List.length_take_le _ _
      omega
    · rw [all] at short
      omega

end Stream

theorem IsLine.unique {limit : Nat} {input line line' : Bytes} (h : IsLine limit input line)
    (h' : IsLine limit input line') : line = line' := by
  have start := List.prefix_iff_eq_take.mp h.start
  have start' := List.prefix_iff_eq_take.mp h'.start
  rcases Nat.lt_trichotomy line.length line'.length with lt | same | lt
  · refine absurd h.ends ?_
    have cut : line'.take line.length = line := by
      rw [start', List.take_take, Nat.min_eq_left (Nat.le_of_lt lt)]
      exact start.symm
    rw [← cut]
    exact h'.first _ lt
  · rw [start, same]
    exact start'.symm
  · refine absurd h'.ends ?_
    have cut : line.take line'.length = line' := by
      rw [start, List.take_take, Nat.min_eq_left (Nat.le_of_lt lt)]
      exact start'.symm
    rw [← cut]
    exact h.first _ lt

/-! ## the scratch stream -/

namespace Stream

/-- a scratch stream holds the pieces collected so far -/
def Gathered (done : Stream Memory) (bytes : Bytes) : Prop :=
  Mirrors allocatable {} done { content := bytes, pos := bytes.length }

theorem ample_allocatable : ({} : Memory.Plan).Ample allocatable := ⟨rfl, rfl, by decide⟩

theorem gathered_scratch : Gathered scratch [] :=
  mirrors_opened { capacity := usualBuffer } OpenMode.both [] rfl rfl (Nat.zero_le _)

variable {done done' : Stream Memory} {bytes piece : Bytes}

theorem Gathered.writeAll (h : Gathered done bytes)
    (fits : (bytes ++ piece).length ≤ allocatable) :
    ∃ done', done.writeAll piece = (.ok (), done') ∧ Gathered done' (bytes ++ piece) := by
  have here : ({ content := bytes, pos := bytes.length } : PlainFile).place = bytes.length :=
    Int.sub_zero _
  have file : ({ content := bytes, pos := bytes.length } : PlainFile).write piece .done =
      (.done, { content := bytes ++ piece, pos := (bytes ++ piece).length }) := by
    rw [PlainFile.write, if_neg (by omega), here, Int.toNat_natCast, List.length_append, overlay]
    simp
  obtain ⟨reply, mirrors⟩ := Mirrors.writeAll ample_allocatable h piece (by rw [file]; exact fits)
  rw [file] at reply mirrors
  rcases hw : done.writeAll piece with ⟨f | _, done'⟩
  · rw [hw] at reply
    cases reply
  · rw [hw] at mirrors
    exact ⟨done', rfl, mirrors⟩

/-- what was gathered is read back in one go -/
theorem Gathered.readBack (h : Gathered done bytes) (some : bytes ≠ []) :
    ∃ done', done.readBack bytes.length = (.ok bytes, done') := by
  have length_pos : bytes.length ≠ 0 := fun e => some (List.eq_nil_of_length_eq_zero e)
  obtain ⟨reply, start⟩ := Mirrors.seek ample_allocatable h 0 .start (Nat.zero_le _)
  have file : ({ content := bytes } : PlainFile).read bytes.length =
      (bytes, { content := bytes, pos := bytes.length }) := by
    rw [PlainFile.read, if_neg length_pos]
    simp
  rw [Stream.readBack]
  rcases hs : done.seek 0 .start with ⟨f | pos, u⟩
  · rw [hs] at reply
    cases reply
  · rw [hs] at start
    have begins : Mirrors allocatable {} u { content := bytes } := by
      have stretch : bytes ++ zeros (0 - bytes.length) = bytes := by
        rw [Nat.zero_sub, zeros_zero, List.append_nil]
      have moved : Mirrors allocatable {} u { content := bytes ++ zeros (0 - bytes.length) } :=
        start
      rwa [stretch] at moved
    obtain ⟨result, ends⟩ := Mirrors.read ample_allocatable begins (by rw [file]; exact h.pos_le)
    have reads := read_feeding bytes.length (begins.stored.feeding (seek_reading hs))
    rw [file] at result
    rcases hr : u.read bytes.length with ⟨f | got, v⟩
    · rw [hr] at result
      cases result
    · rw [hr] at result ends reads
      cases result
      have r : v.writing = false := reads.reading
      have closes : v.close.1 = .ok () :=
        close_settled ends.opn ends.stored.able fun w => absurd w (by simp [r])
      have once : u.readFully bytes.length = (.ok bytes, v) := by
        obtain ⟨b, rest, rfl⟩ := List.exists_cons_of_ne_nil some
        rw [readFully, if_neg length_pos, hr]
        dsimp only
        rw [Nat.sub_self, readFully, if_pos rfl]
        show (Except.ok (b :: rest ++ []), v) = _
        rw [List.append_nil]
      refine ⟨v.close.2, ?_⟩
      dsimp only
      rw [once]
      dsimp only
      rw [closes]
      rfl

end Stream

/-! ## reading a line -/

variable {δ : Type} [Device δ]

/-- a device with bytes to deliver whose reads never fail -/
def Contents.unfailing (c : Contents δ)
    (sure : ∀ n d, c.valid d → 0 < n → ∃ got, (Device.read n d).1 = .ok got) : Source δ where
  toContents := c
  failures _ := 0
  count {n d d' r} ok n_pos call := by
    refine ⟨?_, fun _ _ => rfl⟩
    rintro f rfl
    obtain ⟨got, hg⟩ := sure n d ok n_pos
    rw [call] at hg
    cases hg

/-- what a peek shows -/
def Buffer.shown (b : Buffer) : Bytes := if b.pushed ≠ [] then b.pushed else b.readable

namespace Stream

variable {s u : Stream δ} {c : Source δ}

theorem skipped_shown {b : Buffer} {n : Nat} (sound : b.Sound) (h : n ≤ b.shown.length) :
    ∃ b', skipped n b = .ok b' := by
  unfold Buffer.shown at h
  unfold skipped
  split at h
  · next pushed =>
    rw [if_pos pushed, Buffer.dropPushed, if_neg (by omega)]
    exact ⟨_, rfl⟩
  · next bare =>
    rw [Buffer.length_readable sound] at h
    rw [if_neg bare, Buffer.consume, if_neg (by omega)]
    exact ⟨_, rfl⟩

omit [Device δ] in
/-- a skip asks nothing of the device -/
theorem skip_device (n : Nat) (s : Stream δ) : (s.skip n).2.device = s.device := by
  unfold skip
  split
  · rfl
  · split
    · rfl
    · rfl

/-- as many bytes as a peek shows can be skipped -/
theorem skip_shown {n : Nat} (h : s.Feeding c) (le : n ≤ s.buffer.shown.length) :
    ∃ v, s.skip n = (.ok (), v) ∧ v.Feeding c ∧ v.device = s.device ∧
      v.input c = (s.input c).drop n := by
  obtain ⟨b, hk⟩ := skipped_shown h.sound.buffer le
  have device := skip_device n s
  rcases skip_input n h with ⟨v, hv, feeding, -, input⟩ | ⟨f, hf⟩
  · rw [hv] at device
    exact ⟨v, hv, feeding, device, input⟩
  · rw [skip, if_neg (by simp [h.reading]), hk] at hf
    cases hf

/-- a peek fails with a device read, or shows something, or comes to the end of the input -/
theorem peek_shown (h : s.Feeding c) :
    (∃ f u, s.peek = (.error f, u) ∧ c.failures s.device < c.failures u.device) ∨
      ∃ u, s.peek = (.ok u.buffer.shown, u) ∧ c.failures u.device = c.failures s.device ∧
        (u.buffer.shown = [] → u.marks = s.markEnd.marks) := by
  unfold peek
  rw [turnToRead_reading h.reading]
  dsimp only
  split
  · next pushed =>
    have shown : s.buffer.shown = s.buffer.pushed := if_pos pushed
    refine .inr ⟨s, by rw [shown], rfl, fun e => absurd (shown.symm.trans e) pushed⟩
  · next hp =>
    have bare : s.buffer.pushed = [] := Decidable.not_not.mp hp
    have path := stock_path h.reading bare
    have hb := stock_pushed s
    rcases hs : s.stock with ⟨f | _, u⟩
    · exact .inl ⟨f, u, rfl, stock_error h hs⟩
    · rw [hs] at path hb
      have shown : u.buffer.shown = u.buffer.readable := if_neg (fun ne => ne (hb.trans bare))
      obtain ⟨same, come⟩ := stock_ok h bare hs
      refine .inr ⟨u, by rw [shown], same, ?_⟩
      intro empty
      rcases come with ⟨-, -, marks⟩ | ⟨full, -⟩
      · exact marks
      · have length := Buffer.length_readable (path.feeding h).1.sound.buffer
        rw [← shown, empty] at length
        exact absurd length.symm full

theorem linePiece_zero (bytes : Bytes) : linePiece (some 0) bytes = [] := by
  rw [linePiece_eq]
  rfl

/-- a peek and a skip take a piece of the line off the input, unless a device read fails or the input
has come to its end -/
theorem piece_taken {room : Option Nat} (h : s.Feeding c) (more : room ≠ some 0) :
    (∃ f u, s.peek = (.error f, u) ∧ c.failures s.device < c.failures u.device) ∨
      ∃ u piece, s.peek = (.ok u.buffer.shown, u) ∧ linePiece room u.buffer.shown = piece ∧
        ((piece = [] ∧ linePiece room (s.input c) = [] ∧ u.input c = s.input c ∧
            u.marks = s.markEnd.marks) ∨
          (piece ≠ [] ∧ ∃ v, u.skip piece.length = (.ok (), v) ∧ v.Feeding c ∧
            c.failures v.device = c.failures s.device ∧ s.input c = piece ++ v.input c ∧
            linePiece room (s.input c) =
              if endsLine piece then piece
              else piece ++ linePiece (room.map (· - piece.length)) (v.input c))) := by
  rcases peek_shown h with failed | ⟨u, hp, even, at_end⟩
  · exact .inl failed
  obtain ⟨hu, same, view⟩ := peek_input h
  rw [hp] at hu same view
  obtain ⟨⟨rest, whole⟩, ends_here⟩ := view _ rfl
  refine .inr ⟨u, _, hp, rfl, ?_⟩
  by_cases none : linePiece room u.buffer.shown = []
  · have empty := linePiece_nil more none
    refine .inl ⟨none, ?_, same, at_end empty⟩
    rw [empty] at none
    rw [ends_here empty]
    exact none
  · have start := linePiece_start room u.buffer.shown
    obtain ⟨v, hk, hv, device, left⟩ := skip_shown hu start.length_le
    rw [same] at left
    refine .inr ⟨none, v, hk, hv, ?_, ?_, ?_⟩
    · rw [device]
      exact even
    · rw [left]
      exact (List.prefix_iff_eq_append.mp (start.trans ⟨rest, whole⟩)).symm
    · have line := linePiece_append room u.buffer.shown rest
      rw [whole, ← left] at line
      exact line

/-- collecting brings the line to the scratch stream, behind what is there already, unless a device
read fails -/
theorem collect_line {room : Option Nat} {done : Stream Memory} {bytes : Bytes} (h : s.Feeding c)
    (gathered : Gathered done bytes)
    (fits : (bytes ++ linePiece room (s.input c)).length ≤ allocatable) :
    c.failures s.device < c.failures (s.collect room bytes.length done).2.2.device ∨
      ∃ done' s', s.collect room bytes.length done =
          (.ok (bytes ++ linePiece room (s.input c)).length, done', s') ∧
        Gathered done' (bytes ++ linePiece room (s.input c)) ∧
        s.input c = linePiece room (s.input c) ++ s'.input c ∧
        (linePiece room (s.input c) = [] →
          s'.marks = if room = some 0 then s.marks else s.markEnd.marks) := by
  -- each piece leaves less of the input
  induction hn : (s.input c).length using Nat.strongRecOn generalizing room s done bytes with
  | _ n ih =>
    rw [collect]
    by_cases full : room = some 0
    · subst full
      rw [if_pos rfl, linePiece_zero, List.append_nil]
      exact .inr ⟨done, s, rfl, gathered, rfl, fun _ => (if_pos rfl).symm⟩
    rcases piece_taken h full with ⟨f, u, hp, failed⟩ | ⟨u, piece, hp, hpiece, taken⟩
    · rw [if_neg full, hp]
      exact .inl failed
    rw [if_neg full, hp]
    dsimp only
    rw [hpiece]
    rcases taken with ⟨none, nothing, same, marks⟩ | ⟨some, v, hk, hv, even, parts, line⟩
    · rw [if_pos (by rw [none]; rfl), nothing, List.append_nil]
      refine .inr ⟨done, u, rfl, gathered, same.symm, fun _ => ?_⟩
      rw [if_neg full]
      exact marks
    have start : piece <+: linePiece room (s.input c) := by
      rw [line]
      split
      · exact List.prefix_refl _
      · exact List.prefix_append _ _
    have short : (bytes ++ piece).length ≤ allocatable := by
      have := start.length_le
      rw [List.length_append] at fits ⊢
      omega
    have room_left : ¬longestLine < bytes.length := by
      have : allocatable ≤ longestLine := by decide
      rw [List.length_append] at short
      omega
    have length_pos : piece.length ≠ 0 := fun e => some (List.eq_nil_of_length_eq_zero e)
    obtain ⟨done', hw, gathered'⟩ := gathered.writeAll short
    rw [if_neg length_pos, if_neg room_left, hw]
    dsimp only
    rw [hk]
    dsimp only
    rw [← List.length_append]
    by_cases ends : endsLine piece = true
    · rw [if_pos ends] at line ⊢
      rw [line]
      exact .inr ⟨done', v, rfl, gathered', parts, fun e => absurd e some⟩
    · rw [if_neg ends] at line ⊢
      have less : (v.input c).length < n := by
        rw [← hn, parts, List.length_append]
        omega
      rw [line, ← List.append_assoc] at fits ⊢
      rw [← even]
      rcases ih _ less hv gathered' fits rfl with failed | ⟨done'', s', hc, gathered'', left, -⟩
      · exact .inl failed
      refine .inr ⟨done'', s', hc, gathered'', ?_, fun e => ?_⟩
      · rw [List.append_assoc, ← left]
        exact parts
      · exact absurd (List.append_eq_nil_iff.mp e).1 some

theorem lineRoom_zero (limit : Nat) : lineRoom limit = some 0 ↔ limit = 1 := by
  unfold lineRoom
  split
  · next h =>
    constructor
    · intro e
      cases e
    · intro e
      omega
  · rw [Option.some_inj]
    omega

/-- once the pieces are collected the device is not asked again -/
theorem nextLine_device (limit : Nat) (s : Stream δ) :
    (s.nextLine limit).2.device = (s.collect (lineRoom limit) 0 scratch).2.2.device := by
  unfold nextLine
  rcases s.collect (lineRoom limit) 0 scratch with ⟨f | size, done, u⟩
  · rfl
  · dsimp only
    split
    · split
      · rfl
      · rfl
    · rfl

/-- a reading stream comes to the next line of its input, unless a device read fails -/
theorem nextLine_cases (limit : Nat) (h : s.Feeding c)
    (fits : (linePiece (lineRoom limit) (s.input c)).length ≤ allocatable) :
    c.failures s.device < c.failures (s.nextLine limit).2.device ∨
      ∃ s', s.nextLine limit = (.ok (linePiece (lineRoom limit) (s.input c)), s') ∧
        s.input c = linePiece (lineRoom limit) (s.input c) ++ s'.input c ∧
        (linePiece (lineRoom limit) (s.input c) = [] →
          s'.marks = if limit = 1 then s.marks else s.markEnd.marks) := by
  rcases collect_line h gathered_scratch fits with failed | ⟨done, u, hc, gathered, input, marks⟩
  · exact .inl (nextLine_device limit s ▸ failed)
  rw [List.nil_append] at hc gathered
  rw [List.length_nil] at hc
  simp only [lineRoom_zero] at marks
  generalize linePiece (lineRoom limit) (s.input c) = line at *
  rw [nextLine, hc]
  dsimp only
  by_cases empty : line = []
  · have here := marks empty
    subst empty
    rw [if_pos List.length_nil]
    split
    · next one =>
      rw [if_pos one] at here
      exact .inr ⟨u, rfl, input, fun _ => here⟩
    · next more =>
      rw [if_neg more] at here
      refine .inr ⟨u.markEnd, rfl, input, fun _ => ?_⟩
      rw [markEnd, here]
      rfl
  · obtain ⟨done', back⟩ := gathered.readBack empty
    rw [if_neg fun e => empty (List.eq_nil_of_length_eq_zero e), back]
    exact .inr ⟨_, rfl, input, fun e => absurd e empty⟩

/-- a reading stream over a device that never fails comes to the next line of its input -/
theorem nextLine_line (limit : Nat) (still : ∀ d d', ¬c.failures d < c.failures d')
    (h : s.Feeding c) (fits : (linePiece (lineRoom limit) (s.input c)).length ≤ allocatable) :
    ∃ s', s.nextLine limit = (.ok (linePiece (lineRoom limit) (s.input c)), s') ∧
      s.input c = linePiece (lineRoom limit) (s.input c) ++ s'.input c ∧
      (linePiece (lineRoom limit) (s.input c) = [] →
        s'.marks = if limit = 1 then s.marks else s.markEnd.marks) :=
  (nextLine_cases limit h fits).resolve_left (still _ _)

/-- Take a stream over a device whose reads never fail, whatever the chunks it delivers, and let the
stream be reading after some operations.  Then a request for a line gives the next line of the input,
in place of what was in `old`, and leaves the rest of the input; an empty line sets the end mark,
unless the limit left no room for a byte. -/
theorem next_line_read (c : Contents δ)
    (sure : ∀ n d, c.valid d → 0 < n → ∃ got, (Device.read n d).1 = .ok got)
    (o : Opening) (d : δ) (m : OpenMode) (able : (Device.abilities d).read = true)
    (before : List Op) (reading : (after before (opened o d m)).writing = false)
    (valid : c.valid (after before (opened o d m)).device) (limit : Nat) (old : Bytes)
    (storable : ∀ line, IsLine limit ((after before (opened o d m)).input c) line →
      line.length ≤ allocatable) :
    ∃ line s', IsLine limit ((after before (opened o d m)).input c) line ∧
      (after before (opened o d m)).readLine limit old = (.ok line.length, line, s') ∧
      (after before (opened o d m)).input c = line ++ s'.input c ∧
      (line = [] → s'.marks =
        if limit = 1 then (after before (opened o d m)).marks
        else (after before (opened o d m)).markEnd.marks) := by
  have sound := after_sound before (opened_sound o d m)
  have path := after_path before (opened_sound o d m)
  generalize after before (opened o d m) = s at *
  have feeding : s.Feeding (c.unfailing sure) := by
    refine ⟨reading, ?_, sound, valid⟩
    rw [path.constant.2.1]
    exact able
  have line := isLine_linePiece limit (s.input c)
  obtain ⟨s', next, rest⟩ :=
    nextLine_line limit (fun _ _ => Nat.lt_irrefl 0) feeding (storable _ line)
  refine ⟨_, s', line, ?_, rest⟩
  rw [readLine, next]
  rfl

/-- a byte pushed back in front of read-ahead, a newline beyond the buffer, and a limit that is not
reached -/
theorem next_line_read_four :
    ∃ s', (after [.peek, .unread [7]] (opened { capacity := 2 }
        (Memory.ofData [1, 2, newline, 4] {}) { access := .readOnly })).readLine 9 [5, 5] =
      (.ok 4, [7, 1, 2, newline], s') ∧ s'.input (Source.memory {}).toContents = [4] := by
  have input : (after [.peek, .unread [7]] (opened { capacity := 2 }
      (Memory.ofData [1, 2, newline, 4] {}) { access := .readOnly })).input
        (Source.memory {}).toContents = [7, 1, 2, newline, 4] := by
    decide
  have here : IsLine 9 [7, 1, 2, newline, 4] [7, 1, 2, newline] := isLine_linePiece 9 _
  have line : ∀ {line}, IsLine 9 [7, 1, 2, newline, 4] line → line = [7, 1, 2, newline] :=
    fun h => h.unique here
  obtain ⟨found, s', is, read, rest, -⟩ := next_line_read (Source.memory {}).toContents
    (fun n d _ _ => ⟨_, congrArg Prod.fst (Memory.read_eq d n)⟩) { capacity := 2 }
    (Memory.ofData [1, 2, newline, 4] {}) { access := .readOnly } rfl [.peek, .unread [7]] rfl
    ⟨by decide, by decide, rfl, rfl⟩ 9 [5, 5]
    (by
      intro found is
      rw [input] at is
      rw [line is]
      decide)
  rw [input] at is rest
  obtain rfl := line is
  exact ⟨s', read, List.append_cancel_left rest.symm⟩

end Stream

end BufferedStreams
