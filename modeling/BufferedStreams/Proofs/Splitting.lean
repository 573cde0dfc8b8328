import BufferedStreams.Proofs.Contents
import BufferedStreams.Proofs.Strategy

/-!
# Transfers in two parts

A buffered stream drains and fills at the edges of its buffer and nowhere else, so it does not matter
how a transfer is cut.  Moving `a ++ b` is moving `a` and then, if all of it was moved, moving `b`: the
device sees the same calls, and the stream ends up the same.

* `Buffer.append_append`, `Buffer.take_take`   what the buffer does with two parts;
* `stow_append`, `readStocked_add`             so do the loops around it;
* `emit_append`, `intake_add`                  the turn in front is made once;
* `transfers_split`                            in every state that a stream can come to.
-/

namespace BufferedStreams

/-! ## going on -/

section Further

variable {δ : Type}

/-- a write of `n` bytes and, if it took all of them, what comes next -/
def Outcome.further (n : Nat) (next : Stream δ → Outcome × Stream δ) (r : Outcome × Stream δ) :
    Outcome × Stream δ :=
  if r.1.count = n then ((next r.2).1.after n, (next r.2).2) else r

/-- a read of `n` bytes and, if it gave all of them, what comes next -/
def Intake.further (n : Nat) (next : Stream δ → Intake × Stream δ) (r : Intake × Stream δ) :
    Intake × Stream δ :=
  if r.1.bytes.length = n then ((next r.2).1.after r.1.bytes, (next r.2).2) else r

theorem Outcome.further_short {n : Nat} {next : Stream δ → Outcome × Stream δ}
    {r : Outcome × Stream δ} (short : r.1.count ≠ n) : further n next r = r := if_neg short

theorem Outcome.further_whole {n : Nat} {next : Stream δ → Outcome × Stream δ}
    {r : Outcome × Stream δ} (whole : r.1.count = n) :
    further n next r = ((next r.2).1.after n, (next r.2).2) := if_pos whole

theorem Intake.further_short {n : Nat} {next : Stream δ → Intake × Stream δ}
    {r : Intake × Stream δ} (short : r.1.bytes.length ≠ n) : further n next r = r := if_neg short

theorem Intake.further_whole {n : Nat} {next : Stream δ → Intake × Stream δ}
    {r : Intake × Stream δ} (whole : r.1.bytes.length = n) :
    further n next r = ((next r.2).1.after r.1.bytes, (next r.2).2) := if_pos whole

theorem Outcome.further_zero (next : Stream δ → Outcome × Stream δ) (u : Stream δ) :
    further 0 next ({}, u) = next u := by
  simp [further, after]

theorem Intake.further_zero (next : Stream δ → Intake × Stream δ) (u : Stream δ) :
    further 0 next ({}, u) = next u := by
  simp [further, after]

theorem Outcome.further_congr {n : Nat} {next next' : Stream δ → Outcome × Stream δ}
    {r : Outcome × Stream δ} (same : next r.2 = next' r.2) :
    further n next r = further n next' r := by
  simp only [further, same]

theorem Intake.further_congr {n : Nat} {next next' : Stream δ → Intake × Stream δ}
    {r : Intake × Stream δ} (same : next r.2 = next' r.2) :
    further n next r = further n next' r := by
  simp only [further, same]

/-- bytes moved before do not matter for what comes next -/
theorem Outcome.further_after (k n : Nat) (next : Stream δ → Outcome × Stream δ)
    (t : Outcome) (u : Stream δ) :
    further (k + n) next (t.after k, u) =
      ((further n next (t, u)).1.after k, (further n next (t, u)).2) := by
  by_cases whole : t.count = n
  · have added : (t.after k).count = k + n := congrArg (k + ·) whole
    rw [further_whole added, further_whole whole]
    simp [after, Nat.add_assoc]
  · have added : (t.after k).count ≠ k + n := fun h => whole (Nat.add_left_cancel h)
    rw [further_short added, further_short whole]

theorem Intake.further_after (bytes : Bytes) (n : Nat) (next : Stream δ → Intake × Stream δ)
    (t : Intake) (u : Stream δ) :
    further (bytes.length + n) next (t.after bytes, u) =
      ((further n next (t, u)).1.after bytes, (further n next (t, u)).2) := by
  have length : (t.after bytes).bytes.length = bytes.length + t.bytes.length := List.length_append
  by_cases whole : t.bytes.length = n
  · have added : (t.after bytes).bytes.length = bytes.length + n := by rw [length, whole]
    rw [further_whole added, further_whole whole]
    simp [after]
  · have added : (t.after bytes).bytes.length ≠ bytes.length + n := by omega
    rw [further_short added, further_short whole]

/-- once bytes were moved a failure does not show -/
theorem Outcome.result_some {t : Outcome} (some : t.count ≠ 0) : t.result = .ok t.count := by
  rcases hr : t.result with f | n
  · obtain ⟨none, -⟩ := result_eq_error.mp hr
    exact absurd none some
  · rw [result_ok hr]

theorem Intake.result_some {t : Intake} (some : t.bytes ≠ []) : t.result = .ok t.bytes := by
  rcases hr : t.result with f | bytes
  · obtain ⟨none, -⟩ := result_eq_error.mp hr
    exact absurd none some
  · rw [(result_ok hr).1]

theorem Outcome.result_after {k : Nat} (some : k ≠ 0) (t : Outcome) :
    (t.after k).result = .ok (k + t.result.toOption.getD 0) := by
  have moved : (t.after k).count ≠ 0 := by
    show k + t.count ≠ 0
    omega
  have second : t.result.toOption.getD 0 = t.count := by
    rcases hr : t.result with f | n
    · exact (result_eq_error.mp hr).1.symm
    · exact (result_ok hr).symm
  rw [result_some moved, second]
  rfl

theorem Intake.result_after {bytes : Bytes} (some : bytes ≠ []) (t : Intake) :
    (t.after bytes).result = .ok (bytes ++ t.result.toOption.getD []) := by
  have moved : (t.after bytes).bytes ≠ [] := fun h => some (List.append_eq_nil_iff.mp h).1
  have second : t.result.toOption.getD [] = t.bytes := by
    rcases hr : t.result with f | got
    · exact (result_eq_error.mp hr).1.symm
    · exact (result_ok hr).1.symm
  rw [result_some moved, second]
  rfl

end Further

/-! ## the buffer -/

theorem Slab.ext {s t : Slab} (size : s.size = t.size) (known : s.known = t.known) : s = t := by
  cases s
  cases t
  simp only at size known
  subst size known
  rfl

theorem Slab.store_nil (s : Slab) (pos : Nat) : s.store pos [] = s := by
  simp [store]

theorem Slab.known_store {s : Slab} {pos : Nat} {bytes : Bytes} (some : bytes ≠ [])
    (fits : bytes.length ≤ s.size - pos) :
    (s.store pos bytes).known = overlay s.known pos bytes := by
  have whole : bytes.take (s.size - pos) = bytes := List.take_of_length_le fits
  simp only [store, whole, some, dite_false]

/-- what is stored in two parts, one behind the other -/
theorem Slab.store_store {s : Slab} {pos : Nat} {a b : Bytes}
    (fits : a.length + b.length ≤ s.size - pos) :
    (s.store pos a).store (pos + a.length) b = s.store pos (a ++ b) := by
  by_cases ha : a = []
  · subst ha
    simp [store_nil]
  · by_cases hb : b = []
    · subst hb
      simp [store_nil]
    · apply Slab.ext
      · simp
      · rw [known_store hb (by rw [size_store]; omega), known_store ha (by omega),
          known_store (by simp [ha]) (by rw [List.length_append]; exact fits), overlay_overlay]

namespace Buffer

theorem space_append (b : Buffer) (bytes : Bytes) :
    (b.append bytes).2.space = b.space - bytes.length := by
  simp only [space, capacity_append, cursor_append]
  omega

/-- what follows bytes that fill the buffer is left out -/
theorem append_full (b : Buffer) {x : Bytes} (y : Bytes) (full : b.space ≤ x.length) :
    b.append (x ++ y) = b.append x := by
  have cut : (x ++ y).take b.space = x.take b.space := List.take_append_of_le_length full
  simp only [append, cut]

/-- what is collected in two parts of which the first one has room -/
theorem append_append (b : Buffer) (x y : Bytes) (room : x.length ≤ b.space) :
    (b.append (x ++ y)).2 = ((b.append x).2.append y).2 := by
  have whole : x.take b.space = x := List.take_of_length_le room
  have left : (b.append x).2.space = b.space - x.length := space_append b x
  have cut : (x ++ y).take b.space = x ++ y.take (b.space - x.length) := by
    rw [List.take_append, whole]
  have stored : (b.slot.store b.cursor x).store (b.cursor + x.length)
      (y.take (b.space - x.length)) = b.slot.store b.cursor (x ++ y.take (b.space - x.length)) := by
    apply Slab.store_store
    have bound : b.space = b.slot.size - b.cursor := rfl
    rw [List.length_take]
    omega
  simp only [append] at left ⊢
  rw [left]
  simp only [cut, whole, stored, List.length_append, Nat.add_assoc]

theorem take_of_readableSize_le (b : Buffer) {m n : Nat} (hm : b.readableSize ≤ m)
    (hn : b.readableSize ≤ n) : b.take m = b.take n := by
  simp only [take, Nat.min_eq_right hm, Nat.min_eq_right hn]

/-- what is handed out in two parts is handed out at once -/
theorem take_take (b : Buffer) (m n : Nat) :
    (b.take (m + n)).1 = (b.take m).1 ++ ((b.take m).2.take n).1 ∧
      (b.take (m + n)).2 = ((b.take m).2.take n).2 := by
  refine ⟨?_, ?_⟩
  · rw [take_fst, take_fst, take_fst, readable_take, List.take_add]
  · have sizes : min (m + n) b.readableSize =
        min m b.readableSize + min n (b.take m).2.readableSize := by
      rw [readableSize_take]
      omega
    simp only [take] at sizes ⊢
    rw [sizes, Nat.add_assoc]

end Buffer

namespace Stream

variable {δ : Type} [Device δ] {s s' : Stream δ}

/-! ## writing -/

/-- room is made before anything is collected -/
theorem stow_made {bytes : Bytes} (some : bytes ≠ []) (made : s.makeSpace = (.ok (), s'))
    (room : s'.buffer.space ≠ 0) :
    s.stow bytes =
      let k := min bytes.length s'.buffer.space
      let r := ({ s' with buffer := (s'.buffer.append bytes).2 } : Stream δ).stow (bytes.drop k)
      (r.1.after k, r.2) := by
  rw [stow, if_neg (by simpa using some), made]
  dsimp only
  rw [if_neg room]

theorem makeSpace_room (room : s.buffer.space ≠ 0) : s.makeSpace = (.ok (), s) := by
  rw [makeSpace, if_neg room]

/-- a write with room for all of `a` and more collects `a` first -/
theorem stow_roomy {a : Bytes} (b : Bytes) (some : a ≠ []) (made : s.makeSpace = (.ok (), s'))
    (room : a.length < s'.buffer.space) :
    s.stow (a ++ b) =
      let r := ({ s' with buffer := (s'.buffer.append a).2 } : Stream δ).stow b
      (r.1.after a.length, r.2) := by
  have some' : a ++ b ≠ [] := fun h => some (List.append_eq_nil_iff.mp h).1
  rw [stow_made some' made (by omega)]
  by_cases hb : b = []
  · subst hb
    have least : min a.length s'.buffer.space = a.length := Nat.min_eq_left (Nat.le_of_lt room)
    simp only [List.append_nil, least, List.drop_length]
  · have left : (s'.buffer.append a).2.space = s'.buffer.space - a.length :=
      Buffer.space_append _ _
    have ready : ({ s' with buffer := (s'.buffer.append a).2 } : Stream δ).makeSpace = _ :=
      makeSpace_room (by rw [left]; omega)
    have least : min (a ++ b).length s'.buffer.space =
        a.length + min b.length (s'.buffer.space - a.length) := by
      rw [List.length_append]
      omega
    rw [stow_made hb ready (by rw [left]; omega)]
    simp only [left, least, List.drop_length_add_append, Outcome.after, Nat.add_assoc,
      Buffer.append_append _ a b (Nat.le_of_lt room)]

/-- a write in two parts collects from the first one what it would collect without the second -/
theorem stow_first {a : Bytes} (b : Bytes) (some : a ≠ []) (made : s.makeSpace = (.ok (), s'))
    (room : s'.buffer.space ≠ 0) :
    s.stow (a ++ b) =
      let k := min a.length s'.buffer.space
      let r := ({ s' with buffer := (s'.buffer.append a).2 } : Stream δ).stow (a.drop k ++ b)
      (r.1.after k, r.2) := by
  by_cases roomy : a.length < s'.buffer.space
  · have whole : min a.length s'.buffer.space = a.length := Nat.min_eq_left (Nat.le_of_lt roomy)
    simp only [stow_roomy b some made roomy, whole, List.drop_length, List.nil_append]
  · have full : s'.buffer.space ≤ a.length := Nat.le_of_not_lt roomy
    have some' : a ++ b ≠ [] := fun h => some (List.append_eq_nil_iff.mp h).1
    have least : min (a ++ b).length s'.buffer.space = min a.length s'.buffer.space := by
      rw [List.length_append]
      omega
    simp only [stow_made some' made room, least, Buffer.append_full _ b full,
      List.drop_append_of_le_length (Nat.min_le_left _ _)]

/-- a buffered write in two parts -/
theorem stow_append (a b : Bytes) (s : Stream δ) :
    s.stow (a ++ b) = Outcome.further a.length (stow b) (s.stow a) := by
  fun_induction stow a s with
  | case1 a s h0 =>
    obtain rfl : a = [] := List.length_eq_zero_iff.mp h0
    exact (Outcome.further_zero (stow b) s).symm
  | case2 a s h0 f u hm =>
    have some : (a ++ b).length ≠ 0 := by
      rw [List.length_append]
      omega
    rw [Outcome.further_short (fun h => h0 h.symm), stow, if_neg some, hm]
  | case3 a s h0 u hm full =>
    have some : (a ++ b).length ≠ 0 := by
      rw [List.length_append]
      omega
    rw [Outcome.further_short (fun h => h0 h.symm), stow, if_neg some, hm]
    dsimp only
    rw [if_pos full]
  | case4 a s h0 u hm room k t v hv ih =>
    have some : a ≠ [] := fun h => h0 (congrArg List.length h)
    have left : k + (a.drop k).length = a.length := by
      rw [List.length_drop]
      omega
    have later := Outcome.further_after k (a.drop k).length (stow b) t v
    rw [left, ← hv, ← ih] at later
    rw [stow_first b some hm room]
    exact later.symm

/-! ## reading -/

theorem readStocked_zero (s : Stream δ) : s.readStocked 0 = ({}, s) := by
  rw [readStocked, if_pos rfl]

/-- the buffer is filled before anything is handed out -/
theorem readStocked_stocked {n : Nat} (n_pos : n ≠ 0) (stocked : s.stock = (.ok (), s'))
    (full : s'.buffer.readableSize ≠ 0) :
    s.readStocked n =
      let k := min n s'.buffer.readableSize
      let r := ({ s' with buffer := (s'.buffer.take n).2 } : Stream δ).readStocked (n - k)
      (r.1.after (s'.buffer.take n).1, r.2) := by
  rw [readStocked, if_neg n_pos, stocked]
  dsimp only
  rw [if_neg full]

theorem stock_readable (full : s.buffer.readableSize ≠ 0) : s.stock = (.ok (), s) := by
  rw [stock, if_neg full]

/-- a read with enough read-ahead for its first part and more hands that out first -/
theorem readStocked_ample {m : Nat} (n : Nat) (m_pos : m ≠ 0) (stocked : s.stock = (.ok (), s'))
    (ample : m < s'.buffer.readableSize) :
    s.readStocked (m + n) =
      let r := ({ s' with buffer := (s'.buffer.take m).2 } : Stream δ).readStocked n
      (r.1.after (s'.buffer.take m).1, r.2) := by
  rw [readStocked_stocked (by omega) stocked (by omega)]
  by_cases hn : n = 0
  · subst hn
    have least : min m s'.buffer.readableSize = m := Nat.min_eq_left (Nat.le_of_lt ample)
    simp only [Nat.add_zero, least, Nat.sub_self]
  · have left : (s'.buffer.take m).2.readableSize = s'.buffer.readableSize - m :=
      Buffer.readableSize_take _ _
    have ready : ({ s' with buffer := (s'.buffer.take m).2 } : Stream δ).stock = _ :=
      stock_readable (by rw [left]; omega)
    have rest : m + n - min (m + n) s'.buffer.readableSize =
        n - min n (s'.buffer.readableSize - m) := by omega
    obtain ⟨bytes, buffer⟩ := Buffer.take_take s'.buffer m n
    rw [readStocked_stocked hn ready (by rw [left]; omega)]
    simp only [left, rest, bytes, buffer, Intake.after, List.append_assoc]

/-- a read in two parts hands out for the first one what it would hand out without the second -/
theorem readStocked_first {m : Nat} (n : Nat) (m_pos : m ≠ 0) (stocked : s.stock = (.ok (), s'))
    (full : s'.buffer.readableSize ≠ 0) :
    s.readStocked (m + n) =
      let k := min m s'.buffer.readableSize
      let r := ({ s' with buffer := (s'.buffer.take m).2 } : Stream δ).readStocked (m - k + n)
      (r.1.after (s'.buffer.take m).1, r.2) := by
  by_cases ample : m < s'.buffer.readableSize
  · have whole : min m s'.buffer.readableSize = m := Nat.min_eq_left (Nat.le_of_lt ample)
    simp only [readStocked_ample n m_pos stocked ample, whole, Nat.sub_self, Nat.zero_add]
  · have all : s'.buffer.take (m + n) = s'.buffer.take m :=
      s'.buffer.take_of_readableSize_le (by omega) (by omega)
    have rest : m + n - min (m + n) s'.buffer.readableSize =
        m - min m s'.buffer.readableSize + n := by omega
    rw [readStocked_stocked (by omega) stocked full]
    simp only [all, rest]

/-- a buffered read in two parts -/
theorem readStocked_add (m n : Nat) (s : Stream δ) (r : s.writing = false) (sound : s.Sound)
    (bare : s.buffer.pushed = []) :
    s.readStocked (m + n) = Intake.further m (readStocked n) (s.readStocked m) := by
  fun_induction readStocked m s with
  | case1 s =>
    rw [Nat.zero_add]
    exact (Intake.further_zero (readStocked n) s).symm
  | case2 m s hm f u hs =>
    have short : ([] : Bytes).length ≠ m := fun h => hm h.symm
    rw [Intake.further_short short, readStocked, if_neg (by omega), hs]
  | case3 m s hm u hs dry =>
    have short : ([] : Bytes).length ≠ m := fun h => hm h.symm
    rw [Intake.further_short short, readStocked, if_neg (by omega), hs]
    dsimp only
    rw [if_pos dry]
  | case4 m s hm u hs full k t v hv ih =>
    have path := stock_path r bare
    have pushed := stock_pushed s
    rw [hs] at path pushed
    have hu : u.Sound := path.sound sound
    have reading : u.writing = false := path.writing.trans r
    have handed : Step u _ _ { u with buffer := (u.buffer.take m).2 } :=
      .handed m reading (pushed.trans bare)
    have len : (u.buffer.take m).1.length = k := Buffer.length_take_fst hu.buffer m
    have left : (u.buffer.take m).1.length + (m - k) = m := by
      rw [len]
      omega
    have later := Intake.further_after (u.buffer.take m).1 (m - k) (readStocked n) t v
    rw [left, ← hv, ← ih reading (handed.sound hu) (pushed.trans bare)] at later
    rw [readStocked_first n hm hs full]
    exact later.symm

/-! ## the turn in front -/

/-- a write to a fully buffered stream in two parts -/
theorem emit_append {a : Bytes} (b : Bytes) (some : a ≠ []) (full : s.strategy = .full) :
    s.emit (a ++ b) = Outcome.further a.length (emit b) (s.emit a) := by
  rcases turnToWrite_cases s with ⟨f, d, ht, -, -⟩ | ⟨u, ht, w, path⟩
  · have none : (0 : Nat) ≠ a.length := Nat.ne_of_lt (List.length_pos_iff.mpr some)
    simp only [emit, ht]
    exact (Outcome.further_short none).symm
  · have kept := turnToWrite_strategy s
    rw [ht] at kept
    have stows : ∀ v : Stream δ, v.writing = true → v.strategy = .full →
        ∀ bytes, v.emit bytes = v.stow bytes := by
      intro v w full bytes
      simp only [emit, turnToWrite_writing w, full]
    have turned : ∀ bytes, s.emit bytes = u.stow bytes := by
      intro bytes
      rw [← stows u w (kept.trans full), emit, ht, emit, turnToWrite_writing w]
    have left := stow_path a u w
    have same : emit b (u.stow a).2 = stow b (u.stow a).2 :=
      stows _ (left.writing.trans w) ((stow_strategy a u).trans (kept.trans full)) b
    rw [turned, turned, stow_append, Outcome.further_congr same]

theorem readStocked_kept (n : Nat) (s : Stream δ) :
    (s.readStocked n).2.strategy = s.strategy ∧
      (s.readStocked n).2.buffer.pushed = s.buffer.pushed := by
  have stocked := stock_strategy s
  have pushed := stock_pushed s
  fun_induction readStocked n s with
  | case1 s => exact ⟨rfl, rfl⟩
  | case2 n s hn f u hs =>
    rw [hs] at stocked pushed
    exact ⟨stocked, pushed⟩
  | case3 n s hn u hs dry =>
    rw [hs] at stocked pushed
    exact ⟨stocked, pushed⟩
  | case4 n s hn u hs full k t v hv ih =>
    rw [hs] at stocked pushed
    obtain ⟨strategy, bare⟩ := ih (stock_strategy _) (stock_pushed _)
    rw [hv] at strategy bare
    exact ⟨strategy.trans stocked, bare.trans pushed⟩

/-- a buffered read of a stream that reads already: pushback first, then what is stocked -/
theorem intake_stocked (n : Nat) (r : s.writing = false) (buffered : s.strategy ≠ .direct) :
    s.intake n =
      let p := s.buffer.takePushed n
      let t := ({ s with buffer := p.2 } : Stream δ).readStocked (n - p.1.length)
      (t.1.after p.1, t.2) := by
  simp only [intake, turnToRead_reading r, if_neg buffered]
  split
  · next whole => simp [whole, readStocked_zero, Intake.after]
  · rfl

theorem intake_bare (n : Nat) (r : s.writing = false) (buffered : s.strategy ≠ .direct)
    (bare : s.buffer.pushed = []) : s.intake n = s.readStocked n := by
  have bytes : (s.buffer.takePushed n).1 = [] := by simp [Buffer.takePushed, bare]
  have buffer : (s.buffer.takePushed n).2 = s.buffer := by
    have dropped : s.buffer.pushed.drop n = s.buffer.pushed := by simp [bare]
    simp only [Buffer.takePushed, dropped]
  rw [intake_stocked n r buffered]
  simp [bytes, buffer, Intake.after]

/-- without pushback the second part starts where the first one ends -/
theorem readStocked_intake (m n : Nat) (r : s.writing = false) (sound : s.Sound)
    (buffered : s.strategy ≠ .direct) (bare : s.buffer.pushed = []) :
    s.readStocked (m + n) = Intake.further m (intake n) (s.readStocked m) := by
  obtain ⟨strategy, pushed⟩ := readStocked_kept m s
  have path := readStocked_path m s r bare
  have next : intake n (s.readStocked m).2 = readStocked n (s.readStocked m).2 := by
    apply intake_bare n (path.writing.trans r)
    · rw [strategy]
      exact buffered
    · exact pushed.trans bare
  rw [readStocked_add m n s r sound bare, Intake.further_congr next]

/-- a read of a stream that reads already in two parts -/
theorem intake_reading_add (m n : Nat) (r : s.writing = false) (sound : s.Sound)
    (buffered : s.strategy ≠ .direct) :
    s.intake (m + n) = Intake.further m (intake n) (s.intake m) := by
  rw [intake_stocked _ r buffered, intake_stocked _ r buffered]
  by_cases enough : m ≤ s.buffer.pushed.length
  · -- the pushback has all of the first part
    have len : (s.buffer.takePushed m).1.length = m := List.length_take_of_le enough
    have whole : (({} : Intake).after (s.buffer.takePushed m).1).bytes.length = m := by
      simp [Intake.after, len]
    simp only [len, Nat.sub_self, readStocked_zero]
    rw [Intake.further_whole whole, intake_stocked _ (by exact r) (by exact buffered)]
    simp only [Buffer.takePushed, Intake.after, List.take_add, List.length_append,
      List.length_take_of_le enough, List.append_nil, List.append_assoc, List.drop_drop,
      Nat.add_sub_add_left]
  · -- the first part uses the pushback up
    have all : ∀ k, s.buffer.pushed.length ≤ k →
        s.buffer.takePushed k = (s.buffer.pushed, { s.buffer with pushed := [] }) := by
      intro k le
      simp only [Buffer.takePushed, List.take_of_length_le le, List.drop_eq_nil_of_le le]
    have returned := (Step.returned m r).sound sound
    rw [all m (by omega)] at returned
    have rest : m + n - s.buffer.pushed.length = (m - s.buffer.pushed.length) + n := by omega
    have left : s.buffer.pushed.length + (m - s.buffer.pushed.length) = m := by omega
    simp only [all m (by omega), all (m + n) (by omega), rest]
    rw [readStocked_intake _ n (by exact r) returned (by exact buffered) rfl,
      ← Intake.further_after, left]

/-- a buffered read in two parts -/
theorem intake_add {m : Nat} (n : Nat) (m_pos : 0 < m) (sound : s.Sound)
    (buffered : s.strategy ≠ .direct) :
    s.intake (m + n) = Intake.further m (intake n) (s.intake m) := by
  rcases turnToRead_cases s with ⟨f, u, ht, -, -⟩ | ⟨u, ht, r, path⟩
  · have none : ([] : Bytes).length ≠ m := Nat.ne_of_lt m_pos
    simp only [intake, ht]
    exact (Intake.further_short none).symm
  · have kept := turnToRead_strategy s
    rw [ht] at kept
    have turned : ∀ k, s.intake k = u.intake k := by
      intro k
      rw [intake, ht, intake, turnToRead_reading r]
    rw [turned, turned]
    exact intake_reading_add m n r (path.sound sound) (by rw [kept]; exact buffered)

/-! ## two calls -/

/-- a write of `a` and, if it took all of it, a write of `b`; the count is that of both, and a failure of
the second one does not show, as bytes were moved -/
def writeTwice (a b : Bytes) (s : Stream δ) : Except Fault Nat × Stream δ :=
  match s.write a with
  | (.ok n, u) =>
    if n = a.length then
      let (r, v) := u.write b
      (.ok (n + r.toOption.getD 0), v)
    else (.ok n, u)
  | (.error f, u) => (.error f, u)

/-- a read of `m` bytes and, if it gave all of them, a read of `n` more -/
def readTwice (m n : Nat) (s : Stream δ) : Except Fault Bytes × Stream δ :=
  match s.read m with
  | (.ok bytes, u) =>
    if bytes.length = m then
      let (r, v) := u.read n
      (.ok (bytes ++ r.toOption.getD []), v)
    else (.ok bytes, u)
  | (.error f, u) => (.error f, u)

theorem write_eq {bytes : Bytes} (some : bytes ≠ []) :
    s.write bytes = ((s.emit bytes).1.result, (s.emit bytes).2) := by
  rw [write, if_neg (by simpa using some)]

theorem write_append {a b : Bytes} (ha : a ≠ []) (hb : b ≠ []) (full : s.strategy = .full) :
    s.write (a ++ b) = s.writeTwice a b := by
  have some : a ++ b ≠ [] := fun h => ha (List.append_eq_nil_iff.mp h).1
  have a_pos : 0 < a.length := List.length_pos_iff.mpr ha
  rw [write_eq some, emit_append b ha full, writeTwice, write_eq ha]
  rcases s.emit a with ⟨t, u⟩
  by_cases whole : t.count = a.length
  · have answer : t.result = .ok a.length := by
      rw [← whole]
      exact Outcome.result_some (by omega)
    rw [Outcome.further_whole whole, answer]
    dsimp only
    rw [if_pos rfl, write_eq hb, Outcome.result_after (Nat.ne_of_gt a_pos)]
  · rw [Outcome.further_short whole]
    rcases hr : t.result with f | n
    · rfl
    · have moved : t.count = n := Outcome.result_ok hr
      dsimp only
      rw [if_neg (moved ▸ whole)]

theorem read_add {m n : Nat} (m_pos : 0 < m) (n_pos : 0 < n) (sound : s.Sound)
    (buffered : s.strategy ≠ .direct) : s.read (m + n) = s.readTwice m n := by
  rw [read_eq (by omega), intake_add n m_pos sound buffered, readTwice, read_eq (by omega)]
  rcases s.intake m with ⟨t, u⟩
  by_cases whole : t.bytes.length = m
  · have some : t.bytes ≠ [] := by
      rintro none
      rw [none] at whole
      exact absurd whole (Nat.ne_of_lt m_pos)
    rw [Intake.further_whole whole, Intake.result_some some]
    dsimp only
    rw [if_pos whole, read_eq (by omega), Intake.result_after some]
  · rw [Intake.further_short whole]
    rcases hr : t.result with f | bytes
    · rfl
    · obtain ⟨moved, -⟩ := Intake.result_ok hr
      dsimp only
      rw [if_neg (moved ▸ whole)]

/-- Take a stream over any device, after anything that can happen to it.  If it is fully buffered, a
write of `a ++ b` is a write of `a` and, if that took all of it, a write of `b`: the same count, the same
failure, the same stream and, as the device keeps every call, the same calls.  If it is fully buffered
or line buffered, a read is the same in two parts as in one. -/
theorem transfers_split (o : Opening) (d : δ) (m : OpenMode) (acts : List Act) :
    let s := lived acts (opened o ({ inner := d } : Recorded δ) m)
    (s.strategy = .full → ∀ a b, a ≠ [] → b ≠ [] →
        s.emit (a ++ b) = Outcome.further a.length (emit b) (s.emit a) ∧
          s.write (a ++ b) = s.writeTwice a b) ∧
      (s.strategy = .full ∨ s.strategy = .line → ∀ j k, 0 < j → 0 < k →
        s.intake (j + k) = Intake.further j (intake k) (s.intake j) ∧
          s.read (j + k) = s.readTwice j k) := by
  intro s
  have sound : s.Sound := lived_sound acts (opened_sound o _ m)
  refine ⟨?_, ?_⟩
  · intro full a b ha hb
    exact ⟨emit_append b ha full, write_append ha hb full⟩
  · intro either j k j_pos k_pos
    have buffered : s.strategy ≠ .direct := by
      rcases either with full | line
      · simp [full]
      · simp [line]
    exact ⟨intake_add k j_pos sound buffered, read_add j_pos k_pos sound buffered⟩

/-- four bytes of buffer over six bytes in memory that may not grow, of which two were read -/
theorem transfers_split_six :
    let s := lived [.op (.read 2)] (opened { capacity := 4 }
      ({ inner := Memory.ofData [1, 2, 3, 4, 5, 6] { limit := some 6 } } : Recorded Memory) .both)
    (s.strategy = .full ∧ s.write ([7, 8, 9] ++ [10, 11]) = s.writeTwice [7, 8, 9] [10, 11]) ∧
      s.read (3 + 2) = s.readTwice 3 2 := by
  intro s
  have full : s.strategy = .full := by decide +kernel
  have split := transfers_split { capacity := 4 }
    (Memory.ofData [1, 2, 3, 4, 5, 6] { limit := some 6 }) .both [.op (.read 2)]
  obtain ⟨-, wrote⟩ := split.1 full [7, 8, 9] [10, 11] (by decide) (by decide)
  obtain ⟨-, got⟩ := split.2 (.inl full) 3 2 (by decide) (by decide)
  exact ⟨⟨full, wrote⟩, got⟩

end Stream

end BufferedStreams
