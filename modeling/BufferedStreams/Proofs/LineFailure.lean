import BufferedStreams.Device.Script
import BufferedStreams.Proofs.LineReading

/-!
# Lines that meet a failing read

A line is taken off the input piece by piece, before its end is known.  When a device read fails in
the middle of a line the request fails, and the pieces so far are neither given nor put back.

* `IsLine.behind`       a line goes on behind its start;
* `Scripted.contents`   a script that fails any of its reads still delivers what it has;
* `CutShort`            what such a request loses, and what comes of the next request;
* `collect_failed`      what is lost is the pieces so far, and nothing else;
* `failed_line_loses`   a request that fails so keeps the old line and loses the start of the new one.
-/

namespace BufferedStreams

namespace Stream

/-! ## a line that goes on -/

/-- a piece without a line end is all that is in view and has room -/
theorem newline_notMem_linePiece {room : Option Nat} {view : Bytes}
    (h : endsLine (linePiece room view) = false) : newline ∉ linePiece room view := by
  rw [linePiece_eq, endsLine_uptoNewline, decide_eq_false_iff_not] at h
  rw [linePiece_eq, uptoNewline_none h]
  exact h

/-- a line goes on behind a start that has no line end and leaves some room -/
theorem linePiece_behind {room : Option Nat} {start rest : Bytes} (unended : newline ∉ start)
    (short : ∀ n, room = some n → start.length ≤ n) :
    linePiece room (start ++ rest) = start ++ linePiece (room.map (· - start.length)) rest := by
  have all : window room start = start := by
    cases room with
    | none => exact List.take_length
    | some n => exact List.take_of_length_le (short n rfl)
  have here : linePiece room start = start := by rw [linePiece_eq, all, uptoNewline_none unended]
  have open_end : endsLine start = false := by
    rw [← uptoNewline_none unended, endsLine_uptoNewline]
    exact decide_eq_false unended
  rw [linePiece_append, here, if_neg (by simp [open_end]), List.drop_left]

theorem lineRoom_sub {limit k : Nat} (h : 0 < limit → k < limit) :
    lineRoom (limit - k) = (lineRoom limit).map (· - k) := by
  unfold lineRoom
  by_cases none : limit = 0
  · rw [if_pos none, if_pos (by omega)]
    rfl
  · have := h (by omega)
    rw [if_neg none, if_neg (by omega), Option.map_some]
    congr 1
    omega

end Stream

/-- the line of an input whose start has no line end -/
theorem IsLine.behind {limit : Nat} {start rest line : Bytes} (unended : newline ∉ start)
    (short : 0 < limit → start.length < limit) (h : IsLine (limit - start.length) rest line) :
    IsLine limit (start ++ rest) (start ++ line) := by
  have room : ∀ n, Stream.lineRoom limit = some n → start.length ≤ n := by
    intro n room
    unfold Stream.lineRoom at room
    split at room
    · cases room
    · cases room
      have := short (by omega)
      omega
  have whole : Stream.linePiece (Stream.lineRoom limit) (start ++ rest) = start ++ line := by
    rw [Stream.linePiece_behind unended room, ← Stream.lineRoom_sub short]
    exact congrArg (start ++ ·) ((Stream.isLine_linePiece _ _).unique h)
  rw [← whole]
  exact Stream.isLine_linePiece _ _

/-! ## scripts -/

/-- does a read under an action fail, or give some of what there is? -/
def Action.delivers : Action → Bool
  | .over _ => false
  | .atMost n => n != 0
  | _ => true

namespace Script

/-- the bytes in front of the cursor -/
def ahead (s : Script) : Bytes := s.data.drop s.cursor

theorem next_delivers {plan : List Action} (h : ∀ a ∈ plan, a.delivers = true) :
    (next plan).1.delivers = true ∧ ∀ a ∈ (next plan).2, a.delivers = true := by
  cases plan with
  | nil => exact ⟨rfl, h⟩
  | cons a plan => exact ⟨h a List.mem_cons_self, fun b m => h b (List.mem_cons_of_mem a m)⟩

/-- an action that delivers moves some bytes, and reports them -/
theorem moved_pos {room : Nat} {a : Action} (room_pos : 0 < room) (h : a.delivers = true) :
    0 < moved room a ∧ moved room a ≤ room ∧
      ∀ bytes, delivery room bytes a = ⟨bytes, bytes.length⟩ := by
  match a with
  | .atMost n =>
    have : n ≠ 0 := by simpa [Action.delivers] using h
    refine ⟨?_, Nat.min_le_left room n, fun _ => rfl⟩
    show 0 < min room n
    omega
  | .over _ => cases h
  | .plain | .fail _ | .claim _ => exact ⟨room_pos, Nat.le_refl room, fun _ => rfl⟩

/-- a read fails and takes nothing, or gives some of the bytes in front of the cursor -/
theorem read_cases {room : Nat} {s : Script} (room_pos : 0 < room)
    (plan : ∀ a ∈ s.reads, a.delivers = true) :
    (∀ a ∈ (s.read room).2.reads, a.delivers = true) ∧
      ((∃ m, (s.read room).1 = .error m ∧ (s.read room).2.ahead = s.ahead) ∨
        ∃ n, 0 < n ∧ n ≤ room ∧
          (s.read room).1 = .ok ⟨s.ahead.take n, (s.ahead.take n).length⟩ ∧
          (s.read room).2.ahead = s.ahead.drop (s.ahead.take n).length) := by
  obtain ⟨this, later⟩ := next_delivers plan
  unfold read
  generalize next s.reads = action at this later
  obtain ⟨a, rest⟩ := action
  dsimp only at this later ⊢
  split
  · exact ⟨later, .inl ⟨_, rfl, rfl⟩⟩
  · obtain ⟨some, le, reported⟩ := moved_pos room_pos this
    refine ⟨later, .inr ⟨moved room a, some, le, ?_, ?_⟩⟩
    · rw [reported]
      rfl
    · exact List.drop_drop.symm

end Script

/-- a script whose reads deliver or fail -/
def Scripted.contents : Contents Scripted where
  valid d := ∀ a ∈ d.script.reads, a.delivers = true
  rest d := d.script.ahead
  read {n d d' r} plan n_pos call := by
    obtain ⟨rfl, rfl⟩ := Prod.mk.inj (show d.answer id (d.script.read n) = (r, d') from call)
    obtain ⟨later, ⟨m, failed, same⟩ | ⟨k, k_pos, le, gave, left⟩⟩ := Script.read_cases n_pos plan
    · refine ⟨later, fun _ _ => same, ?_⟩
      rw [failed]
      rintro got ⟨⟩
    · refine ⟨later, ?_, ?_⟩
      · rw [gave]
        rintro f ⟨⟩
      · rw [gave]
        rintro got ⟨⟩
        have size : (d.script.ahead.take k).length = min k d.script.ahead.length := List.length_take
        refine ⟨?_, ?_, ?_, left, ?_⟩
        · show (d.script.ahead.take k).length ≤ n
          omega
        · show (d.script.ahead.take k).length ≤ _
          omega
        · show (d.script.ahead.take k).take (d.script.ahead.take k).length =
            d.script.ahead.take (d.script.ahead.take k).length
          rw [List.take_length, size]
          exact List.take_eq_take_min
        · intro none
          have : (d.script.ahead.take k).length = 0 := none
          exact List.eq_nil_of_length_eq_zero (by omega)

/-! ## what is lost -/

namespace Stream

variable {δ : Type} [Device δ] {s s' u : Stream δ} {c : Source δ}

/-- a request for a line met a failing read and left `s'`: it took `lost` off the input, the start of
the line that would have come, and the next request goes on from there -/
structure CutShort (c : Source δ) (limit : Nat) (s s' : Stream δ) (lost : Bytes) : Prop where
  input : s.input c = lost ++ s'.input c
  unended : newline ∉ lost
  short : 0 < limit → lost.length + 1 < limit
  /-- nothing is lost if and only if the first read failed, with nothing else to see -/
  none : lost = [] ↔ ∃ f, s.peek.1 = .error f
  /-- the line that would have come is what is lost and a line of what is left -/
  whole : ∀ line, IsLine (limit - lost.length) (s'.input c) line →
    IsLine limit (s.input c) (lost ++ line)
  /-- the next request gives a line of what is left, if no read fails -/
  again : ∀ old r line s'', s'.readLine limit old = (r, line, s'') →
    c.failures s''.device = c.failures s'.device →
    (∀ line, IsLine limit (s'.input c) line → line.length ≤ allocatable) →
    r = .ok line.length ∧ IsLine limit (s'.input c) line ∧ s'.input c = line ++ s''.input c

/-- no device read failed in a peek that shows something -/
theorem peek_ok {view : Bytes} (h : s.Feeding c) (hp : s.peek = (.ok view, u)) :
    c.failures u.device = c.failures s.device := by
  rcases peek_shown h with ⟨f, v, failed, -⟩ | ⟨v, shown, same, -⟩
  · rw [hp] at failed
    cases failed
  · rw [hp] at shown
    cases shown
    exact same

/-- a piece that is skipped was the start of the input -/
theorem piece_skipped {view : Bytes} {room : Option Nat} (h : s.Feeding c)
    (hp : s.peek = (.ok view, u)) (hk : u.skip (linePiece room view).length = (.ok (), s')) :
    s'.Feeding c ∧ c.failures s'.device = c.failures s.device ∧
      s.input c = linePiece room view ++ s'.input c := by
  have same := peek_ok h hp
  have device := skip_device (linePiece room view).length u
  obtain ⟨hu, kept, start⟩ := peek_input h
  rw [hp] at hu kept start
  rcases skip_input (linePiece room view).length hu with ⟨v, hv, feeding, -, left⟩ | ⟨f, stuck⟩
  · rw [hk] at hv device
    cases hv
    refine ⟨feeding, (congrArg c.failures device).trans same, ?_⟩
    rw [left, kept]
    exact (List.prefix_iff_eq_append.mp ((linePiece_start room view).trans (start view rfl).1)).symm
  · rw [hk] at stuck
    cases stuck

/-- collecting that a device read stops has taken pieces without a line end off the input, and left
room for more -/
theorem collect_failed {room : Option Nat} {size : Nat} {done : Stream Memory} (h : s.Feeding c)
    (failed : c.failures s.device < c.failures (s.collect room size done).2.2.device) :
    (∃ f, (s.collect room size done).1 = .error f) ∧ (s.collect room size done).2.2.Feeding c ∧
      ∃ lost, s.input c = lost ++ (s.collect room size done).2.2.input c ∧ newline ∉ lost ∧
        (∀ n, room = some n → lost.length < n) ∧ (lost = [] ↔ ∃ f, s.peek.1 = .error f) := by
  have even : ∀ {s u : Stream δ} {view : Bytes}, s.Feeding c → s.peek = (.ok view, u) →
      ¬c.failures s.device < c.failures u.device := by
    intro s u view h hp
    rw [peek_ok h hp]
    exact Nat.lt_irrefl _
  have skipped : ∀ {s u v : Stream δ} {view : Bytes} {n : Nat} {r : Except Fault Unit},
      s.Feeding c → s.peek = (.ok view, u) → u.skip n = (r, v) →
        ¬c.failures s.device < c.failures v.device := by
    intro s u v view n r h hp hk
    have device := skip_device n u
    rw [hk] at device
    rw [device]
    exact even h hp
  fun_induction collect room size s done with
  | case1 => exact absurd failed (Nat.lt_irrefl _)
  | case2 room size s done more f u hp =>
    obtain ⟨hu, kept, -⟩ := peek_input h
    rw [hp] at hu kept
    refine ⟨⟨f, rfl⟩, hu, [], kept.symm, List.not_mem_nil, ?_, ?_⟩
    · intro n some
      have : n ≠ 0 := fun none => more (some.trans (congrArg _ none))
      exact Nat.pos_of_ne_zero this
    · exact ⟨fun _ => ⟨f, congrArg Prod.fst hp⟩, fun _ => rfl⟩
  | case3 room size s done more view u hp => exact absurd failed (even h hp)
  | case4 room size s done more view u hp => exact absurd failed (even h hp)
  | case5 room size s done more view u hp => exact absurd failed (even h hp)
  | case6 room size s done more view u hp piece _ _ done' _ f v hk =>
    exact absurd failed (skipped h hp hk)
  | case7 room size s done more view u hp piece _ _ done' _ v hk =>
    exact absurd failed (skipped h hp hk)
  -- the piece is lost with what is collected after it
  | case8 room size s done more view u hp piece some _ done' _ v hk open_end ih =>
    obtain ⟨hv, same, parts⟩ := piece_skipped h hp hk
    obtain ⟨result, feeding, lost, left, unended, short, -⟩ := ih hv (same ▸ failed)
    refine ⟨result, feeding, piece ++ lost, ?_, ?_, ?_, ?_⟩
    · rw [parts, left, List.append_assoc]
    · have here := newline_notMem_linePiece (Bool.eq_false_iff.mpr open_end)
      exact fun m => (List.mem_append.mp m).elim here unended
    · rintro n rfl
      have := short (n - piece.length) rfl
      rw [List.length_append]
      omega
    · rw [hp]
      constructor
      · intro none
        exact absurd (congrArg List.length (List.append_eq_nil_iff.mp none).1) some
      · rintro ⟨f, ⟨⟩⟩

/-- a request for a line in which no device read fails gives the next one -/
theorem readLine_served {limit : Nat} {old line : Bytes} {r : Except Fault Nat} (h : s.Feeding c)
    (hr : s.readLine limit old = (r, line, s'))
    (same : c.failures s'.device = c.failures s.device)
    (storable : ∀ line, IsLine limit (s.input c) line → line.length ≤ allocatable) :
    r = .ok line.length ∧ IsLine limit (s.input c) line ∧ s.input c = line ++ s'.input c := by
  have is := isLine_linePiece limit (s.input c)
  unfold readLine at hr
  rcases nextLine_cases limit h (storable _ is) with failed | ⟨u, next, input, -⟩
  · rcases hn : s.nextLine limit with ⟨f | bytes, u⟩
    · rw [hn] at failed hr
      cases hr
      exact absurd failed (Nat.not_lt.mpr (Nat.le_of_eq same))
    · rw [hn] at failed hr
      cases hr
      exact absurd failed (Nat.not_lt.mpr (Nat.le_of_eq same))
  · rw [next] at hr
    cases hr
    exact ⟨rfl, is, input⟩

theorem readLine_device (limit : Nat) (old : Bytes) (s : Stream δ) :
    (s.readLine limit old).2.2.device = (s.collect (lineRoom limit) 0 scratch).2.2.device := by
  rw [← nextLine_device, readLine]
  split
  · next hn => rw [hn]
  · next hn => rw [hn]

/-- a request for a line in which a device read fails keeps the old line and loses the start of the
new one -/
theorem readLine_failed {limit : Nat} {old : Bytes} (h : s.Feeding c)
    (failed : c.failures s.device < c.failures (s.readLine limit old).2.2.device) :
    ∃ f s' lost, s.readLine limit old = (.error f, old, s') ∧ s'.marks.err = true ∧
      CutShort c limit s s' lost := by
  rw [readLine_device] at failed
  obtain ⟨⟨f, result⟩, hu, lost, input, unended, room, none⟩ := collect_failed h failed
  rcases hc : s.collect (lineRoom limit) 0 scratch with ⟨r, done, u⟩
  rw [hc] at result hu input
  obtain rfl := result
  have short : 0 < limit → lost.length + 1 < limit := by
    intro pos
    have := room (limit - 1) (if_neg (by omega))
    omega
  let s' : Stream δ :=
    { u with tally := u.tally + done.tally, marks := { u.marks with err := true } }
  have hs' : s'.Feeding c :=
    ⟨hu.reading, hu.able, ⟨hu.sound.collecting, hu.sound.serving⟩, hu.valid⟩
  refine ⟨f, s', lost, ?_, rfl, input, unended, short, none, ?_, ?_⟩
  · rw [readLine, nextLine, hc]
  · intro line is
    rw [input]
    refine is.behind unended fun pos => ?_
    have := short pos
    omega
  · intro old r line s'' hr same storable
    exact readLine_served hs' hr same storable

/-- a stream over seven bytes in a script, whose reads follow a plan -/
def planned (reads : List Action) : Stream (Recorded Scripted) :=
  let script : Script := { data := [1, 2, 3, 4, 5, 6, newline], reads }
  let device : Recorded Scripted := { inner := { script, announced := .all } }
  opened { capacity := usualBuffer } device { access := .readOnly }

/-- Take a device with bytes to deliver, whatever the chunks it delivers and whichever of its reads
fail, and a stream over it that reads after some operations.  Then a request for a line in which a
device read fails gives an error, sets the error mark and keeps what was in `old`.  But the pieces of
the line that were collected before that are gone: the next request gives the line without them. -/
theorem failed_line_loses (c : Contents δ) (o : Opening) (d : δ) (m : OpenMode)
    (able : (Device.abilities d).read = true) (before : List Op)
    (reading : (after before (opened o ({ inner := d } : Recorded δ) m)).writing = false)
    (valid : c.valid (after before (opened o ({ inner := d } : Recorded δ) m)).device.inner)
    (limit : Nat) (old : Bytes)
    (failed : (after before (opened o ({ inner := d } : Recorded δ) m)).device.failedReads <
      ((after before (opened o ({ inner := d } : Recorded δ) m)).readLine limit
        old).2.2.device.failedReads) :
    ∃ f s' lost, (after before (opened o ({ inner := d } : Recorded δ) m)).readLine limit old =
        (.error f, old, s') ∧ s'.marks.err = true ∧
      CutShort c.recorded limit (after before (opened o ({ inner := d } : Recorded δ) m)) s'
        lost := by
  have sound := after_sound before (opened_sound o ({ inner := d } : Recorded δ) m)
  have path := after_path before (opened_sound o ({ inner := d } : Recorded δ) m)
  have feeding : (after before (opened o ({ inner := d } : Recorded δ) m)).Feeding c.recorded := by
    refine ⟨reading, ?_, sound, valid⟩
    rw [path.constant.2.1]
    exact able
  exact readLine_failed feeding failed

/-- two bytes come before a read fails -/
theorem failed_line_loses_two :
    ∃ f s' lost, (planned [.atMost 2, .fail (.code 11)]).readLine 0 [9] = (.error f, [9], s') ∧
      s'.marks.err = true ∧
      CutShort Scripted.contents.recorded 0 (planned [.atMost 2, .fail (.code 11)]) s' lost :=
  have delivers : ∀ a ∈ [.atMost 2, .fail (.code 11)], Action.delivers a = true := by decide
  failed_line_loses Scripted.contents { capacity := usualBuffer }
    (planned [.atMost 2, .fail (.code 11)]).device.inner { access := .readOnly } rfl [] rfl delivers
    0 [9] (by decide +kernel)

/-- the two bytes are gone when the line is asked for again; without the failure they come with
it -/
theorem failed_line_not_repeated :
    let s := planned [.atMost 2, .fail (.code 11)]
    let first := s.readLine 0 [9]
    first.1.toOption = none ∧ first.2.1 = [9] ∧
      first.2.2.device.failedReads = s.device.failedReads + 1 ∧
      s.input Scripted.contents.recorded = [1, 2, 3, 4, 5, 6, newline] ∧
      first.2.2.input Scripted.contents.recorded = [3, 4, 5, 6, newline] ∧
      (first.2.2.readLine 0 [9]).2.1 = [3, 4, 5, 6, newline] ∧
      ((planned [.atMost 2]).readLine 0 [9]).2.1 = [1, 2, 3, 4, 5, 6, newline] := by
  decide +kernel

end Stream

end BufferedStreams
