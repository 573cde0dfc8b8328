import BufferedStreams.Proofs.Safety

/-!
# The calls of a buffer in any order

A stream makes the calls of its buffer in an order that keeps the buffer sound.  Here they come in any
order, input calls among output calls, with any numbers.  Then the cursors and the pushback still
stand in order, but a call that starts over at the first byte of the slot, `expose` or `clear`, leaves
the mark of what was drained where it was: after it more may count as drained than was collected, the
pending output is no slice of the slot, and the output collected next loses its first bytes.

* `BufferCall.perform?`   one call, with every range and every difference checked;
* `Ordered.kept`          what one call keeps, and `Ordered.perform?_eq`, when it is the plain call;
* `mixed_calls`           what every run of calls keeps, and when the mark passes the cursor.
-/

namespace BufferedStreams

/-- what becomes of a sum that no machine word holds -/
inductive Excess where
  /-- there is no sum -/
  | refused
  /-- the sum is reduced modulo the range of words -/
  | wrapped
  deriving DecidableEq, Repr

def Excess.add? (x : Excess) (a b : Nat) : Option Nat :=
  match x with
  | refused => if a + b < wordRange then some (a + b) else none
  | wrapped => some ((a + b) % wordRange)

inductive BufferCall where
  /-- bytes stored in the slot, which changes nothing but the slot -/
  | store (pos : Nat) (bytes : Bytes)
  | expose (n : Nat)
  | take (n : Nat)
  | consume (n : Nat)
  | pushBack (bytes : Bytes)
  | takePushed (n : Nat)
  | dropPushed (n : Nat)
  | append (bytes : Bytes)
  | markDrained (n : Nat)
  | forgetOutput
  | clear
  deriving DecidableEq, Repr

namespace Buffer

/-- a call that may be refused leaves the buffer alone if it is -/
def orSame (b : Buffer) : Except Fault Buffer → Buffer
  | .ok b' => b'
  | .error _ => b

/-- the sum of the marks is brought down to the cursor -/
def markDrained? (x : Excess) (b : Buffer) (n : Nat) : Option Buffer :=
  (x.add? b.drained n).map fun total => { b with drained := min total b.cursor }

/-- the plain mark is the one that a word holds -/
theorem markDrained?_eq (x : Excess) {b : Buffer} {n : Nat} (h : b.drained + n < wordRange) :
    b.markDrained? x n = some (b.markDrained n) := by
  cases x with
  | refused => rw [markDrained?, Excess.add?, if_pos h]; rfl
  | wrapped => rw [markDrained?, Excess.add?, Nat.mod_eq_of_lt h]; rfl

end Buffer

namespace BufferCall

open Buffer

def perform (b : Buffer) : BufferCall → Buffer
  | store pos bytes => { b with slot := b.slot.store pos bytes }
  | expose n => b.expose n
  | take n => (b.take n).2
  | consume n => b.orSame (b.consume n)
  | pushBack bytes => (b.pushBack bytes).2
  | takePushed n => (b.takePushed n).2
  | dropPushed n => b.orSame (b.dropPushed n)
  | append bytes => (b.append bytes).2
  | markDrained n => b.markDrained n
  | forgetOutput => b.forgetOutput
  | clear => b.clear

/-- the buffer after the call, with every range checked; nothing if the call leaves one -/
def perform? (x : Excess) (b : Buffer) : BufferCall → Option Buffer
  | store pos bytes => some { b with slot := b.slot.store pos bytes }
  | expose n => some (b.expose n)
  | take n => (b.take? n).map (·.2)
  | consume n => (b.consume? n).map b.orSame
  | pushBack bytes => (b.pushBack? bytes).map (·.2)
  | takePushed n => (b.takePushed? n).map (·.2)
  | dropPushed n => some (b.orSame (b.dropPushed n))
  | append bytes => (b.append? bytes).map (·.2)
  | markDrained n => b.markDrained? x n
  | forgetOutput => some b.forgetOutput
  | clear => some b.clear

/-- does the call go back to the first byte of the slot without a word on what was drained? -/
def restarts : BufferCall → Bool
  | expose _ => true
  | clear => true
  | _ => false

def run? (x : Excess) : List BufferCall → Buffer → Option Buffer
  | [], b => some b
  | c :: cs, b => (c.perform? x b).bind (run? x cs)

end BufferCall

namespace Buffer

variable {x : Excess} {b b' : Buffer}

/-! ## one call -/

theorem ordered_ofCapacity (n : Nat) : (ofCapacity n).Ordered :=
  (collecting_ofCapacity n).toSound.ordered

theorem consume_ok {n : Nat} (h : b.consume n = .ok b') :
    n ≤ b.readableSize ∧ b' = { b with cursor := b.cursor + n } := by
  rw [consume] at h
  split at h
  · cases h
  · next le =>
    cases h
    exact ⟨Nat.le_of_not_lt le, rfl⟩

theorem dropPushed_ok {n : Nat} (h : b.dropPushed n = .ok b') :
    b' = { b with pushed := b.pushed.drop n } := by
  rw [dropPushed] at h
  split at h
  · cases h
  · cases h
    rfl

/-- What a call can do.  It goes on from where the cursor is, and then no more counts as drained than
was collected if that was so before; or it goes back to the first byte and does not touch the
mark. -/
inductive Went (b b' : Buffer) (c : BufferCall) : Prop
  | on (stays : c.restarts = false) (drained_le : b.drained ≤ b.cursor → b'.drained ≤ b'.cursor)
  | back (restarts : c.restarts = true) (cursor : b'.cursor = 0) (drained : b'.drained = b.drained)

structure Kept (b b' : Buffer) (c : BufferCall) : Prop extends Ordered b' where
  capacity : b'.capacity = b.capacity
  went : Went b b' c

theorem Ordered.kept (h : b.Ordered) {c : BufferCall} (ok : c.perform? x b = some b') :
    Kept b b' c := by
  have hc := h.cursor_le
  have hf := h.filled_le
  have hp := h.pushed_le
  cases c with
  | store pos bytes =>
    cases ok
    refine ⟨⟨hc, ?_, ?_, hp⟩, Slab.size_store _ _ _, .on rfl id⟩
    · exact Nat.le_trans hf (Nat.le_of_eq (Slab.size_store _ _ _).symm)
    · exact Nat.lt_of_lt_of_eq h.room (Slab.size_store _ _ _).symm
  | expose n =>
    cases ok
    exact ⟨⟨Nat.zero_le _, Nat.min_le_right _ _, h.room, hp⟩, rfl, .back rfl rfl rfl⟩
  | take n =>
    rw [BufferCall.perform?, h.take] at ok
    cases ok
    refine ⟨⟨?_, hf, h.room, hp⟩, rfl, .on rfl ?_⟩
    · simp only [cursor_take, filled_take, readableSize]
      omega
    · intro le
      exact Nat.le_trans le (Nat.le_add_right _ _)
  | consume n =>
    rw [BufferCall.perform?, h.consume] at ok
    cases ok
    cases step : b.consume n with
    | error f => exact ⟨h, rfl, .on rfl id⟩
    | ok b' =>
      obtain ⟨le, rfl⟩ := consume_ok step
      refine ⟨⟨?_, hf, h.room, hp⟩, rfl, .on rfl ?_⟩
      · rw [readableSize] at le
        show b.cursor + n ≤ b.filled
        omega
      · intro le
        exact Nat.le_trans le (Nat.le_add_right _ _)
  | pushBack bytes =>
    rw [BufferCall.perform?, h.pushBack] at ok
    cases ok
    refine ⟨⟨hc, hf, h.room, ?_⟩, rfl, .on rfl id⟩
    simp only [Buffer.pushBack, List.length_append, List.length_reverse, List.length_take]
    omega
  | takePushed n =>
    rw [BufferCall.perform?, h.takePushed] at ok
    cases ok
    refine ⟨⟨hc, hf, h.room, ?_⟩, rfl, .on rfl id⟩
    simp only [Buffer.takePushed, List.length_drop]
    omega
  | dropPushed n =>
    cases ok
    cases step : b.dropPushed n with
    | error f => exact ⟨h, rfl, .on rfl id⟩
    | ok b' =>
      obtain rfl := dropPushed_ok step
      refine ⟨⟨hc, hf, h.room, ?_⟩, rfl, .on rfl id⟩
      show (b.pushed.drop n).length ≤ pushbackRoom
      rw [List.length_drop]
      omega
  | append bytes =>
    rw [BufferCall.perform?, h.append] at ok
    cases ok
    refine ⟨⟨Nat.le_refl _, ?_, ?_, hp⟩, capacity_append b bytes, .on rfl ?_⟩
    · show (b.append bytes).2.cursor ≤ _
      rw [cursor_append, capacity_append, space]
      omega
    · rw [capacity_append]
      exact h.room
    · intro le
      rw [cursor_append]
      exact Nat.le_trans le (Nat.le_add_right _ _)
  | markDrained n =>
    obtain ⟨total, -, rfl⟩ := Option.map_eq_some_iff.mp ok
    exact ⟨⟨hc, hf, h.room, hp⟩, rfl, .on rfl fun _ => Nat.min_le_right _ _⟩
  | forgetOutput =>
    cases ok
    exact ⟨⟨Nat.le_refl _, Nat.zero_le _, h.room, hp⟩, rfl, .on rfl fun _ => Nat.le_refl _⟩
  | clear =>
    cases ok
    exact ⟨⟨Nat.le_refl _, Nat.zero_le _, h.room, Nat.zero_le _⟩, rfl, .back rfl rfl rfl⟩

/-- nothing but a sum that no word holds keeps a call from its end -/
theorem Ordered.perform?_eq_none (h : b.Ordered) (c : BufferCall) :
    c.perform? x b = none ↔
      x = .refused ∧ ∃ n, c = .markDrained n ∧ wordRange ≤ b.drained + n := by
  cases c with
  | take n => simp [BufferCall.perform?, h.take]
  | consume n => simp [BufferCall.perform?, h.consume]
  | pushBack bytes => simp [BufferCall.perform?, h.pushBack]
  | takePushed n => simp [BufferCall.perform?, h.takePushed]
  | append bytes => simp [BufferCall.perform?, h.append]
  | markDrained n =>
    cases x with
    | wrapped => simp [BufferCall.perform?, markDrained?, Excess.add?]
    | refused => simp [BufferCall.perform?, markDrained?, Excess.add?]
  | _ => simp [BufferCall.perform?]

/-- a call does what it does without checks, if a word holds the sum of its marks -/
theorem Ordered.perform?_eq (h : b.Ordered) (c : BufferCall)
    (fits : ∀ n, c = .markDrained n → b.drained + n < wordRange) :
    c.perform? x b = some (c.perform b) := by
  cases c with
  | take n => rw [BufferCall.perform?, h.take]; rfl
  | consume n => rw [BufferCall.perform?, h.consume]; rfl
  | pushBack bytes => rw [BufferCall.perform?, h.pushBack]; rfl
  | takePushed n => rw [BufferCall.perform?, h.takePushed]; rfl
  | append bytes => rw [BufferCall.perform?, h.append]; rfl
  | markDrained n => exact markDrained?_eq x (fits n rfl)
  | _ => rfl

/-! ## runs -/

theorem run?_append (cs ds : List BufferCall) (b : Buffer) :
    BufferCall.run? x (cs ++ ds) b = (BufferCall.run? x cs b).bind (BufferCall.run? x ds) := by
  induction cs generalizing b with
  | nil => rfl
  | cons c cs ih =>
    rw [List.cons_append, BufferCall.run?, BufferCall.run?, Option.bind_assoc]
    exact congrArg _ (funext ih)

theorem Ordered.run? (h : b.Ordered) {calls : List BufferCall}
    (ran : BufferCall.run? x calls b = some b') : b'.Ordered ∧ b'.capacity = b.capacity := by
  induction calls generalizing b with
  | nil =>
    cases ran
    exact ⟨h, rfl⟩
  | cons c calls ih =>
    obtain ⟨u, here, rest⟩ := Option.bind_eq_some_iff.mp ran
    have kept := h.kept here
    obtain ⟨ordered, capacity⟩ := ih kept.toOrdered rest
    exact ⟨ordered, capacity.trans kept.capacity⟩

/-- every call that starts over finds nothing drained -/
def StartsClean (x : Excess) (calls : List BufferCall) (b : Buffer) : Prop :=
  ∀ before c later u, calls = before ++ c :: later → c.restarts = true →
    BufferCall.run? x before b = some u → u.drained = 0

theorem StartsClean.tail {c : BufferCall} {calls : List BufferCall} {u : Buffer}
    (clean : StartsClean x (c :: calls) b) (here : c.perform? x b = some u) :
    StartsClean x calls u := by
  rintro before d later v rfl restarts ran
  refine clean (c :: before) d later v rfl restarts ?_
  rw [BufferCall.run?, here]
  exact ran

/-- if no call starts over with output drained, the mark stays behind the cursor -/
theorem Ordered.drained_le (h : b.Ordered) (le : b.drained ≤ b.cursor) {calls : List BufferCall}
    (clean : StartsClean x calls b) (ran : BufferCall.run? x calls b = some b') :
    b'.drained ≤ b'.cursor := by
  induction calls generalizing b with
  | nil =>
    cases ran
    exact le
  | cons c calls ih =>
    obtain ⟨u, here, rest⟩ := Option.bind_eq_some_iff.mp ran
    have kept := h.kept here
    refine ih kept.toOrdered ?_ (clean.tail here) rest
    cases kept.went with
    | on stays drained_le => exact drained_le le
    | back restarts cursor drained =>
      have := clean [] c calls b rfl restarts rfl
      omega

/-- what is collected after starting over has to make up for the mark before any of it is pending -/
theorem pending_append_clear (b : Buffer) (bytes : Bytes) :
    (b.clear.append bytes).2.pending = (bytes.take b.capacity).drop b.drained := by
  have slot : (b.clear.append bytes).2.slot = b.slot.store 0 (bytes.take b.capacity) := rfl
  have size : (b.clear.append bytes).2.pendingSize =
      ((bytes.take b.capacity).drop b.drained).length := by
    rw [pendingSize, cursor_append, drained_append, List.length_drop, List.length_take]
    show 0 + min b.capacity bytes.length - b.drained = _
    rw [Nat.zero_add]
  rw [pending, size, slot, drained_append, Slab.slice_eq, Slab.toList_store, List.take_zero,
    List.nil_append, Nat.sub_zero, List.take_take]
  show ((List.take (min b.capacity b.capacity) bytes ++ _).drop b.drained).take _ = _
  rw [Nat.min_self, List.drop_append]
  exact List.take_left

/-- Take a new buffer and any calls, in any order and with any numbers.  In every state they lead to,
the cursors and the pushback stand in order, and so what can be read and what is pushed back are
slices of their areas; and nothing but a sum of marks that no word holds keeps a call from its end,
or from what it does without checks.  The pending output is a slice exactly while no more counts as
drained than was collected, and that is so all along exactly if every call that starts over finds
nothing drained.  What is collected after starting over loses as many bytes as still count as
drained. -/
theorem mixed_calls (x : Excess) (n : Nat) (calls : List BufferCall) :
    (∀ b, BufferCall.run? x calls (ofCapacity n) = some b →
      b.cursor ≤ b.filled ∧ b.filled ≤ b.capacity ∧ b.capacity = max n 1 ∧
        b.pushed.length ≤ pushbackRoom ∧
        b.readable? = some b.readable ∧ b.pushed? = some b.pushed ∧
        (b.pending? = some b.pending ↔ b.drained ≤ b.cursor) ∧
        (∀ c : BufferCall, c.perform? x b = none ↔
          x = .refused ∧ ∃ m, c = .markDrained m ∧ wordRange ≤ b.drained + m) ∧
        (∀ c : BufferCall, (∀ m, c = .markDrained m → b.drained + m < wordRange) →
          c.perform? x b = some (c.perform b)) ∧
        ∀ bytes, (b.clear.append bytes).2.pending = (bytes.take b.capacity).drop b.drained) ∧
      ((∀ before later b, calls = before ++ later →
          BufferCall.run? x before (ofCapacity n) = some b → b.drained ≤ b.cursor) ↔
        StartsClean x calls (ofCapacity n)) := by
  have new : (ofCapacity n).Ordered := ordered_ofCapacity n
  refine ⟨?_, ?_, ?_⟩
  · intro b ran
    obtain ⟨ordered, capacity⟩ := new.run? ran
    exact ⟨ordered.cursor_le, ordered.filled_le, capacity, ordered.pushed_le, ordered.readable,
      ordered.pushed, ordered.pending_iff, ordered.perform?_eq_none, ordered.perform?_eq,
      b.pending_append_clear⟩
  · rintro le before c later u rfl restarts ran
    have ordered := (new.run? ran).1
    rcases step : c.perform? x u with _ | u'
    · obtain ⟨-, m, rfl, -⟩ := (ordered.perform?_eq_none c).mp step
      cases restarts
    · have ran' : BufferCall.run? x (before ++ [c]) (ofCapacity n) = some u' := by
        rw [run?_append, ran, Option.bind_some, BufferCall.run?, step]
        rfl
      have le' := le (before ++ [c]) later u' (by rw [List.append_assoc]; rfl) ran'
      cases (ordered.kept step).went with
      | on stays _ =>
        rw [restarts] at stays
        cases stays
      | back _ cursor drained => omega
  · rintro clean before later b rfl ran
    refine new.drained_le (Nat.le_refl 0) ?_ ran
    rintro first c rest u rfl
    exact clean first c (rest ++ later) u (by rw [List.append_assoc]; rfl)

/-- four bytes collected, three of them drained, and then the buffer starts over -/
theorem mixed_calls_four :
    ∃ b, BufferCall.run? .refused [.append [1, 2, 3, 4], .markDrained 3, .pushBack [5], .expose 2,
        .take 1, .append [6, 7]] (ofCapacity 4) = some b ∧
      b.drained = 3 ∧ b.cursor = 3 ∧ b.pending? = some b.pending ∧
      BufferCall.perform? .refused b (.markDrained (wordRange - 1)) = none ∧
      (b.clear.append [6, 7, 8, 9]).2.pending = [9] := by
  refine ⟨_, rfl, rfl, rfl, ?_⟩
  obtain ⟨-, -, -, -, -, -, pending, none, -, lost⟩ :=
    (mixed_calls .refused 4 [.append [1, 2, 3, 4], .markDrained 3, .pushBack [5], .expose 2, .take 1,
      .append [6, 7]]).1 _ rfl
  exact ⟨pending.mpr (Nat.le_refl 3), (none _).mpr ⟨rfl, _, rfl, by decide⟩, lost _⟩

/-- the buffer is emptied with three bytes drained: more counts as drained than was collected, and
the pending output is no slice -/
theorem mark_passes_cursor :
    ∃ b, BufferCall.run? .refused [.append [1, 2, 3, 4], .markDrained 3, .clear] (ofCapacity 4) =
        some b ∧
      b.cursor = 0 ∧ b.drained = 3 ∧ b.pending? = none :=
  ⟨_, rfl, rfl, rfl, rfl⟩

end Buffer

end BufferedStreams
