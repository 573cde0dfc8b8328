import BufferedStreams.Proofs.Runs
import BufferedStreams.Proofs.Success
import BufferedStreams.Stream.Close

/-!
# No access is out of range

The operations of a buffer take slices of its slot and differences of its cursors.  Below stand the
same operations with every range and every difference checked, which have no result where a check
fails.

* `Buffer.Safe`      no check ever fails: each checked operation does what the plain one does;
* `Buffer.Sound.safe`   cursors in order are enough for that, and for all but the pending output the
                        mark of what was drained does not matter (`Buffer.Ordered`);
* `Stream.lived`     a stream after whatever can happen to it, a close and what follows it included;
* `Stream.access_safe`  the buffer is sound and safe in every state a stream comes through, inside
                        its operations too, and a drain that succeeds leaves space for output.
-/

namespace BufferedStreams

def sub? (a b : Nat) : Option Nat := if b ≤ a then some (a - b) else none

namespace Slab

def slice? (s : Slab) (lo hi : Nat) : Option Bytes :=
  if lo ≤ hi ∧ hi ≤ s.size then some (s.slice lo (hi - lo)) else none

def store? (s : Slab) (pos : Nat) (bytes : Bytes) : Option Slab :=
  if pos + bytes.length ≤ s.size then some (s.store pos bytes) else none

end Slab

namespace Buffer

/-! ## checked operations -/

def readable? (b : Buffer) : Option Bytes := b.slot.slice? b.cursor b.filled

def take? (b : Buffer) (n : Nat) : Option (Bytes × Buffer) := do
  let left ← sub? b.filled b.cursor
  let k := min n left
  let bytes ← b.slot.slice? b.cursor (b.cursor + k)
  some (bytes, { b with cursor := b.cursor + k })

def consume? (b : Buffer) (n : Nat) : Option (Except Fault Buffer) := do
  let left ← sub? b.filled b.cursor
  if left < n then some (.error (.invalid .pastBuffered))
  else some (.ok { b with cursor := b.cursor + n })

/-- the pushback fills its area from the end -/
def pushed? (b : Buffer) : Option Bytes := do
  let _ ← sub? pushbackRoom b.pushed.length
  some b.pushed

def takePushed? (b : Buffer) (n : Nat) : Option (Bytes × Buffer) := do
  let pushed ← b.pushed?
  let left ← sub? pushed.length (min n pushed.length)
  some (pushed.take n, { b with pushed := pushed.drop (pushed.length - left) })

/-- one byte after the other goes to the place in front of the last one -/
def stack? : Bytes → Bytes → Option Bytes
  | [], pushed => some pushed
  | x :: xs, pushed => do
    let _ ← sub? pushbackRoom (pushed.length + 1)
    stack? xs (x :: pushed)

def pushBack? (b : Buffer) (bytes : Bytes) : Option (Nat × Buffer) := do
  let room ← sub? pushbackRoom b.pushed.length
  let pushed ← stack? (bytes.take room) b.pushed
  some (min room bytes.length, { b with pushed := pushed })

def space? (b : Buffer) : Option Nat := sub? b.capacity b.cursor

def append? (b : Buffer) (bytes : Bytes) : Option (Nat × Buffer) := do
  let space ← b.space?
  let k := min space bytes.length
  let slot ← b.slot.store? b.cursor (bytes.take k)
  some (k, { b with slot := slot, filled := b.cursor + k, cursor := b.cursor + k })

def pending? (b : Buffer) : Option Bytes := b.slot.slice? b.drained b.cursor

/-- no checked operation fails -/
structure Safe (b : Buffer) : Prop where
  readable : b.readable? = some b.readable
  take (n : Nat) : b.take? n = some (b.take n)
  consume (n : Nat) : b.consume? n = some (b.consume n)
  pushed : b.pushed? = some b.pushed
  takePushed (n : Nat) : b.takePushed? n = some (b.takePushed n)
  pushBack (bytes : Bytes) : b.pushBack? bytes = some (b.pushBack bytes)
  space : b.space? = some b.space
  append (bytes : Bytes) : b.append? bytes = some (b.append bytes)
  pending : b.pending? = some b.pending

/-! ## sound buffers are safe -/

theorem sub?_eq {a b : Nat} (h : b ≤ a) : sub? a b = some (a - b) := if_pos h

theorem stack?_eq (xs pushed : Bytes) (room : pushed.length + xs.length ≤ pushbackRoom) :
    stack? xs pushed = some (xs.reverse ++ pushed) := by
  induction xs generalizing pushed with
  | nil => rfl
  | cons x xs ih =>
    rw [List.length_cons] at room
    have here : sub? pushbackRoom (pushed.length + 1) = some _ := sub?_eq (by omega)
    have rest : stack? xs (x :: pushed) = some (xs.reverse ++ x :: pushed) := by
      apply ih
      rw [List.length_cons]
      omega
    rw [stack?, here, List.reverse_cons, List.append_assoc]
    exact rest

/-- the cursors stand in order, whatever counts as drained -/
structure Ordered (b : Buffer) : Prop where
  cursor_le : b.cursor ≤ b.filled
  filled_le : b.filled ≤ b.capacity
  room : 0 < b.capacity
  pushed_le : b.pushed.length ≤ pushbackRoom

variable {b : Buffer}

theorem Sound.ordered (h : b.Sound) : b.Ordered := ⟨h.cursor_le, h.filled_le, h.room, h.pushed_le⟩

theorem Ordered.cursor_le_capacity (h : b.Ordered) : b.cursor ≤ b.capacity :=
  Nat.le_trans h.cursor_le h.filled_le

theorem Ordered.slice {lo hi : Nat} (h : b.Ordered) (le : lo ≤ hi) (filled : hi ≤ b.filled) :
    b.slot.slice? lo hi = some (b.slot.slice lo (hi - lo)) :=
  if_pos ⟨le, Nat.le_trans filled h.filled_le⟩

theorem Ordered.take (h : b.Ordered) (n : Nat) : b.take? n = some (b.take n) := by
  have within : b.cursor + min n (b.filled - b.cursor) ≤ b.filled := by
    have := h.cursor_le
    omega
  rw [take?, sub?_eq h.cursor_le]
  dsimp only [Option.bind_eq_bind, Option.bind_some]
  rw [h.slice (Nat.le_add_right _ _) within, Nat.add_sub_cancel_left]
  rfl

theorem Ordered.consume (h : b.Ordered) (n : Nat) : b.consume? n = some (b.consume n) := by
  rw [consume?, sub?_eq h.cursor_le, Buffer.consume]
  dsimp only [Option.bind_eq_bind, Option.bind_some]
  exact (apply_ite some _ _ _).symm

theorem Ordered.pushed (h : b.Ordered) : b.pushed? = some b.pushed := by
  rw [pushed?, sub?_eq h.pushed_le]
  rfl

theorem Ordered.takePushed (h : b.Ordered) (n : Nat) : b.takePushed? n = some (b.takePushed n) := by
  have dropped : b.pushed.drop (b.pushed.length - (b.pushed.length - min n b.pushed.length)) =
      b.pushed.drop n := by
    rcases Nat.le_total n b.pushed.length with le | le
    · congr 1
      omega
    · rw [List.drop_eq_nil_of_le le, List.drop_eq_nil_of_le (by omega)]
  rw [takePushed?, h.pushed]
  dsimp only [Option.bind_eq_bind, Option.bind_some]
  rw [sub?_eq (Nat.min_le_right _ _)]
  dsimp only [Option.bind_some]
  rw [dropped]
  rfl

theorem Ordered.pushBack (h : b.Ordered) (bytes : Bytes) :
    b.pushBack? bytes = some (b.pushBack bytes) := by
  have room : b.pushed.length + (bytes.take (pushbackRoom - b.pushed.length)).length ≤
      pushbackRoom := by
    have := h.pushed_le
    rw [List.length_take]
    omega
  rw [pushBack?, sub?_eq h.pushed_le]
  dsimp only [Option.bind_eq_bind, Option.bind_some]
  rw [stack?_eq _ _ room, Buffer.pushBack, List.length_take]
  rfl

theorem Ordered.append (h : b.Ordered) (bytes : Bytes) : b.append? bytes = some (b.append bytes) := by
  have within : b.cursor + (bytes.take b.space).length ≤ b.slot.size := by
    have := h.cursor_le_capacity
    rw [capacity] at this
    rw [List.length_take, Buffer.space, capacity]
    omega
  have stored : b.slot.store? b.cursor (bytes.take b.space) = some _ := if_pos within
  rw [append?, space?, sub?_eq h.cursor_le_capacity]
  dsimp only [Option.bind_eq_bind, Option.bind_some]
  rw [← List.take_eq_take_min]
  show (b.slot.store? b.cursor (bytes.take b.space)).bind _ = _
  rw [stored, Buffer.append, List.length_take]
  rfl

theorem Ordered.readable (h : b.Ordered) : b.readable? = some b.readable :=
  h.slice h.cursor_le (Nat.le_refl _)

/-- the pending output is a slice of the slot exactly if no more counts as drained than was
collected -/
theorem Ordered.pending_iff (h : b.Ordered) :
    b.pending? = some b.pending ↔ b.drained ≤ b.cursor := by
  refine ⟨?_, fun le => h.slice le h.cursor_le⟩
  intro told
  refine Decidable.byContradiction fun gt => ?_
  rw [pending?, Slab.slice?, if_neg fun within => gt within.1] at told
  cases told

theorem Sound.safe (h : b.Sound) : b.Safe where
  readable := h.ordered.readable
  take := h.ordered.take
  consume := h.ordered.consume
  pushed := h.ordered.pushed
  takePushed := h.ordered.takePushed
  pushBack := h.ordered.pushBack
  space := sub?_eq h.ordered.cursor_le_capacity
  append := h.ordered.append
  pending := h.ordered.pending_iff.mpr h.drained_le

theorem Sound.markDrained (h : b.Sound) (n : Nat) : (b.markDrained n).Sound where
  drained_le := Nat.min_le_right _ _
  cursor_le := h.cursor_le
  filled_le := h.filled_le
  room := h.room
  pushed_le := h.pushed_le

theorem Sound.retired (h : b.Sound) : b.clear.forgetOutput.Collecting where
  drained_le := Nat.le_refl 0
  cursor_le := Nat.le_refl 0
  filled_le := Nat.zero_le _
  room := h.room
  pushed_le := Nat.zero_le _
  pushed := rfl
  filled := rfl
  settled _ := rfl

end Buffer

/-! ## the life of a stream -/

/-- whatever can happen to a stream -/
inductive Act where
  | op (op : Op)
  | clearMarks
  | rename (name : String)
  | snatch
  | close
  deriving DecidableEq, Repr

variable {δ : Type}

/-- a sound stream is sound over another device too -/
theorem Stream.Sound.onDevice {s : Stream δ} (h : s.Sound) (d : δ) :
    ({ s with device := d } : Stream δ).Sound :=
  ⟨h.collecting, h.serving⟩

theorem Stream.Sound.retire {s : Stream δ} (h : s.Sound) : s.retire.Sound := by
  have hc := h.buffer.retired
  exact ⟨fun _ => hc, fun _ => hc.serving rfl⟩

variable [Device δ]

def Act.run (s : Stream δ) : Act → Stream δ
  | .op o => o.run s
  | .clearMarks => s.clearMarks
  | .rename name => s.rename name
  | .snatch => s.snatch.2
  | .close => s.close.2

namespace Stream

def lived : List Act → Stream δ → Stream δ
  | [], s => s
  | act :: acts, s => lived acts (act.run s)

variable {s s' : Stream δ}

theorem Sound.flush (h : s.Sound) : s.flush.2.Sound :=
  (flush_path : Path false s [] [] _).sound h

theorem Sound.snatch (h : s.Sound) : s.snatch.2.Sound := by
  have flushed := h.flush
  unfold Stream.snatch
  rcases hf : s.flush with ⟨_ | _, u⟩
  · rw [hf] at flushed
    exact flushed
  · rw [hf] at flushed
    dsimp only
    split
    · exact flushed.onDevice _
    · exact flushed.onDevice _

theorem Sound.release (h : s.Sound) : s.release.2.Sound := by
  unfold Stream.release
  split
  · exact h.onDevice _
  · exact h

theorem Sound.close (h : s.Sound) : s.close.2.Sound := by
  unfold Stream.close
  split
  · exact h
  · exact h.flush.release.retire

theorem Sound.act (h : s.Sound) (act : Act) : (act.run s).Sound := by
  cases act with
  | op op => exact (op_path op h).sound h
  | clearMarks => exact ⟨h.collecting, h.serving⟩
  | rename name => exact ⟨h.collecting, h.serving⟩
  | snatch => exact h.snatch
  | close => exact h.close

theorem lived_sound (acts : List Act) (h : s.Sound) : (lived acts s).Sound := by
  induction acts generalizing s with
  | nil => exact h
  | cons act acts ih => exact ih (h.act act)

theorem act_closed (act : Act) (h : s.Sound) (shut : s.closed = true) : (act.run s).closed = true := by
  cases act with
  | op op => exact ((op_path op h).constant.2.2).trans shut
  | clearMarks => exact shut
  | rename name => exact shut
  | snatch =>
    have flushed : s.flush.2.closed = true :=
      ((flush_path : Path false s [] [] _).constant.2.2).trans shut
    show s.snatch.2.closed = true
    unfold Stream.snatch
    rcases hf : s.flush with ⟨_ | _, u⟩
    · rw [hf] at flushed
      exact flushed
    · rw [hf] at flushed
      dsimp only
      split <;> exact flushed
  | close =>
    show s.close.2.closed = true
    rw [Stream.close, if_pos shut]
    exact shut

theorem close_closed (s : Stream δ) : s.close.2.closed = true := by
  unfold Stream.close
  split
  · next shut => exact shut
  · rfl

theorem lived_closed (acts : List Act) (h : s.Sound) (shut : s.closed = true) :
    (lived acts s).closed = true := by
  induction acts generalizing s with
  | nil => exact shut
  | cons act acts ih => exact ih (h.act act) (act_closed act h shut)

/-- a stream that is open was never closed -/
theorem lived_open (acts : List Act) (h : s.Sound) (opn : (lived acts s).closed = false) :
    ∀ act ∈ acts, act ≠ .close := by
  induction acts generalizing s with
  | nil => simp
  | cons act acts ih =>
    intro a mem
    rcases List.mem_cons.mp mem with rfl | mem
    · rintro rfl
      have shut : (lived acts (Act.run s .close)).closed = true :=
        lived_closed acts (h.act .close) (close_closed s)
      have shut' : (lived (.close :: acts) s).closed = true := shut
      rw [opn] at shut'
      cases shut'
    · exact ih (h.act act) opn a mem

/-- Take a stream over any device, after anything that can happen to it, and any state `u` that it may
come through from there, inside an operation too.  The cursors of its buffer stand in order, and in
the stricter order that its direction asks for; no access of the buffer is out of range; and if it
writes, a drain that succeeds leaves space, so that a write that nothing stops takes all of its
bytes. -/
theorem access_safe (o : Opening) (d : δ) (m : OpenMode) (acts : List Act) :
    let s := lived acts (opened o d m)
    s.Sound ∧ ∀ leaps g t u, Path leaps s g t u →
      u.Sound ∧ u.buffer.Safe ∧ (∀ n, (u.buffer.markDrained n).Safe) ∧
        (u.writing = true →
          (∀ u', u.drain = (.ok (), u') → 0 < u'.buffer.space) ∧
            ∀ bytes, (u.stow bytes).1.stop = none → (u.stow bytes).1.count = bytes.length) := by
  intro s
  have reached : s.Sound := lived_sound acts (opened_sound o d m)
  refine ⟨reached, ?_⟩
  intro leaps g t u path
  have sound : u.Sound := path.sound reached
  refine ⟨sound, sound.buffer.safe, fun n => (sound.buffer.markDrained n).safe, ?_⟩
  intro w
  refine ⟨?_, ?_⟩
  · intro u' drained
    exact drain_space drained w sound
  · intro bytes all
    exact (stow_all bytes u w sound all).1

end Stream

end BufferedStreams
