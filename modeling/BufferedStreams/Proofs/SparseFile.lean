import BufferedStreams.Proofs.Memory

/-!
# Memory is a sparse file

A bounded sparse file has bytes and a position, and nothing else.  How far it reaches is settled by
the plan of the device and the size of its first storage: a file of fixed size keeps inside that
storage, any other file inside the storage or the limit, whichever is more.

* `SparseFile.answer`       what the file answers to a call;
* `Memory.Stands`           the device holds what the file holds, and its storage has not passed what
                            the file is barred from;
* `memory_is_sparse_file`   a device answers as the file does, whatever blocks its storage grew by,
                            in which order, and whatever stale bytes the storage holds.
-/

namespace BufferedStreams

namespace Memory

inductive FileCall where
  | read (n : Nat)
  | write (bytes : Bytes)
  | seek (off : Int) (w : Whence)
  deriving DecidableEq, Repr

inductive FileAnswer where
  | bytes (bytes : Bytes)
  | count (n : Nat)
  | failed (f : Fault)
  deriving DecidableEq, Repr

namespace FileAnswer

def ofRead : Except Fault Delivery → FileAnswer
  | .ok got => .bytes (got.part got.count)
  | .error f => .failed f

def ofCount : Except Fault Nat → FileAnswer
  | .ok n => .count n
  | .error f => .failed f

end FileAnswer

namespace FileCall

def perform (m : Memory) : FileCall → FileAnswer × Memory
  | read n => (.ofRead (m.read n).1, (m.read n).2)
  | write bytes => (.ofCount (m.write bytes).1, (m.write bytes).2)
  | seek off w => (.ofCount (m.seek off w).1, (m.seek off w).2)

/-- the sizes and offsets are such as a machine word holds -/
def InRange : FileCall → Prop
  | read _ => True
  | write bytes => bytes.length < offsetRange
  | seek off _ => -(offsetRange : Int) ≤ off ∧ off < offsetRange

instance : DecidablePred InRange
  | read _ => inferInstanceAs (Decidable True)
  | write bytes => inferInstanceAs (Decidable (bytes.length < offsetRange))
  | seek off _ => inferInstanceAs (Decidable (-(offsetRange : Int) ≤ off ∧ off < offsetRange))

end FileCall

def replies : List FileCall → Memory → List FileAnswer
  | [], _ => []
  | c :: cs, m => (c.perform m).1 :: replies cs (c.perform m).2

def after : List FileCall → Memory → Memory
  | [], m => m
  | c :: cs, m => after cs (c.perform m).2

namespace Plan

/-- is the size out of reach for a device whose first storage had `first` bytes? -/
def bars (p : Plan) (first size : Nat) : Bool :=
  decide (first < size) && (!p.grows || p.exceeds size)

/-- storage for `size` bytes is there, or will not be asked for, or can be had -/
def Affords (p : Plan) (first size : Nat) : Prop :=
  size ≤ first ∨ p.bars first size = true ∨
    (p.rounded size < wordRange ∧ p.capped (p.rounded size) ≤ allocatable)

instance (p : Plan) (first size : Nat) : Decidable (p.Affords first size) :=
  inferInstanceAs (Decidable (_ ∨ _ ∨ _))

end Plan

end Memory

structure SparseFile where
  content : Bytes
  pos : Nat := 0
  deriving DecidableEq, Repr

namespace SparseFile

open Memory (Plan FileCall FileAnswer)

variable (p : Plan) (first : Nat) (f : SparseFile)

def base : Whence → Int
  | .start => 0
  | .current => f.pos
  | .finish => f.content.length

def forWrite : SparseFile := if p.append then { f with pos := f.content.length } else f

def put (bytes : Bytes) : SparseFile where
  content := overlay f.content f.pos bytes
  pos := f.pos + bytes.length

/-- with zero bytes up to the position if it is beyond the end -/
def moveTo (pos : Nat) : SparseFile where
  content := f.content ++ zeros (pos - f.content.length)
  pos := pos

def read (n : Nat) : FileAnswer × SparseFile :=
  let bytes := (f.content.drop f.pos).take n
  (.bytes bytes, { f with pos := f.pos + bytes.length })

/-- all or nothing if the file may grow, else as much as fits -/
def writeHere (bytes : Bytes) : FileAnswer × SparseFile :=
  if p.grows then
    if p.bars first (f.pos + bytes.length) then (.failed .outOfSpace, f)
    else (.count bytes.length, f.put bytes)
  else
    let fitting := bytes.take (first - f.pos)
    (.count fitting.length, f.put fitting)

def write (bytes : Bytes) : FileAnswer × SparseFile :=
  if bytes = [] then (.count 0, f) else (f.forWrite p).writeHere p first bytes

def seek (off : Int) (w : Whence) : FileAnswer × SparseFile :=
  if f.base w + off < 0 then (.failed (.invalid .beforeStart), f)
  else if p.bars first (f.base w + off).toNat then (.failed .outOfSpace, f)
  else (.count (f.base w + off).toNat, f.moveTo (f.base w + off).toNat)

def answer : FileCall → FileAnswer × SparseFile
  | .read n => f.read n
  | .write bytes => f.write p first bytes
  | .seek off w => f.seek p first off w

def answers : List FileCall → SparseFile → List FileAnswer
  | [], _ => []
  | c :: cs, f => (f.answer p first c).1 :: answers cs (f.answer p first c).2

def after : List FileCall → SparseFile → SparseFile
  | [], f => f
  | c :: cs, f => after cs (f.answer p first c).2

/-- how much storage a call needs -/
def need : FileCall → Nat
  | .read _ => 0
  | .write bytes => (f.forWrite p).pos + bytes.length
  | .seek off w => (f.base w + off).toNat

/-- all the storage that the calls need can be had -/
def Affordable : List FileCall → SparseFile → Prop
  | [], _ => True
  | c :: cs, f => p.Affords first (f.need p c) ∧ Affordable cs (f.answer p first c).2

instance decidableAffordable : (cs : List FileCall) → (f : SparseFile) →
    Decidable (Affordable p first cs f)
  | [], _ => inferInstanceAs (Decidable True)
  | c :: cs, f =>
    have := decidableAffordable cs (f.answer p first c).2
    inferInstanceAs (Decidable (p.Affords first (f.need p c) ∧
      Affordable p first cs (f.answer p first c).2))

end SparseFile

namespace Memory

/-- a device just made, what it holds, and the size of its first storage -/
inductive Made (p : Plan) : Memory → Bytes → Nat → Prop
  | ofPlan : Made p (ofPlan p) [] 0
  | ofData (bytes : Bytes) : Made p (ofData bytes p) bytes bytes.length
  | ofParts {bytes : Bytes} {size length : Nat} {m : Memory}
      (ok : ofParts (some bytes) size length p = .ok m) :
      Made p m ((bytes ++ zeros (size - bytes.length)).take length) size

/-- what a write does once the cursor is where it starts -/
def writeHere (bytes : Bytes) (m : Memory) : Except Fault Nat × Memory :=
  let room := m.capacity - m.cursor
  if bytes.length ≤ room then (.ok bytes.length, m.put bytes)
  else if m.plan.grows then
    if wordRange ≤ m.cursor + bytes.length then (.error (.invalid .sizeOverflow), m)
    else
      match m.extend (m.cursor + bytes.length) with
      | .ok m => (.ok bytes.length, m.put bytes)
      | .error f => (.error f, m)
  else (.ok room, m.put (bytes.take room))

theorem write_writeHere (bytes : Bytes) (m : Memory) :
    m.write bytes = if bytes = [] then (.ok 0, m) else m.forWrite.writeHere bytes := by
  cases bytes with
  | nil => rfl
  | cons b bytes => rfl

structure Stands (p : Plan) (first : Nat) (m : Memory) (f : SparseFile) : Prop where
  sound : m.Sound
  plan_eq : m.plan = p
  data : m.data = f.content
  pos : m.cursor = f.pos
  first_le : first ≤ m.capacity
  barred : ∀ size, p.bars first size = true → m.capacity < size
  small : m.capacity < offsetRange

variable {p : Plan} {first : Nat} {m : Memory} {f : SparseFile}

theorem Plan.bars_first (p : Plan) {first size : Nat} (h : p.bars first size = true) :
    first < size := by
  unfold bars at h
  simp only [Bool.and_eq_true, decide_eq_true_eq] at h
  exact h.1

theorem Made.stands {content : Bytes} (h : Made p m content first) (small : first < offsetRange) :
    m.Stands p first { content } := by
  cases h with
  | ofPlan =>
    exact ⟨⟨Nat.le_refl _, Nat.le_refl _⟩, rfl, data_ofData [] p, rfl, Nat.le_refl _,
      fun _ => p.bars_first, small⟩
  | ofData =>
    exact ⟨⟨Nat.zero_le _, Nat.le_refl _⟩, rfl, data_ofData content p, rfl, Nat.le_refl _,
      fun _ => p.bars_first, small⟩
  | @ofParts bytes _ length _ ok =>
    unfold Memory.ofParts at ok
    dsimp only at ok
    split at ok
    · cases ok
    · next long =>
      split at ok
      · cases ok
      · cases ok
        refine ⟨⟨Nat.zero_le _, Nat.le_of_not_lt long⟩, rfl, ?_, rfl, Nat.le_refl _,
          fun _ => p.bars_first, small⟩
        rw [data_eq]
        rfl

namespace Stands

theorem length_eq (h : m.Stands p first f) : m.length = f.content.length := by
  rw [← h.data, length_data h.sound]

theorem base_eq (h : m.Stands p first f) (w : Whence) : (m.base w : Int) = f.base w := by
  cases w with
  | start => rfl
  | current => exact congrArg Nat.cast h.pos
  | finish => exact congrArg Nat.cast h.length_eq

/-! ## storage -/

/-- the limit caps what is allocated, so nothing barred comes into reach -/
theorem grown (h : m.Stands p first f) (grows : p.grows = true) {size : Nat}
    (room : p.capped size ≤ allocatable) : (m.grown (p.capped size)).Stands p first f := by
  have capacity : (m.grown (p.capped size)).capacity = max m.capacity (p.capped size) := rfl
  refine ⟨sound_grown h.sound _, h.plan_eq, ?_, h.pos, ?_, ?_, ?_⟩
  · rw [data_grown h.sound, h.data]
  · rw [capacity]
    exact Nat.le_trans h.first_le (Nat.le_max_left _ _)
  · intro past bar
    have old := h.barred past bar
    rw [capacity]
    refine Nat.max_lt.mpr ⟨old, ?_⟩
    unfold Plan.bars Plan.exceeds at bar
    unfold Plan.capped
    cases limit : p.limit with
    | none => simp [limit, grows] at bar
    | some most =>
      simp only [limit, grows, Bool.not_true, Bool.false_or, Bool.and_eq_true,
        decide_eq_true_eq] at bar
      show min _ most < past
      omega
  · have : allocatable < offsetRange := by decide
    have := h.small
    rw [capacity]
    omega

/-- what a device may grow to and can be had is granted, and what is barred is out of space -/
theorem extend (h : m.Stands p first f) (grows : p.grows = true) {n : Nat}
    (afford : p.Affords first n) :
    (p.bars first n = true ∧ m.extend n = .error .outOfSpace) ∨
      (p.bars first n = false ∧ ∃ size, m.extend n = .ok (m.grown size) ∧
        n ≤ (m.grown size).capacity ∧ (m.grown size).Stands p first f) := by
  by_cases le : n ≤ m.capacity
  · refine .inr ⟨?_, 0, ?_, ?_, ?_⟩
    · apply Bool.eq_false_iff.mpr
      intro bar
      have := h.barred n bar
      omega
    · rw [Memory.extend, if_pos le, grown_zero]
    · rw [grown_zero]
      exact le
    · rw [grown_zero]
      exact h
  · have beyond : first < n := by
      have := h.first_le
      omega
    have bars : p.bars first n = p.exceeds n := by simp [Plan.bars, beyond, grows]
    rw [Memory.extend, if_neg le, bars]
    cases past : p.exceeds n with
    | true =>
      refine .inl ⟨rfl, ?_⟩
      rw [h.plan_eq, Plan.grown, past, if_pos rfl]
    | false =>
      obtain ⟨word, room⟩ : p.rounded n < wordRange ∧ p.capped (p.rounded n) ≤ allocatable := by
        rcases afford with there | bar | had
        · omega
        · rw [bars, past] at bar
          cases bar
        · exact had
      have granted : m.plan.grown n = .ok (p.capped (p.rounded n)) := by
        rw [h.plan_eq, Plan.grown, past, if_neg (by simp), if_neg (by omega), if_neg (by omega)]
      rw [granted]
      refine .inr ⟨rfl, _, rfl, ?_, h.grown grows room⟩
      exact Nat.le_trans (Plan.le_grown granted) (Nat.le_max_right _ _)

/-- without growth the storage is what it was at first -/
theorem capacity_fixed (h : m.Stands p first f) (fixed : p.grows = false) : m.capacity = first := by
  have := h.first_le
  have := h.barred (first + 1) (by simp [Plan.bars, fixed])
  omega

/-! ## the calls -/

theorem forWrite (h : m.Stands p first f) : m.forWrite.Stands p first (f.forWrite p) := by
  refine ⟨sound_forWrite h.sound, ?_, ?_, ?_, ?_, ?_, ?_⟩
  · rw [plan_forWrite, h.plan_eq]
  · rw [data_forWrite, h.data, SparseFile.forWrite]
    split <;> rfl
  · rw [Memory.forWrite, SparseFile.forWrite, h.plan_eq]
    split
    · exact h.length_eq
    · exact h.pos
  · rw [capacity_forWrite]
    exact h.first_le
  · rw [capacity_forWrite]
    exact h.barred
  · rw [capacity_forWrite]
    exact h.small

theorem put (h : m.Stands p first f) {bytes : Bytes}
    (fits : m.cursor + bytes.length ≤ m.capacity) : (m.put bytes).Stands p first (f.put bytes) := by
  refine ⟨sound_put h.sound fits, h.plan_eq, ?_, ?_, ?_, ?_, ?_⟩
  · rw [data_put h.sound fits, h.data, h.pos]
    rfl
  · exact congrArg (· + bytes.length) h.pos
  · rw [capacity_put]
    exact h.first_le
  · rw [capacity_put]
    exact h.barred
  · rw [capacity_put]
    exact h.small

theorem moveTo (h : m.Stands p first f) {pos : Nat} (fits : pos ≤ m.capacity) :
    (m.moveTo pos).Stands p first (f.moveTo pos) := by
  refine ⟨sound_moveTo h.sound fits, h.plan_eq, ?_, rfl, ?_, ?_, ?_⟩
  · rw [data_moveTo h.sound fits, h.data]
    rfl
  · rw [capacity_moveTo]
    exact h.first_le
  · rw [capacity_moveTo]
    exact h.barred
  · rw [capacity_moveTo]
    exact h.small

theorem read (h : m.Stands p first f) (n : Nat) :
    FileAnswer.ofRead (m.read n).1 = (f.read n).1 ∧ (m.read n).2.Stands p first (f.read n).2 := by
  have length : ((f.content.drop f.pos).take n).length = min n (m.length - m.cursor) := by
    rw [List.length_take, List.length_drop, h.length_eq, h.pos]
  have rest : m.rest = f.content.drop f.pos := by rw [Memory.rest, h.data, h.pos]
  rw [read_eq, rest]
  refine ⟨?_, sound_forward h.sound n, h.plan_eq, h.data, ?_, h.first_le, h.barred, h.small⟩
  · show FileAnswer.bytes (Delivery.part _ _) = FileAnswer.bytes _
    rw [Delivery.part, ← length, List.take_length, Nat.sub_self, zeros_zero, List.append_nil]
  · show m.cursor + _ = f.pos + _
    rw [length]
    exact congrArg (· + _) h.pos

theorem writeHere_growing (h : m.Stands p first f) (grows : p.grows = true) {bytes : Bytes}
    (range : bytes.length < offsetRange) (afford : p.Affords first (f.pos + bytes.length)) :
    FileAnswer.ofCount (m.writeHere bytes).1 = (f.writeHere p first bytes).1 ∧
      (m.writeHere bytes).2.Stands p first (f.writeHere p first bytes).2 := by
  have hc := h.sound.cursor_le_capacity
  have hs := h.small
  have hword : offsetRange + offsetRange ≤ wordRange := by decide
  have granted := h.extend grows afford
  rw [Memory.writeHere, SparseFile.writeHere, h.plan_eq, h.pos, if_pos grows, if_pos grows]
  rw [h.pos] at hc
  split
  · next fits =>
    -- what fits into the storage is not barred
    rcases granted with ⟨bar, -⟩ | ⟨bar, -⟩
    · have := h.barred _ bar
      omega
    · rw [bar]
      refine ⟨rfl, h.put ?_⟩
      rw [h.pos]
      omega
  · rw [if_neg (by omega)]
    rcases granted with ⟨bar, ext⟩ | ⟨bar, size, ext, fits, stands⟩
    · rw [bar, ext]
      exact ⟨rfl, h⟩
    · rw [bar, ext]
      refine ⟨rfl, stands.put ?_⟩
      rw [stands.pos]
      exact fits

theorem writeHere_fixed (h : m.Stands p first f) (fixed : p.grows = false) (bytes : Bytes) :
    FileAnswer.ofCount (m.writeHere bytes).1 = (f.writeHere p first bytes).1 ∧
      (m.writeHere bytes).2.Stands p first (f.writeHere p first bytes).2 := by
  have capacity := h.capacity_fixed fixed
  have hc := h.sound.cursor_le_capacity
  rw [h.pos, capacity] at hc
  rw [Memory.writeHere, SparseFile.writeHere, h.plan_eq, h.pos, capacity, fixed,
    if_neg Bool.false_ne_true, if_neg Bool.false_ne_true]
  split
  · next fits =>
    rw [List.take_of_length_le fits]
    refine ⟨rfl, h.put ?_⟩
    rw [h.pos]
    omega
  · next big =>
    have len : (bytes.take (first - f.pos)).length = first - f.pos :=
      List.length_take_of_le (by omega)
    refine ⟨?_, h.put ?_⟩
    · show FileAnswer.count (first - f.pos) = FileAnswer.count _
      rw [len]
    · rw [h.pos, len]
      omega

theorem write (h : m.Stands p first f) {bytes : Bytes} (range : bytes.length < offsetRange)
    (afford : p.Affords first (f.need p (.write bytes))) :
    FileAnswer.ofCount (m.write bytes).1 = (f.write p first bytes).1 ∧
      (m.write bytes).2.Stands p first (f.write p first bytes).2 := by
  by_cases hb : bytes = []
  · subst hb
    exact ⟨rfl, h⟩
  · rw [SparseFile.write, if_neg hb, write_writeHere, if_neg hb]
    cases grows : p.grows with
    | true => exact h.forWrite.writeHere_growing grows range afford
    | false => exact h.forWrite.writeHere_fixed grows bytes

theorem seek (h : m.Stands p first f) {off : Int} {w : Whence}
    (range : (FileCall.seek off w).InRange) (afford : p.Affords first (f.need p (.seek off w))) :
    FileAnswer.ofCount (m.seek off w).1 = (f.seek p first off w).1 ∧
      (m.seek off w).2.Stands p first (f.seek p first off w).2 := by
  have hbase : m.base w < offsetRange := by
    have := h.sound.cursor_le
    have := h.sound.length_le
    have := h.small
    cases w with
    | start =>
      show 0 < offsetRange
      decide
    | current =>
      show m.cursor < offsetRange
      omega
    | finish =>
      show m.length < offsetRange
      omega
  have hword : offsetRange + offsetRange ≤ wordRange := by decide
  obtain ⟨-, above⟩ := range
  rw [SparseFile.need, ← h.base_eq w] at afford
  rw [SparseFile.seek, ← h.base_eq w, Memory.seek]
  split
  · exact ⟨rfl, h⟩
  · rw [if_neg (by omega), makeRoom, h.plan_eq]
    generalize ((m.base w : Int) + off).toNat = pos at afford ⊢
    cases grows : p.grows with
    | true =>
      rw [if_neg (by simp)]
      rcases h.extend grows afford with ⟨bar, ext⟩ | ⟨bar, size, ext, fits, stands⟩
      · rw [bar, ext]
        exact ⟨rfl, h⟩
      · rw [bar, ext]
        exact ⟨rfl, stands.moveTo fits⟩
    | false =>
      by_cases past : first < pos
      · have bar : p.bars first pos = true := by simp [Plan.bars, grows, past]
        rw [bar, if_pos ⟨h.barred pos bar, rfl⟩]
        exact ⟨rfl, h⟩
      · have bar : p.bars first pos = false := by simp [Plan.bars, past]
        have fits : pos ≤ m.capacity := Nat.le_trans (Nat.le_of_not_lt past) h.first_le
        rw [bar, if_neg (by omega), Memory.extend, if_pos fits]
        exact ⟨rfl, h.moveTo fits⟩

end Stands

theorem perform_stands (h : m.Stands p first f) {c : FileCall} (range : c.InRange)
    (afford : p.Affords first (f.need p c)) :
    (c.perform m).1 = (f.answer p first c).1 ∧
      (c.perform m).2.Stands p first (f.answer p first c).2 := by
  cases c with
  | read n => exact h.read n
  | write bytes => exact h.write range afford
  | seek off w => exact h.seek range afford

theorem replies_stands (calls : List FileCall) (h : m.Stands p first f)
    (range : ∀ c ∈ calls, c.InRange) (afford : SparseFile.Affordable p first calls f) :
    replies calls m = SparseFile.answers p first calls f ∧
      (after calls m).Stands p first (SparseFile.after p first calls f) := by
  induction calls generalizing m f with
  | nil => exact ⟨rfl, h⟩
  | cons c calls ih =>
    obtain ⟨here, rest⟩ := afford
    obtain ⟨same, stands⟩ := perform_stands h (range c List.mem_cons_self) here
    obtain ⟨replies, after⟩ := ih stands (fun d hd => range d (List.mem_cons_of_mem c hd)) rest
    refine ⟨?_, after⟩
    rw [Memory.replies, SparseFile.answers, same, replies]

/-- Take a memory device just made, by whatever plan and over whatever storage, and any calls whose
storage can be had.  The replies are those of a sparse file with the same bytes, of which only the
plan and the size of the first storage say how far it reaches, and in the end the device holds what
the file holds. -/
theorem memory_is_sparse_file (p : Plan) (m : Memory) (content : Bytes) (first : Nat)
    (calls : List FileCall) (made : Made p m content first) (small : first < offsetRange)
    (range : ∀ c ∈ calls, c.InRange) (afford : SparseFile.Affordable p first calls { content }) :
    replies calls m = SparseFile.answers p first calls { content } ∧
      (after calls m).data = (SparseFile.after p first calls { content }).content ∧
      (after calls m).cursor = (SparseFile.after p first calls { content }).pos := by
  obtain ⟨replies, stands⟩ := replies_stands calls (made.stands small) range afford
  exact ⟨replies, stands.data, stands.pos⟩

/-- two bytes of data in a storage of six with stale bytes behind them, and a limit of seven: the
gap reads as zeros, and what passes the limit is refused -/
theorem memory_is_sparse_file_seven :
    ∃ m, ofParts (some [1, 2, 3, 4, 5]) 6 2 { block := 4, limit := some 7 } = .ok m ∧
      replies [.seek 4 .start, .write [9], .seek 0 .start, .read 8, .write [6, 7, 8],
          .seek (-6) .current, .write [6, 7]] m =
        [.count 4, .count 1, .count 0, .bytes [1, 2, 0, 0, 9], .failed .outOfSpace,
          .failed (.invalid .beforeStart), .count 2] ∧
      (after [.seek 4 .start, .write [9], .seek 0 .start, .read 8, .write [6, 7, 8],
          .seek (-6) .current, .write [6, 7]] m).data = [1, 2, 0, 0, 9, 6, 7] := by
  refine ⟨_, rfl, ?_⟩
  have run := memory_is_sparse_file { block := 4, limit := some 7 } _ _ _
    [.seek 4 .start, .write [9], .seek 0 .start, .read 8, .write [6, 7, 8], .seek (-6) .current,
      .write [6, 7]]
    (@Made.ofParts _ [1, 2, 3, 4, 5] 6 2 _ rfl) (by decide) (by decide) (by decide)
  exact ⟨run.1, run.2.1⟩

end Memory

end BufferedStreams
