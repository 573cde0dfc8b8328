import BufferedStreams.Proofs.CallbackErrno

/-!
# The block that a caller keeps for lines

A caller of the C interface keeps a pointer to a block and the size of the block from line to line.
The pair starts as null with any size, or as a block of that size, and new blocks are granted or
refused as it may happen.

* `LineBuffer.Valid`     null, or a block of the size that the caller knows;
* `LineBuffer.Took`      the block holds a line and a zero byte, and behind them what it held before;
* `LineCall.perform_did` what one call does: it fails and leaves the pair alone, or the block takes
                         the line;
* `line_block_kept`      the same after any calls, on any streams.
-/

namespace BufferedStreams

/-- bytes at the start of a slab stand in front of the others -/
theorem Slab.toList_store_start {s : Slab} {bytes : Bytes} (fits : bytes.length ≤ s.size) :
    (s.store 0 bytes).toList = bytes ++ s.toList.drop bytes.length := by
  rw [toList_store, Nat.sub_zero, List.take_of_length_le fits, List.take_zero, List.nil_append,
    Nat.zero_add]

/-- nothing comes behind the bytes that a slab grows to -/
theorem Slab.drop_grow (s : Slab) (n : Nat) : (s.grow n).toList.drop n = s.toList.drop n := by
  rw [toList_grow, List.drop_append, length_toList, drop_zeros, Nat.sub_self, zeros_zero,
    List.append_nil]

namespace LineBuffer

/-- how large the block really is; there are no bytes at null -/
def allocated (b : LineBuffer) : Nat := (b.block.getD (Slab.blank 0)).size

def contents (b : LineBuffer) : Bytes := (b.block.getD (Slab.blank 0)).toList

/-- null, with any size, or a block of the size that the caller knows -/
def Valid (b : LineBuffer) : Prop := ∀ block ∈ b.block, block.size = b.size

/-- the block holds a line and a zero byte, and behind them what it held before -/
structure Took (b b' : LineBuffer) (line : Bytes) : Prop where
  block : b'.block.isSome = true
  size : b'.size = b'.allocated
  contents : b'.contents = line ++ [0] ++ b.contents.drop (line.length + 1)

/-- a block is never given up, nor any of its bytes -/
structure Grows (b b' : LineBuffer) : Prop where
  block : b.block.isSome = true → b'.block.isSome = true
  allocated_le : b.allocated ≤ b'.allocated

theorem Grows.refl (b : LineBuffer) : b.Grows b := ⟨id, Nat.le_refl _⟩

theorem Grows.trans {b b' b'' : LineBuffer} (first : b.Grows b') (more : b'.Grows b'') :
    b.Grows b'' :=
  ⟨more.block ∘ first.block, Nat.le_trans first.allocated_le more.allocated_le⟩

variable {b b' : LineBuffer} {line : Bytes}

theorem length_contents (b : LineBuffer) : b.contents.length = b.allocated :=
  Slab.length_toList _

theorem bytes_eq (b : LineBuffer) (n : Nat) : b.bytes n = b.contents.take n := by
  rcases b with ⟨_ | block, size⟩
  · exact List.take_nil.symm
  · exact block.slice_eq 0 n

theorem Took.valid (h : Took b b' line) : b'.Valid := by
  intro block mem
  rw [h.size, allocated, Option.mem_def.mp mem]
  rfl

/-- a line and its zero byte fit, and nothing is given up -/
theorem Took.allocated_eq (h : Took b b' line) :
    b'.allocated = max (line.length + 1) b.allocated := by
  rw [← length_contents b', h.contents, List.length_append, List.length_append, List.length_drop,
    length_contents, List.length_singleton]
  omega

theorem Took.grows (h : Took b b' line) : b.Grows b' := by
  refine ⟨fun _ => h.block, ?_⟩
  rw [h.allocated_eq]
  exact Nat.le_max_right _ _

theorem Took.bytes (h : Took b b' line) : b'.bytes (line.length + 1) = line ++ [0] := by
  rw [bytes_eq, h.contents]
  exact List.take_left' List.length_append

theorem Valid.allocated_le (valid : b.Valid) {needed : Nat} (held : b.holds needed = false) :
    b.allocated ≤ needed := by
  cases there : b.block with
  | none =>
    rw [allocated, there]
    exact Nat.zero_le _
  | some block =>
    have same : block.size = b.size := valid block there
    rw [holds, there, Option.isSome_some, Bool.true_and, decide_eq_false_iff_not] at held
    rw [allocated, there, Option.getD_some, same]
    exact Nat.le_of_not_le held

/-- A larger block is refused; or there is a block that is large enough, of the size that is noted,
with nothing changed behind the bytes that are needed. -/
theorem reserve_cases (valid : b.Valid) (grants : Nat → Bool) (needed : Nat) :
    (b.reserve grants needed = none ∧ b.holds needed = false ∧ grants needed = false) ∨
      ∃ block, b.reserve grants needed = some { block := some block, size := block.size } ∧
        needed ≤ block.size ∧ block.toList.drop needed = b.contents.drop needed := by
  unfold reserve
  cases held : b.holds needed with
  | true =>
    right
    rw [holds, Bool.and_eq_true, decide_eq_true_eq] at held
    obtain ⟨block, there⟩ := Option.isSome_iff_exists.mp held.1
    have same : block.size = b.size := valid block there
    rw [if_pos rfl]
    refine ⟨block, ?_, ?_, ?_⟩
    · rw [same, ← there]
    · rw [same]
      exact held.2
    · rw [contents, there]
      rfl
  | false =>
    have small := valid.allocated_le held
    rw [if_neg Bool.false_ne_true]
    cases granted : grants needed with
    | false => exact .inl ⟨rfl, rfl, rfl⟩
    | true =>
      have whole : ((b.block.getD (Slab.blank 0)).grow needed).size = needed :=
        Nat.max_eq_right small
      refine .inr ⟨(b.block.getD (Slab.blank 0)).grow needed, ?_, ?_, Slab.drop_grow _ _⟩
      · rw [if_pos rfl, whole]
      · exact Nat.le_max_right _ _

/-- a line is refused by a pair that has no room for it, or the block takes it -/
theorem store_cases (valid : b.Valid) (grants : Nat → Bool) (line : Bytes) :
    (b.store grants line = none ∧ b.holds (line.length + 1) = false ∧
        grants (line.length + 1) = false) ∨
      ∃ b', b.store grants line = some b' ∧ Took b b' line := by
  rcases reserve_cases valid grants (line.length + 1) with ⟨refused, why⟩ | ⟨block, got, fits, rest⟩
  · left
    rw [store, refused]
    exact ⟨rfl, why⟩
  · right
    have fits : (line ++ [0]).length ≤ block.size := by
      rw [List.length_append]
      exact fits
    rw [store, got]
    refine ⟨_, rfl, rfl, (block.size_store _ _).symm, ?_⟩
    show (block.store 0 (line ++ [0])).toList = _
    rw [Slab.toList_store_start fits, List.length_append, List.length_singleton, rest]

end LineBuffer

namespace Client

variable {κ : Type} [Cookie κ]

/-- the line that the stream behind a pointer has to give, if there is one -/
def lineBehind (p : Pointer) (limit : Nat) (c : Client κ) : Option Bytes :=
  (c.stream? p).bind fun s =>
    match (c.desk.loan s).readLine limit [] with
    | (.ok _, a :: line, _) => some (a :: line)
    | _ => none

/-- what a request for a line returns and does to the pair -/
theorem readLine_pair (grants : Nat → Bool) (p : Pointer) (limit : Nat) (b : LineBuffer)
    (c : Client κ) :
    ∃ c', c.readLine grants p limit (some b) =
      match (c.lineBehind p limit).bind fun line => (b.store grants line).map (line.length, ·) with
      | some (n, b') => ((n : Int), some b', c')
      | none => (failure, some b, c') := by
  unfold Client.readLine lineBehind
  cases found : c.stream? p with
  | none => exact ⟨_, rfl⟩
  | some s =>
    obtain ⟨h, rfl, named⟩ := Option.bind_eq_some_iff.mp found
    rw [perform_found named, lineOf, Option.bind_some]
    rcases (c.desk.loan s).readLine limit [] with ⟨f | n, _ | ⟨a, line⟩, s'⟩
    · exact ⟨_, rfl⟩
    · exact ⟨_, rfl⟩
    · exact ⟨_, rfl⟩
    · cases stored : b.store grants (a :: line) with
      | none =>
        refine ⟨(c.visited h s').leave Errno.noMemory, ?_⟩
        simp [settle, Except.map, stored]
      | some b' =>
        refine ⟨c.visited h s', ?_⟩
        simp [settle, Except.map, stored]

end Client

/-- a request for a line in a block that the caller keeps -/
structure LineCall where
  pointer : Pointer
  /-- none for a line of any length -/
  limit : Option Nat
  /-- the sizes for which a new block may be had -/
  grants : Nat → Bool

namespace LineCall

open Client LineBuffer

variable {κ : Type} [Cookie κ]

def perform (call : LineCall) (b : LineBuffer) (c : Client κ) :
    Int × Option LineBuffer × Client κ :=
  match call.limit with
  | none => Client.getline call.grants (some b) call.pointer c
  | some limit => c.readLine call.grants call.pointer limit (some b)

/-- the line that the call asks for -/
def line? (call : LineCall) (c : Client κ) : Option Bytes :=
  c.lineBehind call.pointer (call.limit.getD 0)

/-- What a call returns and does to the pair.  It fails, for want of a line or of a block for it, and
leaves the pair alone, or the block takes the line. -/
inductive Did (call : LineCall) (c : Client κ) (b : LineBuffer) : Int → LineBuffer → Prop
  | failed (want : ∀ line ∈ call.line? c,
      b.holds (line.length + 1) = false ∧ call.grants (line.length + 1) = false) :
      Did call c b (-1) b
  | took {line : Bytes} {b' : LineBuffer} (read : call.line? c = some line) (took : Took b b' line) :
      Did call c b line.length b'

variable {call : LineCall} {c : Client κ} {b b' : LineBuffer} {r : Int}

theorem perform_eq (call : LineCall) (b : LineBuffer) (c : Client κ) :
    call.perform b c = c.readLine call.grants call.pointer (call.limit.getD 0) (some b) := by
  rcases call with ⟨pointer, _ | limit, grants⟩ <;> rfl

theorem length_line?_pos {line : Bytes} (read : call.line? c = some line) : 0 < line.length := by
  unfold line? lineBehind at read
  obtain ⟨s, -, read⟩ := Option.bind_eq_some_iff.mp read
  split at read
  · cases read
    exact Nat.succ_pos _
  · cases read

theorem perform_did (valid : b.Valid) (call : LineCall) (c : Client κ) :
    ∃ r b' c', call.perform b c = (r, some b', c') ∧ Did call c b r b' := by
  obtain ⟨c', answer⟩ := readLine_pair call.grants call.pointer (call.limit.getD 0) b c
  rw [perform_eq, answer, ← line?]
  cases read : call.line? c with
  | none =>
    refine ⟨_, _, _, rfl, .failed ?_⟩
    rw [read]
    intro line none
    cases none
  | some line =>
    rw [Option.bind_some]
    rcases store_cases valid call.grants line with ⟨refused, why⟩ | ⟨b', stored, took⟩
    · rw [refused]
      refine ⟨_, _, _, rfl, .failed ?_⟩
      rw [read]
      rintro _ ⟨⟩
      exact why
    · rw [stored]
      exact ⟨_, _, _, rfl, .took read took⟩

theorem Did.valid (h : Did call c b r b') (valid : b.Valid) : b'.Valid := by
  cases h with
  | failed => exact valid
  | took _ took => exact took.valid

theorem Did.grows (h : Did call c b r b') : b.Grows b' := by
  cases h with
  | failed => exact .refl b
  | took _ took => exact took.grows

/-! ## any calls -/

/-- the calls one after the other, with whatever the client does before each of them -/
def run : List ((Client κ → Client κ) × LineCall) → LineBuffer → Client κ →
    Option LineBuffer × Client κ
  | [], b, c => (some b, c)
  | (meanwhile, call) :: calls, b, c =>
    match call.perform b (meanwhile c) with
    | (_, some b, c) => run calls b c
    | (_, none, c) => (none, c)

theorem run_kept (valid : b.Valid) (calls : List ((Client κ → Client κ) × LineCall))
    (c : Client κ) :
    ∃ b' c', run calls b c = (some b', c') ∧ b'.Valid ∧ b.Grows b' := by
  induction calls generalizing b c with
  | nil => exact ⟨b, c, rfl, valid, .refl b⟩
  | cons first calls ih =>
    obtain ⟨meanwhile, call⟩ := first
    obtain ⟨r, b', c', answer, did⟩ := perform_did valid call (meanwhile c)
    obtain ⟨b'', c'', rest, valid', more⟩ := ih (did.valid valid) c'
    refine ⟨b'', c'', ?_, valid', did.grows.trans more⟩
    rw [run, answer]
    exact rest

/-- Take a pair of a block and its size, null with any size or a block of that size, and any requests
for lines, on any streams, with blocks granted or refused as it may happen.  The pair stays null or a
block of the size that is noted, and the block is never given up and never gets smaller.  Each request
fails and leaves pair and block alone, which it does only if there is no line, or the pair has no room
for it and a block is refused; or it returns the length of the line that the stream had to give, which
now stands at the start of the block with a zero byte behind it. -/
theorem line_block_kept (valid : b.Valid) (calls : List ((Client κ → Client κ) × LineCall))
    (c : Client κ) :
    ∃ b₁ c₁, run calls b c = (some b₁, c₁) ∧ b₁.Valid ∧ b.Grows b₁ ∧
      ∀ (call : LineCall) (c : Client κ), ∃ r b₂ c₂,
        call.perform b₁ c = (r, some b₂, c₂) ∧ b₂.Valid ∧ b₁.Grows b₂ ∧
        (r = -1 ∧ b₂ = b₁ ∧ (∀ line ∈ call.line? c,
            b₁.holds (line.length + 1) = false ∧ call.grants (line.length + 1) = false) ∨
          ∃ line, call.line? c = some line ∧ r = line.length ∧ 0 < line.length ∧
            b₂.block.isSome = true ∧ line.length + 1 ≤ b₂.size ∧
            b₂.bytes (line.length + 1) = line ++ [0]) := by
  obtain ⟨b₁, c₁, ran, valid₁, grows⟩ := run_kept valid calls c
  refine ⟨b₁, c₁, ran, valid₁, grows, ?_⟩
  intro call c
  obtain ⟨r, b₂, c₂, answer, did⟩ := perform_did valid₁ call c
  refine ⟨r, b₂, c₂, answer, did.valid valid₁, did.grows, ?_⟩
  cases did with
  | failed want => exact .inl ⟨rfl, rfl, want⟩
  | took read took =>
    refine .inr ⟨_, read, rfl, length_line?_pos read, took.block, ?_, took.bytes⟩
    rw [took.size, took.allocated_eq]
    exact Nat.le_max_left _ _

/-- from null with a size of no meaning: a block for three bytes, no larger one for five, and the same
block for one byte -/
theorem line_block_kept_null :
    let bytes := [1, 2, newline, 3, 4, 5, 6, newline, 7]
    let s := Stream.opened { capacity := 4 }
      (.inl (Memory.ofData bytes {}) : Memory ⊕ Callback Script) .both
    let c : Client Script := { desk := { slots := [⟨1, some s⟩], live := 1, shared := 0 } }
    let calls : List ((Client Script → Client Script) × LineCall) :=
      [(id, ⟨some ⟨0, 1⟩, none, fun _ => true⟩), (id, ⟨some ⟨0, 1⟩, none, fun _ => false⟩)]
    ∃ b₁ c₁ r b₂ c₂, run calls { size := 77 } c = (some b₁, c₁) ∧ b₁.Valid ∧
      b₁.contents = [1, 2, newline, 0] ∧
      perform ⟨some ⟨0, 1⟩, some 3, fun _ => false⟩ b₁ c₁ = (r, some b₂, c₂) ∧ b₂.Valid ∧ r = 1 ∧
      b₂.contents = [7, 0, newline, 0] := by
  intro bytes s c calls
  have null : LineBuffer.Valid { size := 77 } := by
    intro block none
    cases none
  obtain ⟨b₁, c₁, ran, valid₁, -, next⟩ := line_block_kept null calls c
  obtain ⟨r, b₂, c₂, answer, valid₂, -⟩ :=
    next ⟨some ⟨0, 1⟩, some 3, fun _ => false⟩ c₁
  have first : (run calls { size := 77 } c).1.map LineBuffer.contents =
      some [1, 2, newline, 0] := by decide +kernel
  have last : (run calls { size := 77 } c).1.map (fun b =>
      let after := perform ⟨some ⟨0, 1⟩, some 3, fun _ => false⟩ b (run calls { size := 77 } c).2
      (after.1, after.2.1.map LineBuffer.contents)) = some (1, some [7, 0, newline, 0]) := by
    decide +kernel
  rw [ran] at first last
  dsimp only [Option.map_some] at last
  rw [answer] at last
  obtain ⟨one, held⟩ := Prod.mk.inj (Option.some.inj last)
  exact ⟨b₁, c₁, r, b₂, c₂, ran, valid₁, Option.some.inj first, answer, valid₂, one,
    Option.some.inj held⟩

end LineCall

end BufferedStreams
