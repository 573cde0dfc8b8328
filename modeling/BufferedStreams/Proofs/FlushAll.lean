import BufferedStreams.Proofs.Handles

/-!
# Flushing every stream

`Desk.flushAll` goes through the slots in their order and flushes each stream it finds there.  Where
devices are independent of each other, that is the same as flushing each stream on its own.

* `Slot.open?`, `Slot.update`   the open stream of a slot, and the slot after something was done to it;
* `Desk.visitSlots_eq`   an operation on every stream whose effect on a stream does not depend on the
                         value handed on is a map over the slots and a fold over the open streams;
* `Desk.FlushedAll`      the answer and the desk that the flushes of the single streams call for.
-/

namespace BufferedStreams

variable {δ σ : Type}

namespace Slot

/-- the stream of a slot, if it has one that is open -/
def open? (slot : Slot δ) : Option (Stream δ) := slot.tenant.filter fun s => !s.closed

/-- the slot after `g` was done to its stream, if that is open -/
def update (g : Stream δ → Stream δ) (slot : Slot δ) : Slot δ :=
  { slot with tenant := slot.tenant.map fun s => if s.closed then s else g s }

variable {generation : UInt32} {s : Stream δ}

theorem open?_of_closed (shut : s.closed = true) : (⟨generation, some s⟩ : Slot δ).open? = none := by
  simp [open?, shut]

theorem open?_of_open (opn : s.closed = false) : (⟨generation, some s⟩ : Slot δ).open? = some s := by
  simp [open?, opn]

theorem update_of_closed (shut : s.closed = true) (g : Stream δ → Stream δ) :
    update g ⟨generation, some s⟩ = ⟨generation, some s⟩ := by
  simp [update, shut]

theorem update_of_open (opn : s.closed = false) (g : Stream δ → Stream δ) :
    update g ⟨generation, some s⟩ = ⟨generation, some (g s)⟩ := by
  simp [update, opn]

end Slot

namespace Desk

/-! ## one pass over the slots -/

theorem shape_update {k k' : Desk δ σ} {g : Stream δ → Stream δ}
    (slots : k'.slots = k.slots.map (Slot.update g)) : k'.shape = k.shape := by
  rw [shape, slots, List.map_map, shape]
  refine List.map_congr_left fun slot _ => ?_
  show (slot.generation, (slot.tenant.map _).isSome) = (slot.generation, slot.tenant.isSome)
  rw [Option.isSome_map]

theorem find?_update {k k' : Desk δ σ} {g : Stream δ → Stream δ}
    (slots : k'.slots = k.slots.map (Slot.update g)) (h : Handle) :
    k'.find? h = (k.find? h).map fun s => if s.closed then s else g s := by
  rw [find?, find?, slots, List.getElem?_map]
  cases k.slots[h.index]? with
  | none => rfl
  | some slot =>
    by_cases same : slot.generation = h.generation
    · show (if slot.generation = h.generation then _ else _) = _
      dsimp only
      rw [if_pos same, if_pos same]
      rfl
    · show (if slot.generation = h.generation then _ else _) = _
      dsimp only
      rw [if_neg same, if_neg same]
      rfl

/-- every open stream on a desk has a handle that names it -/
theorem mem_open_iff (k : Desk δ σ) (s : Stream δ) :
    s ∈ k.slots.filterMap Slot.open? ↔ s.closed = false ∧ ∃ h, k.find? h = some s := by
  rw [List.mem_filterMap]
  constructor
  · rintro ⟨slot, mem, here⟩
    obtain ⟨tenant, opn⟩ := Option.filter_eq_some_iff.mp here
    obtain ⟨i, at_i⟩ := List.mem_iff_getElem?.mp mem
    refine ⟨by simpa using opn, ⟨i, slot.generation⟩, ?_⟩
    rw [find?]
    dsimp only
    rw [at_i]
    dsimp only
    rw [if_pos rfl, tenant]
  · rintro ⟨opn, h, named⟩
    rw [find?] at named
    cases at_h : k.slots[h.index]? with
    | none =>
      rw [at_h] at named
      cases named
    | some slot =>
      rw [at_h] at named
      dsimp only at named
      split at named
      · refine ⟨slot, List.mem_of_getElem? at_h, Option.filter_eq_some_iff.mpr ⟨named, ?_⟩⟩
        simp [opn]
      · cases named

/-- one failure is enough, and it does not matter where -/
theorem foldl_failed (p : Stream δ → Bool) (b : Bool) (streams : List (Stream δ)) :
    streams.foldl (fun failed s => failed || p s) b = (b || streams.any p) := by
  induction streams generalizing b with
  | nil => exact (Bool.or_false b).symm
  | cons s rest ih => rw [List.foldl_cons, ih, List.any_cons, Bool.or_assoc]

variable [Shares δ σ]

/-- Devices that get nothing from each other: what is shared is lent to them in vain -/
def Apart (δ σ : Type) [Shares δ σ] : Prop :=
  ∀ (shared : σ) (d : δ), Shares.lend shared d = d

theorem borrow_apart {α : Type} (apart : Apart δ σ) (f : Stream δ → α × Stream δ) (shared : σ)
    (s : Stream δ) : borrow f shared s = ((f s).1, (f s).2, Shares.settle (f s).2.device shared) := by
  rw [borrow, apart]

/-- the slots are visited one by one: no stream gets to know what was done to the ones before it,
unless by the value handed on -/
theorem visitSlots_eq {α : Type} (apart : Apart δ σ) {f : α → Stream δ → α × Stream δ}
    {g : Stream δ → Stream δ} (same : ∀ a s, (f a s).2 = g s) (a : α) (shared : σ)
    (slots : List (Slot δ)) :
    ∃ shared', visitSlots f a shared slots =
      ((slots.filterMap Slot.open?).foldl (fun a s => (f a s).1) a, shared',
        slots.map (Slot.update g)) := by
  induction slots generalizing a shared with
  | nil => exact ⟨shared, rfl⟩
  | cons slot rest ih =>
    obtain ⟨generation, _ | s⟩ := slot
    · obtain ⟨shared', later⟩ := ih a shared
      rw [visitSlots]
      dsimp only
      rw [later]
      exact ⟨shared', rfl⟩
    · cases shut : s.closed with
      | true =>
        obtain ⟨shared', later⟩ := ih a shared
        rw [visitSlots]
        dsimp only
        rw [if_pos shut, later, List.filterMap_cons_none (Slot.open?_of_closed shut), List.map_cons,
          Slot.update_of_closed shut]
        exact ⟨shared', rfl⟩
      | false =>
        obtain ⟨shared', later⟩ := ih (f a s).1 (Shares.settle (f a s).2.device shared)
        rw [visitSlots]
        dsimp only
        rw [if_neg (by simp [shut]), borrow_apart apart]
        dsimp only
        rw [later, List.filterMap_cons_some (Slot.open?_of_open shut), List.map_cons,
          Slot.update_of_open shut, List.foldl_cons, same]
        exact ⟨shared', rfl⟩

/-! ## flushing -/

variable [Device δ]

theorem flush_idle {s : Stream δ} (reads : s.writing = false) : s.flush = (.ok (), s) := by
  rw [Stream.flush, if_neg (by simp [reads])]

/-- does the flush of a stream fail? -/
def flushFails (s : Stream δ) : Bool := !s.flush.1.toBool

theorem flushFails_iff (s : Stream δ) :
    flushFails s = true ↔ s.writing = true ∧ ∃ f, s.flush.1 = .error f := by
  rw [flushFails]
  cases writes : s.writing with
  | false =>
    rw [flush_idle writes]
    simp [Except.toBool]
  | true => cases s.flush.1 <;> simp [Except.toBool]

theorem flushAll_eq (apart : Apart δ σ) (k : Desk δ σ) :
    ∃ shared', k.flushAll =
      (if (k.slots.filterMap Slot.open?).any flushFails then .error (.io .notAllFlushed) else .ok (),
        { k with slots := k.slots.map (Slot.update fun s => s.flush.2), shared := shared' }) := by
  -- a stream that reads has nothing to hand over: its flush succeeds and is the stream itself
  have each : (fun (failed : Bool) (s : Stream δ) =>
      if s.writing then (failed || !s.flush.1.toBool, s.flush.2) else (failed, s)) =
        fun failed s => (failed || flushFails s, s.flush.2) := by
    funext failed s
    split
    · rfl
    · next reads =>
      rw [flushFails, flush_idle (by simpa using reads)]
      simp [Except.toBool]
  have goes : k.flushAll =
      (if (k.visitAll (fun failed s => (failed || flushFails s, s.flush.2)) false).1 then
        .error (.io .notAllFlushed) else .ok (),
        (k.visitAll (fun failed s => (failed || flushFails s, s.flush.2)) false).2) := by
    rw [← each]
    rfl
  obtain ⟨shared', pass⟩ := visitSlots_eq apart
    (f := fun (failed : Bool) s => (failed || flushFails s, s.flush.2))
    (g := fun s => s.flush.2) (fun _ _ => rfl) false k.shared k.slots
  refine ⟨shared', ?_⟩
  rw [goes, visitAll, pass]
  dsimp only
  rw [foldl_failed, Bool.false_or]

omit [Shares δ σ] in
theorem any_fails_iff (k : Desk δ σ) :
    (k.slots.filterMap Slot.open?).any flushFails = true ↔
      ∃ h s f, k.find? h = some s ∧ s.closed = false ∧ s.writing = true ∧ s.flush.1 = .error f := by
  rw [List.any_eq_true]
  constructor
  · rintro ⟨s, mem, fails⟩
    obtain ⟨opn, h, named⟩ := (mem_open_iff k s).mp mem
    obtain ⟨writes, f, failed⟩ := (flushFails_iff s).mp fails
    exact ⟨h, s, f, named, opn, writes, failed⟩
  · rintro ⟨h, s, f, named, opn, writes, failed⟩
    exact ⟨s, (mem_open_iff k s).mpr ⟨opn, h, named⟩, (flushFails_iff s).mpr ⟨writes, f, failed⟩⟩

/-- `r` and `k'` are the answer and the desk that the flushes of the streams of `k`, each on its own,
call for -/
structure FlushedAll (k : Desk δ σ) (r : Except Fault Unit) (k' : Desk δ σ) : Prop where
  /-- no handle comes or goes -/
  desk : k'.shape = k.shape ∧ k'.vacant = k.vacant ∧ k'.live = k.live ∧ k'.retired = k.retired
  /-- a stream that writes is where a flush of it alone would have left it -/
  alone : ∀ h s, k.find? h = some s → s.closed = false → s.writing = true →
    k'.find? h = some s.flush.2 ∧
      ∃ k₁, k.visit h Stream.flush = some (s.flush.1, k₁) ∧ k₁.find? h = some s.flush.2
  /-- one that reads is untouched, and so is one that is closed -/
  idle : ∀ h s, k.find? h = some s → s.writing = false ∨ s.closed = true → k'.find? h = some s
  unnamed : ∀ h, k.find? h = none → k'.find? h = none
  /-- it fails if one of the flushes fails, no matter which, and only then -/
  fails : r = .error (.io .notAllFlushed) ↔
    ∃ h s f, k.find? h = some s ∧ s.closed = false ∧ s.writing = true ∧ s.flush.1 = .error f
  answers : r = .error (.io .notAllFlushed) ∨ r = .ok ()

/-- Take a desk in any state, over devices that are independent of each other and may fail or take
output bit by bit as they please.  Flushing all streams does to each of them what flushing it alone
would do, and nothing else, and fails if and only if one of these flushes fails. -/
theorem flushAll_independent (apart : Apart δ σ) (k : Desk δ σ) :
    FlushedAll k k.flushAll.1 k.flushAll.2 := by
  obtain ⟨shared', all⟩ := flushAll_eq apart k
  rw [all]
  let flushed : Desk δ σ :=
    { k with slots := k.slots.map (Slot.update fun s => s.flush.2), shared := shared' }
  have found : ∀ h, flushed.find? h =
      (k.find? h).map fun s => if s.closed then s else s.flush.2 := find?_update rfl
  refine ⟨⟨shape_update rfl, rfl, rfl, rfl⟩, ?_, ?_, ?_, ?_, ?_⟩
  · intro h s named opn writes
    refine ⟨?_, ?_⟩
    · rw [found, named, Option.map_some, if_neg (by simp [opn])]
    · rw [visit, named]
      dsimp only
      rw [borrow_apart apart]
      exact ⟨_, rfl, find?_replace named _⟩
  · intro h s named idle
    rw [found, named, Option.map_some]
    rcases idle with reads | shut
    · rw [flush_idle reads, ite_self]
    · rw [if_pos shut]
  · intro h unnamed
    rw [found, unnamed, Option.map_none]
  · rw [← any_fails_iff]
    dsimp only
    split
    · next fails => exact ⟨fun _ => fails, fun _ => rfl⟩
    · next fine =>
      refine ⟨?_, fun fails => absurd fails fine⟩
      intro h
      cases h
  · dsimp only
    split
    · exact .inl rfl
    · exact .inr rfl

/-- the first stream fails after one byte, the second reads, the slot after it is empty, the one behind
that hands its output over although the first failed, and the last fails when it is told -/
theorem flushAll_independent_four :
    let atop (script : Script) (ops : List Op) : Stream Scripted :=
      Stream.after ops
        (Stream.opened { capacity := 8 } ⟨script, { read := true, write := true }⟩ .both)
    let failing := atop { writes := [.atMost 1, .fail (.code 5)] } [.write [1, 2, 3]]
    let reading := atop { data := [7] } [.write [4], .read 1]
    let short := atop { writes := [.atMost 1] } [.write [5, 6]]
    let untold := atop { flushes := [.fail (.code 28)] } [.write [8]]
    let k : Desk Scripted Unit :=
      { slots := [⟨1, some failing⟩, ⟨1, some reading⟩, ⟨3, none⟩, ⟨2, some short⟩, ⟨1, some untold⟩]
        vacant := [2], live := 4, shared := () }
    Apart Scripted Unit ∧ FlushedAll k k.flushAll.1 k.flushAll.2 ∧
      (k.flushAll.1.toBool = false ∧ failing.flush.1.toBool = false ∧ reading.writing = false) ∧
      (k.flushAll.2.find? ⟨3, 2⟩).map (·.device.script.data) = some [5, 6] := by
  intro atop failing reading short untold k
  have apart : Apart Scripted Unit := fun _ _ => rfl
  exact ⟨apart, flushAll_independent apart k, by decide +kernel, by decide +kernel⟩

end Desk

end BufferedStreams
