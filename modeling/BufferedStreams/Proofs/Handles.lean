import BufferedStreams.Proofs.Refinement
import BufferedStreams.Proofs.Safety

/-!
# Handles name streams

A desk gives out handles as streams come and takes them back as streams leave.  What is done at a desk
is a list of deeds; from it comes a list of moves, the handles that were given out or taken back, in
the order in which that happened.

* `Numbered`     the handles that name one slot have the generations 1, 2, 3 and so on;
* `Kept`         the moves told the desk which slots are taken and which generation each has;
* `Books`        and the tallies count them;
* `Exact`        what follows for a user: no two handles are equal, and a handle names a stream as
                 long as that is on the desk.

Each move keeps the books (`Books.place`, `Books.close`), and so does a run (`perform_books`).  As long
as generations do not wrap, the books are exact (`handles_exact`).
-/

namespace BufferedStreams

/-! ## moves -/

/-- a stream came to a desk and was given a handle, or left and gave it back -/
inductive Move where
  | came (h : Handle)
  | left (h : Handle)
  deriving DecidableEq, Repr

namespace Move

def came? : Move → Option Handle
  | came h => some h
  | left _ => none

def left? : Move → Option Handle
  | came _ => none
  | left h => some h

/-- the handles given out, the first one first -/
def issued (ms : List Move) : List Handle := ms.filterMap came?

/-- the handles given back -/
def returned (ms : List Move) : List Handle := ms.filterMap left?

/-- the handles given out and not given back -/
def standing (ms : List Move) : List Handle := (issued ms).filter (· ∉ returned ms)

variable (ms : List Move) (h : Handle)

theorem issued_came : issued (ms ++ [came h]) = issued ms ++ [h] := List.filterMap_append
theorem returned_left : returned (ms ++ [left h]) = returned ms ++ [h] := List.filterMap_append

theorem issued_left : issued (ms ++ [left h]) = issued ms := by
  rw [issued, List.filterMap_append]
  exact List.append_nil _

theorem returned_came : returned (ms ++ [came h]) = returned ms := by
  rw [returned, List.filterMap_append]
  exact List.append_nil _

end Move

/-! ## numbered handles -/

/-- how many of the handles name a slot -/
def uses (hs : List Handle) (i : Nat) : Nat := hs.countP (·.index == i)

theorem uses_snoc (hs : List Handle) (h : Handle) (i : Nat) :
    uses (hs ++ [h]) i = uses hs i + if h.index = i then 1 else 0 := by
  rw [uses, List.countP_append, List.countP_singleton, uses]
  simp only [beq_iff_eq]

theorem uses_le (hs : List Handle) (i : Nat) : uses hs i ≤ hs.length := List.countP_le_length

/-- indices and generations of handles are below this -/
def handleRange : Nat := 0x100000000

theorem generation_inj {a b : Nat} (ha : a < handleRange) (hb : b < handleRange)
    (h : UInt32.ofNat a = UInt32.ofNat b) : a = b := by
  have h := congrArg UInt32.toNat h
  rw [UInt32.toNat_ofNat', UInt32.toNat_ofNat'] at h
  unfold handleRange at ha hb
  omega

/-- the handles of each slot have the generations from one on -/
structure Numbered (hs : List Handle) : Prop where
  mem : ∀ h, h ∈ hs ↔ ∃ k < uses hs h.index, h.generation = .ofNat (k + 1)
  nodup : hs.length < handleRange → hs.Nodup

theorem Numbered.nil : Numbered [] := by
  refine ⟨fun h => ⟨?_, ?_⟩, fun _ => List.nodup_nil⟩
  · intro m
    cases m
  · rintro ⟨k, lt, -⟩
    exact absurd lt (Nat.not_lt_zero k)

/-- before generations wrap, the handles given out are the ones with a number below the next one -/
theorem Numbered.mem_iff {hs : List Handle} (h : Numbered hs) (bound : hs.length < handleRange)
    {i n : Nat} (small : n + 1 < handleRange) : ⟨i, .ofNat (n + 1)⟩ ∈ hs ↔ n < uses hs i := by
  rw [h.mem]
  constructor
  · rintro ⟨k, lt, same⟩
    have le := uses_le hs i
    have := generation_inj small (by dsimp only at lt; omega) same
    dsimp only at lt
    omega
  · intro lt
    exact ⟨n, lt, rfl⟩

/-- the next handle of a slot -/
theorem Numbered.snoc {hs : List Handle} (h : Numbered hs) (i : Nat) :
    Numbered (hs ++ [⟨i, .ofNat (uses hs i + 1)⟩]) := by
  refine ⟨?_, ?_⟩
  · intro x
    rw [List.mem_append, List.mem_singleton, h.mem, uses_snoc]
    dsimp only
    by_cases here : i = x.index
    · rw [if_pos here]
      constructor
      · rintro (⟨k, lt, same⟩ | rfl)
        · exact ⟨k, by omega, same⟩
        · exact ⟨uses hs i, Nat.lt_succ_self _, rfl⟩
      · rintro ⟨k, lt, same⟩
        rcases Nat.lt_succ_iff_lt_or_eq.mp lt with lt | rfl
        · exact .inl ⟨k, lt, same⟩
        · refine .inr ?_
          rw [here, ← same]
    · rw [if_neg here, Nat.add_zero]
      constructor
      · rintro (old | rfl)
        · exact old
        · exact absurd rfl here
      · exact .inl
  · intro bound
    rw [List.length_append, List.length_singleton] at bound
    have le := uses_le hs i
    refine List.nodup_append.mpr ⟨h.nodup (by omega), List.pairwise_singleton _ _, ?_⟩
    rintro x old _ (new : _ ∈ [_]) rfl
    rw [List.mem_singleton.mp new, h.mem_iff (by omega) (by omega)] at old
    exact Nat.lt_irrefl _ old

/-! ## slots -/

namespace Desk

variable {δ σ : Type}

/-- the generation of each slot, and whether it is taken -/
def shape (d : Desk δ σ) : List (UInt32 × Bool) :=
  d.slots.map fun slot => (slot.generation, slot.tenant.isSome)

theorem shape_getElem? (d : Desk δ σ) (i : Nat) :
    d.shape[i]? = d.slots[i]?.map fun slot => (slot.generation, slot.tenant.isSome) :=
  List.getElem?_map

/-- a handle names a stream if its slot is taken and has its generation -/
theorem contains_iff (d : Desk δ σ) (h : Handle) :
    d.contains h = true ↔ d.shape[h.index]? = some (h.generation, true) := by
  rw [contains, find?, shape_getElem?]
  rcases d.slots[h.index]? with _ | slot
  · simp
  · by_cases same : slot.generation = h.generation <;> simp [same]

theorem find?_isSome {d : Desk δ σ} {h : Handle} {s : Stream δ} (hd : d.find? h = some s) :
    d.shape[h.index]? = some (h.generation, true) := by
  rw [← contains_iff, contains, hd]
  rfl

theorem shape_replace {d : Desk δ σ} {h : Handle} {s : Stream δ} (hd : d.find? h = some s)
    (s' : Stream δ) : (d.replace h s').shape = d.shape := by
  obtain ⟨lt, here⟩ := List.getElem?_eq_some_iff.mp (find?_isSome hd)
  rw [shape, replace, List.map_set, ← shape]
  show d.shape.set h.index (h.generation, true) = d.shape
  rw [← here, List.set_getElem_self]

/-- what the moves told a desk: which slots are taken, and the generation of each -/
structure Kept (ms : List Move) (d : Desk δ σ) : Prop where
  issued : Numbered (Move.issued ms)
  returned : Numbered (Move.returned ms)
  /-- a slot is taken if one more handle was given out for it than came back -/
  slot : ∀ i g b, d.shape[i]? = some (g, b) →
    g = .ofNat (uses (Move.returned ms) i + 1) ∧
      uses (Move.issued ms) i = uses (Move.returned ms) i + b.toNat
  beyond : ∀ i, d.shape[i]? = none → uses (Move.issued ms) i = 0 ∧ uses (Move.returned ms) i = 0
  vacant_nodup : d.vacant.Nodup
  vacant : ∀ i, i ∈ d.vacant ↔ ∃ g, d.shape[i]? = some (g, false)
  live : d.live = d.shape.countP (·.2)
  size : d.shape.length ≤ (Move.issued ms).length
  total : (Move.issued ms).length = (Move.returned ms).length + d.live

theorem kept_new (shared : σ) (t : Tally) :
    Kept [] ({ shared, retired := t } : Desk δ σ) where
  issued := .nil
  returned := .nil
  slot i g b h := by cases h
  beyond _ _ := ⟨rfl, rfl⟩
  vacant_nodup := List.nodup_nil
  vacant i := ⟨fun m => (List.not_mem_nil m).elim, fun ⟨_, h⟩ => by cases h⟩
  live := rfl
  size := Nat.le_refl 0
  total := rfl

/-! ## coming -/

/-- the handle of a free slot is given out -/
structure Takes (d d' : Desk δ σ) (h : Handle) : Prop where
  free : d.shape[h.index]? = some (h.generation, false) ∨
    (d.shape[h.index]? = none ∧ h.generation = 1)
  shape : ∀ i, d'.shape[i]? = if h.index = i then some (h.generation, true) else d.shape[i]?
  vacant_nodup : d'.vacant.Nodup
  vacant : ∀ i, i ∈ d'.vacant ↔ i ∈ d.vacant ∧ i ≠ h.index
  live : d'.live = d.live + 1
  taken : d'.shape.countP (·.2) = d.shape.countP (·.2) + 1
  size : d'.shape.length ≤ d.shape.length + 1

variable {ms : List Move} {d d' : Desk δ σ} {h : Handle}

theorem register_new (hv : d.vacant = []) (s : Stream δ) :
    d.register s = (⟨d.slots.length, 1⟩,
      { d with slots := d.slots ++ [⟨1, some s⟩], live := d.live + 1 }) := by
  rw [register, hv]

theorem register_again {i : Nat} {g : UInt32} {b : Bool} {rest : List Nat}
    (hv : d.vacant = i :: rest) (here : d.shape[i]? = some (g, b)) (s : Stream δ) :
    d.register s = (⟨i, g⟩,
      { d with slots := d.slots.set i ⟨g, some s⟩, vacant := rest, live := d.live + 1 }) := by
  rw [shape_getElem?] at here
  obtain ⟨slot, hs, same⟩ := Option.map_eq_some_iff.mp here
  obtain ⟨rfl, -⟩ := Prod.mk.inj same
  rw [register, hv]
  dsimp only
  rw [hs]
  rfl

/-- without a free slot a new one is made -/
theorem takes_new (k : Kept ms d) (hv : d.vacant = []) (s : Stream δ) :
    Takes d (d.register s).2 (d.register s).1 := by
  have length : d.shape.length = d.slots.length := List.length_map _
  have none : d.shape[d.slots.length]? = none := List.getElem?_eq_none (by omega)
  rw [register_new hv]
  have shape : ({ d with slots := d.slots ++ [⟨1, some s⟩], live := d.live + 1 } :
      Desk δ σ).shape = d.shape ++ [(1, true)] := List.map_append
  refine ⟨.inr ⟨none, rfl⟩, ?_, k.vacant_nodup, ?_, rfl, ?_, ?_⟩
  · intro j
    rw [shape, List.getElem?_append, length]
    dsimp only
    rcases Nat.lt_trichotomy j d.slots.length with lt | rfl | gt
    · rw [if_pos lt, if_neg (by omega)]
    · rw [if_neg (Nat.lt_irrefl _), if_pos rfl, Nat.sub_self]
      rfl
    · rw [if_neg (by omega), if_neg (by omega), List.getElem?_eq_none (by simp; omega),
        List.getElem?_eq_none (by omega)]
  · intro j
    refine ⟨fun m => ⟨m, ?_⟩, And.left⟩
    rintro rfl
    obtain ⟨g, here⟩ := (k.vacant _).mp m
    rw [none] at here
    cases here
  · rw [shape, List.countP_append]
    rfl
  · rw [shape, List.length_append]
    exact Nat.le_refl _

/-- the slot that was given up last is taken again -/
theorem takes_again (k : Kept ms d) {i : Nat} {rest : List Nat} (hv : d.vacant = i :: rest)
    (s : Stream δ) : Takes d (d.register s).2 (d.register s).1 := by
  obtain ⟨g, here⟩ := (k.vacant i).mp (hv ▸ List.mem_cons_self)
  have nodup := k.vacant_nodup
  rw [hv, List.nodup_cons] at nodup
  obtain ⟨lt, entry⟩ := List.getElem?_eq_some_iff.mp here
  rw [register_again hv here]
  have shape : ({ d with
      slots := d.slots.set i ⟨g, some s⟩, vacant := rest, live := d.live + 1 } :
        Desk δ σ).shape = d.shape.set i (g, true) := List.map_set
  refine ⟨.inl here, ?_, nodup.2, ?_, rfl, ?_, ?_⟩
  · intro j
    rw [shape, List.getElem?_set]
    by_cases same : i = j
    · subst same
      rw [if_pos rfl, if_pos lt, if_pos rfl]
    · rw [if_neg same, if_neg same]
  · intro j
    rw [hv, List.mem_cons]
    constructor
    · intro m
      refine ⟨.inr m, ?_⟩
      rintro rfl
      exact nodup.1 m
    · rintro ⟨rfl | m, other⟩
      · exact absurd rfl other
      · exact m
  · rw [shape, List.countP_set lt, entry]
    rfl
  · rw [shape, List.length_set]
    exact Nat.le_succ _

theorem register_takes (k : Kept ms d) (s : Stream δ) :
    Takes d (d.register s).2 (d.register s).1 := by
  rcases hv : d.vacant with _ | ⟨i, rest⟩
  · exact takes_new k hv s
  · exact takes_again k hv s

/-- a handle given out is the next one of its slot -/
theorem Kept.takes (k : Kept ms d) (ht : Takes d d' h) : Kept (ms ++ [.came h]) d' := by
  have issued := Move.issued_came ms h
  have returned := Move.returned_came ms h
  -- the slot is free, so as many handles of it came back as were given out
  have next : h.generation = .ofNat (uses (Move.issued ms) h.index + 1) ∧
      uses (Move.issued ms) h.index = uses (Move.returned ms) h.index := by
    rcases ht.free with here | ⟨none, one⟩
    · obtain ⟨generation, even⟩ := k.slot _ _ _ here
      have even : uses (Move.issued ms) h.index = uses (Move.returned ms) h.index := even
      exact ⟨even ▸ generation, even⟩
    · obtain ⟨i, r⟩ := k.beyond _ none
      rw [i, r]
      exact ⟨one, rfl⟩
  constructor
  case vacant_nodup => exact ht.vacant_nodup
  case issued =>
    rw [issued]
    have snoc := k.issued.snoc h.index
    rw [← next.1] at snoc
    exact snoc
  case returned =>
    rw [returned]
    exact k.returned
  case slot =>
    intro i g b hi
    rw [ht.shape] at hi
    rw [issued, returned, uses_snoc]
    split at hi
    · next here =>
      cases hi
      subst here
      rw [if_pos rfl]
      exact ⟨next.2 ▸ next.1, congrArg (· + 1) next.2⟩
    · next other =>
      rw [if_neg other]
      exact k.slot i g b hi
  case beyond =>
    intro i hi
    rw [ht.shape] at hi
    rw [issued, returned, uses_snoc]
    split at hi
    · cases hi
    · next other =>
      rw [if_neg other]
      exact k.beyond i hi
  case vacant =>
    intro i
    rw [ht.vacant, k.vacant, ht.shape]
    by_cases here : h.index = i
    · rw [if_pos here]
      refine ⟨fun ⟨_, other⟩ => absurd here.symm other, ?_⟩
      rintro ⟨g, taken⟩
      cases taken
    · rw [if_neg here]
      exact ⟨And.left, fun free => ⟨free, fun e => here e.symm⟩⟩
  case live =>
    rw [ht.live, ht.taken, k.live]
  case size =>
    have := ht.size
    have := k.size
    rw [issued, List.length_append, List.length_singleton]
    omega
  case total =>
    have := k.total
    rw [issued, returned, ht.live, List.length_append, List.length_singleton]
    omega

/-! ## leaving -/

theorem remove_eq_some {s : Stream δ} (hr : d.remove h = some (s, d')) :
    d.find? h = some s ∧ d' = { d with
      slots := d.slots.set h.index ⟨h.generation + 1, none⟩
      vacant := h.index :: d.vacant
      live := d.live - 1 } := by
  unfold remove at hr
  split at hr
  · cases hr
  · next hf =>
    cases hr
    exact ⟨hf, rfl⟩

/-- a handle taken back is the last one that was given out for its slot -/
theorem Kept.leaves (k : Kept ms d) {s : Stream δ} (hr : d.remove h = some (s, d')) :
    Kept (ms ++ [.left h]) d' := by
  obtain ⟨found, rfl⟩ := remove_eq_some hr
  have here := find?_isSome found
  obtain ⟨lt, entry⟩ := List.getElem?_eq_some_iff.mp here
  obtain ⟨generation, odd⟩ := k.slot _ _ _ here
  have odd : uses (Move.issued ms) h.index = uses (Move.returned ms) h.index + 1 := odd
  have issued := Move.issued_left ms h
  have returned := Move.returned_left ms h
  have shape : ({ d with
      slots := d.slots.set h.index ⟨h.generation + 1, none⟩
      vacant := h.index :: d.vacant
      live := d.live - 1 } : Desk δ σ).shape = d.shape.set h.index (h.generation + 1, false) :=
    List.map_set
  have look : ∀ i, (d.shape.set h.index (h.generation + 1, false))[i]? =
      if h.index = i then some (h.generation + 1, false) else d.shape[i]? := by
    intro i
    rw [List.getElem?_set, if_pos lt]
  have taken : 0 < d.shape.countP (·.2) :=
    List.countP_pos_iff.mpr ⟨_, List.mem_of_getElem? here, rfl⟩
  constructor
  case issued =>
    rw [issued]
    exact k.issued
  case returned =>
    rw [returned]
    have snoc := k.returned.snoc h.index
    rw [← generation] at snoc
    exact snoc
  case slot =>
    intro i g b hi
    rw [shape, look] at hi
    rw [issued, returned, uses_snoc]
    split at hi
    · next here =>
      cases hi
      subst here
      rw [if_pos rfl, generation]
      exact ⟨(UInt32.ofNat_add _ 1).symm, odd⟩
    · next other =>
      rw [if_neg other]
      exact k.slot i g b hi
  case beyond =>
    intro i hi
    rw [shape, look] at hi
    rw [issued, returned, uses_snoc]
    split at hi
    · cases hi
    · next other =>
      rw [if_neg other]
      exact k.beyond i hi
  case vacant_nodup =>
    refine List.nodup_cons.mpr ⟨?_, k.vacant_nodup⟩
    rw [k.vacant]
    rintro ⟨g, free⟩
    rw [here] at free
    cases free
  case vacant =>
    intro i
    rw [List.mem_cons, k.vacant, shape, look]
    by_cases same : h.index = i
    · rw [if_pos same]
      exact ⟨fun _ => ⟨_, rfl⟩, fun _ => .inl same.symm⟩
    · rw [if_neg same]
      exact ⟨fun m => m.resolve_left fun e => same e.symm, .inr⟩
  case live =>
    show d.live - 1 = _
    rw [shape, List.countP_set lt, entry, k.live]
    rfl
  case size =>
    rw [shape, issued, List.length_set]
    exact k.size
  case total =>
    have := k.total
    have := k.live
    show _ = _ + (d.live - 1)
    rw [issued, returned, List.length_append, List.length_singleton]
    omega

/-! ## what else is on a desk -/

end Desk

/-- an open stream that counted no coming and going -/
structure Stream.Lives {δ : Type} (s : Stream δ) : Prop where
  sound : s.Sound
  opn : s.closed = false
  turnover : s.turnover = (0, 0)

namespace Stream.Lives

variable {δ : Type} {s : Stream δ}

theorem onDevice (h : s.Lives) (d : δ) : Lives ({ s with device := d } : Stream δ) :=
  ⟨h.sound.onDevice d, h.opn, h.turnover⟩

variable [Device δ]

theorem opened (o : Opening) (d : δ) (m : OpenMode) : (opened o d m).Lives :=
  ⟨opened_sound o d m, rfl, rfl⟩

theorem run (h : s.Lives) (op : Op) : (op.run s).Lives := by
  have path := op_path op h.sound
  exact ⟨path.sound h.sound, path.constant.2.2.trans h.opn, path.turnover.trans h.turnover⟩

theorem snatch (h : s.Lives) : s.snatch.2.Lives := by
  have flushed : s.flush.2.Lives := h.run .flush
  unfold Stream.snatch
  rcases hf : s.flush with ⟨_ | _, u⟩
  · rw [hf] at flushed
    exact flushed
  · rw [hf] at flushed
    dsimp only
    split <;> exact flushed.onDevice _

theorem load {s : Stream (Memory ⊕ δ)} (h : s.Lives) (bytes : Bytes) :
    (Desk.load bytes s).2.Lives := by
  have written : (s.writeAll bytes).2.Lives := h.run (.writeAll bytes)
  have moved : ((s.writeAll bytes).2.seek 0 .start).2.Lives := written.run (.seek 0 .start)
  unfold Desk.load
  rcases hw : s.writeAll bytes with ⟨_ | _, u⟩
  · rw [hw] at written
    exact written
  · rw [hw] at moved
    dsimp only at moved ⊢
    rcases hs : u.seek 0 .start with ⟨_ | _, v⟩ <;> rw [hs] at moved <;> exact moved

end Stream.Lives

namespace Desk

variable {δ σ : Type} {ms : List Move} {t : Tally} {d d' : Desk δ σ} {h : Handle}

/-- the streams on a desk are open, and its tally counts the moves -/
structure Books (t : Tally) (ms : List Move) (d : Desk δ σ) : Prop extends Kept ms d where
  tenants : ∀ slot ∈ d.slots, ∀ s, slot.tenant = some s → s.Lives
  retired : d.retired.turnover =
    (t.opened + .ofNat (Move.issued ms).length, t.closed + .ofNat (Move.returned ms).length)

theorem Kept.of_shape (k : Kept ms d) (shape : d'.shape = d.shape) (vacant : d'.vacant = d.vacant)
    (live : d'.live = d.live) : Kept ms d' where
  issued := k.issued
  returned := k.returned
  slot := shape ▸ k.slot
  beyond := shape ▸ k.beyond
  vacant_nodup := vacant ▸ k.vacant_nodup
  vacant := by
    rw [vacant, shape]
    exact k.vacant
  live := by
    rw [live, shape]
    exact k.live
  size := shape ▸ k.size
  total := live ▸ k.total

theorem Books.lend (b : Books t ms d) (shared : σ) : Books t ms { d with shared } :=
  ⟨b.toKept.of_shape rfl rfl rfl, b.tenants, b.retired⟩

theorem books_new (shared : σ) (t : Tally) : Books t [] ({ shared, retired := t } : Desk δ σ) := by
  refine ⟨kept_new shared t, ?_, ?_⟩
  · intro slot m
    cases m
  · show (t.opened, t.closed) = (t.opened + 0, t.closed + 0)
    rw [UInt64.add_zero, UInt64.add_zero]

theorem register_retired (d : Desk δ σ) (s : Stream δ) : (d.register s).2.retired = d.retired := by
  unfold register
  split <;> rfl

theorem register_tenants (d : Desk δ σ) (s : Stream δ) {slot : Slot δ}
    (m : slot ∈ (d.register s).2.slots) : slot ∈ d.slots ∨ slot.tenant = some s := by
  unfold register at m
  split at m
  · rcases List.mem_or_eq_of_mem_set m with old | rfl
    · exact .inl old
    · exact .inr rfl
  · rcases List.mem_append.mp m with old | new
    · exact .inl old
    · rw [List.mem_singleton.mp new]
      exact .inr rfl

/-- the tenant that a handle names is on the desk -/
theorem find?_mem {s : Stream δ} (hd : d.find? h = some s) :
    ∃ slot ∈ d.slots, slot.tenant = some s := by
  unfold find? at hd
  split at hd
  · next slot hs =>
    split at hd
    · exact ⟨slot, List.mem_of_getElem? hs, hd⟩
    · cases hd
  · cases hd

section

variable [Device δ]

theorem Books.place (b : Books t ms d) (o : Opening) (device : δ) (m : OpenMode) :
    Books t (ms ++ [.came (d.place o device m).1]) (d.place o device m).2 := by
  have takes := register_takes b.toKept (Stream.opened o device m)
  have kept := b.toKept.takes takes
  refine ⟨kept.of_shape rfl rfl rfl, ?_, ?_⟩
  · intro slot mem s hs
    rcases register_tenants d (Stream.opened o device m) mem with old | new
    · exact b.tenants slot old s hs
    · rw [new] at hs
      cases hs
      exact .opened o device m
  · have same := register_retired d (Stream.opened o device m)
    show ((d.register (Stream.opened o device m)).2.retired.tick .opened).turnover = _
    rw [same, Tally.turnover_opened, b.retired, Move.issued_came, Move.returned_came,
      List.length_append, UInt64.ofNat_add, ← UInt64.add_assoc]
    rfl

/-- the stream is there -/
theorem Kept.place_contains (k : Kept ms d) (o : Opening) (device : δ) (m : OpenMode) :
    (d.place o device m).2.contains (d.place o device m).1 = true := by
  have takes := register_takes k (Stream.opened o device m)
  rw [contains_iff]
  exact (takes.shape _).trans (if_pos rfl)

end

variable [Shares δ σ]

theorem visit_eq_some {α : Type} {f : Stream δ → α × Stream δ} {a : α}
    (hv : d.visit h f = some (a, d')) :
    ∃ s, d.find? h = some s ∧
      a = (f { s with device := Shares.lend d.shared s.device }).1 ∧
      ∃ shared, d' = { d.replace h (f { s with device := Shares.lend d.shared s.device }).2 with
        shared } := by
  unfold visit at hv
  split at hv
  · cases hv
  · next s hs =>
    cases hv
    exact ⟨s, hs, rfl, _, rfl⟩

theorem visit_shape {α : Type} {f : Stream δ → α × Stream δ} {a : α}
    (hv : d.visit h f = some (a, d')) : d'.shape = d.shape := by
  obtain ⟨s, hs, -, shared, rfl⟩ := visit_eq_some hv
  exact shape_replace hs _

theorem Books.visit {α : Type} {f : Stream δ → α × Stream δ} {a : α} (b : Books t ms d)
    (hv : d.visit h f = some (a, d')) (keeps : ∀ s, s.Lives → (f s).2.Lives) :
    Books t ms d' := by
  have shape := visit_shape hv
  obtain ⟨s, hs, -, shared, rfl⟩ := visit_eq_some hv
  obtain ⟨slot, mem, tenant⟩ := find?_mem hs
  have lives := keeps _ ((b.tenants slot mem s tenant).onDevice (Shares.lend d.shared s.device))
  refine ⟨b.toKept.of_shape shape rfl rfl, ?_, b.retired⟩
  intro slot mem u hu
  rcases List.mem_or_eq_of_mem_set mem with old | rfl
  · exact b.tenants slot old u hu
  · cases hu
    exact lives

variable [Device δ]

theorem close_eq_some {r : Except Fault Unit} {s : Stream δ} (hc : d.close h = some (r, s, d')) :
    ∃ s₀ d₀, d.remove h = some (s₀, d₀) ∧
      s = ({ s₀ with device := Shares.lend d₀.shared s₀.device } : Stream δ).close.2 ∧
      ∃ shared, d' = { d₀ with shared, retired := (d₀.retired + s.tally).tick .closed } := by
  unfold Desk.close at hc
  split at hc
  · cases hc
  · next s₀ d₀ hr =>
    cases hc
    exact ⟨s₀, d₀, hr, rfl, _, rfl⟩

theorem Books.close {r : Except Fault Unit} {s : Stream δ} (b : Books t ms d)
    (hc : d.close h = some (r, s, d')) : Books t (ms ++ [.left h]) d' := by
  obtain ⟨s₀, d₀, hr, hs, shared, rfl⟩ := close_eq_some hc
  have kept := b.toKept.leaves hr
  obtain ⟨found, rfl⟩ := remove_eq_some hr
  obtain ⟨slot, mem, tenant⟩ := find?_mem found
  refine ⟨kept.of_shape rfl rfl rfl, ?_, ?_⟩
  · intro slot mem u hu
    rcases List.mem_or_eq_of_mem_set mem with old | rfl
    · exact b.tenants slot old u hu
    · cases hu
  · have nothing : s.turnover = (0, 0) := by
      rw [hs, Stream.close_turnover]
      exact (b.tenants slot mem s₀ tenant).turnover
    show ((d.retired + s.tally).tick .closed).turnover = _
    rw [Tally.turnover_closed, Tally.turnover_add _ nothing, b.retired, Move.issued_left,
      Move.returned_left, List.length_append, UInt64.ofNat_add, ← UInt64.add_assoc]
    rfl

/-- a handle that names a stream can be closed -/
theorem close_none (hc : d.close h = none) : d.contains h = false := by
  unfold Desk.close at hc
  split at hc
  · next hr =>
    unfold remove at hr
    split at hr
    · next hf => rw [contains, hf, Option.isSome_none]
    · cases hr
  · cases hc

end Desk

/-! ## deeds -/

/-- something done at a desk: a stream is opened, used or closed, by whatever handle -/
inductive Deed (δ : Type) where
  | openOn (o : Opening) (device : Memory ⊕ δ) (mode : String)
  | openMemory (z : Sizing) (limit : Option Nat) (mode : String)
  | openMemoryWith (z : Sizing) (limit : Option Nat) (mode : String) (bytes : Bytes)
  | use (h : Handle) (op : Op)
  | close (h : Handle)
  | closeSnatch (h : Handle)

/-- a stream that was opened has come -/
def arrival : Except Fault Handle → List Move
  | .ok h => [.came h]
  | .error _ => []

variable {δ σ : Type} [Device δ] [Shares (Memory ⊕ δ) σ]

/-- the moves of a deed, and the desk afterwards; a stream whose first contents do not fit comes and
leaves again -/
def Deed.perform (d : Desk (Memory ⊕ δ) σ) : Deed δ → List Move × Desk (Memory ⊕ δ) σ
  | openOn o device mode => (arrival (d.openOn o device mode).1, (d.openOn o device mode).2)
  | openMemory z limit mode =>
    (arrival (d.openMemory z limit mode).1, (d.openMemory z limit mode).2)
  | openMemoryWith z limit mode bytes =>
    (match (d.openMemory z limit mode).1, (d.openMemoryWith z limit mode bytes).1 with
      | .ok h, .error _ => [.came h, .left h]
      | opened, _ => arrival opened,
      (d.openMemoryWith z limit mode bytes).2)
  | use h op =>
    match d.visit h fun s => ((), op.run s) with
    | none => ([], d)
    | some (_, d) => ([], d)
  | close h =>
    match d.close h with
    | none => ([], d)
    | some (_, _, d) => ([.left h], d)
  | closeSnatch h =>
    match d.closeSnatch h with
    | none => ([], d)
    | some (_, _, d) => ([.left h], d)

namespace Desk

/-- the moves of a list of deeds, and the desk afterwards -/
def perform : List (Deed δ) → Desk (Memory ⊕ δ) σ → List Move × Desk (Memory ⊕ δ) σ
  | [], d => ([], d)
  | deed :: deeds, d =>
    let (ms, d) := deed.perform d
    let (ms', d) := perform deeds d
    (ms ++ ms', d)

variable {ms : List Move} {t : Tally} {d : Desk (Memory ⊕ δ) σ}

theorem Books.openOn (b : Books t ms d) (o : Opening) (device : Memory ⊕ δ) (mode : String) :
    Books t (ms ++ arrival (d.openOn o device mode).1) (d.openOn o device mode).2 := by
  have lent := b.lend (Shares.settle device d.shared)
  unfold Desk.openOn
  rcases OpenMode.parse mode with f | m
  · rw [arrival, List.append_nil]
    exact lent
  · exact lent.place o device m

omit [Shares (Memory ⊕ δ) σ] in
theorem Books.openMemory (b : Books t ms d) (z : Sizing) (limit : Option Nat) (mode : String) :
    Books t (ms ++ arrival (d.openMemory z limit mode).1) (d.openMemory z limit mode).2 ∧
      ∀ h, (d.openMemory z limit mode).1 = .ok h →
        (d.openMemory z limit mode).2.contains h = true := by
  unfold Desk.openMemory
  rcases OpenMode.parse mode with f | m
  · rw [arrival, List.append_nil]
    exact ⟨b, fun h e => by cases e⟩
  · refine ⟨b.place _ _ m, ?_⟩
    rintro h ⟨⟩
    exact b.toKept.place_contains _ _ m

/-- first contents that do not fit make a stream leave again -/
theorem openMemoryWith_cases {z : Sizing} {limit : Option Nat} {mode : String} (bytes : Bytes)
    {h : Handle} {d₁ : Desk (Memory ⊕ δ) σ} (ho : d.openMemory z limit mode = (.ok h, d₁))
    (there : d₁.contains h = true) :
    (∃ d', d.openMemoryWith z limit mode bytes = (.ok h, d') ∧
        (d' = d₁ ∨ ∃ r, d₁.visit h (load bytes) = some (r, d'))) ∨
      ∃ f r d₂ c s d', d.openMemoryWith z limit mode bytes = (.error f, d') ∧
        d₁.visit h (load bytes) = some (r, d₂) ∧ d₂.close h = some (c, s, d') := by
  unfold Desk.openMemoryWith
  rw [ho]
  dsimp only
  split
  · exact .inl ⟨d₁, rfl, .inl rfl⟩
  · rcases hv : d₁.visit h (load bytes) with _ | ⟨f | _, d₂⟩
    · exact .inl ⟨d₁, rfl, .inl rfl⟩
    · dsimp only
      rcases hc : d₂.close h with _ | ⟨c, s, d'⟩
      · have gone := close_none hc
        have shape := visit_shape hv
        rw [contains_iff, ← shape, ← contains_iff, gone] at there
        cases there
      · exact .inr ⟨f, _, d₂, c, s, d', rfl, rfl, hc⟩
    · exact .inl ⟨d₂, rfl, .inr ⟨_, rfl⟩⟩

theorem Books.openMemoryWith (b : Books t ms d) (z : Sizing) (limit : Option Nat) (mode : String)
    (bytes : Bytes) :
    Books t (ms ++ ((Deed.openMemoryWith z limit mode bytes : Deed δ).perform d).1)
      ((Deed.openMemoryWith z limit mode bytes : Deed δ).perform d).2 := by
  obtain ⟨books, there⟩ := b.openMemory z limit mode
  rw [Deed.perform]
  rcases ho : d.openMemory z limit mode with ⟨f | h, d₁⟩
  · rw [ho] at books
    rw [Desk.openMemoryWith, ho]
    exact books
  · rw [ho] at books there
    rcases openMemoryWith_cases bytes ho (there h rfl) with
      ⟨d', opened, same⟩ | ⟨f, r, d₂, c, s, d', failed, visited, closed⟩
    · rw [opened]
      rcases same with rfl | ⟨r, visited⟩
      · exact books
      · exact books.visit visited fun s lives => lives.load bytes
    · rw [failed]
      have left := (books.visit visited fun s lives => lives.load bytes).close closed
      rwa [List.append_assoc] at left

theorem Books.closeSnatch {h : Handle} {r : Except Fault Bytes} {s : Stream (Memory ⊕ δ)}
    {d' : Desk (Memory ⊕ δ) σ} (b : Books t ms d) (hc : d.closeSnatch h = some (r, s, d')) :
    Books t (ms ++ [.left h]) d' := by
  unfold Desk.closeSnatch at hc
  split at hc
  · cases hc
  · next visited =>
    split at hc
    · cases hc
    · next closed =>
      cases hc
      exact (b.visit visited fun s lives => lives.snatch).close closed

/-- one deed keeps the books -/
theorem Books.perform (b : Books t ms d) (deed : Deed δ) :
    Books t (ms ++ (deed.perform d).1) (deed.perform d).2 := by
  have same : Books t (ms ++ []) d := by
    rw [List.append_nil]
    exact b
  cases deed with
  | openOn o device mode => exact b.openOn o device mode
  | openMemory z limit mode => exact (b.openMemory z limit mode).1
  | openMemoryWith z limit mode bytes => exact b.openMemoryWith z limit mode bytes
  | use h op =>
    rw [Deed.perform]
    split
    · exact same
    · next visited =>
      rw [List.append_nil]
      exact b.visit visited fun s lives => lives.run op
  | close h =>
    rw [Deed.perform]
    split
    · exact same
    · next closed => exact b.close closed
  | closeSnatch h =>
    rw [Deed.perform]
    split
    · exact same
    · next closed => exact b.closeSnatch closed

theorem perform_books (b : Books t ms d) (deeds : List (Deed δ)) :
    Books t (ms ++ (perform deeds d).1) (perform deeds d).2 := by
  induction deeds generalizing ms d with
  | nil =>
    rw [perform, List.append_nil]
    exact b
  | cons deed deeds ih =>
    rw [perform]
    dsimp only
    rw [← List.append_assoc]
    exact ih (b.perform deed)

/-! ## what follows -/

section

variable {δ σ : Type} {d : Desk δ σ}

/-- the handles given out, the slots and the counts agree -/
structure Exact (t : Tally) (ms : List Move) (d : Desk δ σ) : Prop where
  distinct : (Move.issued ms).Nodup
  small : ∀ h ∈ Move.issued ms, h.index < handleRange
  /-- a handle names a stream from its coming until its leaving -/
  named : ∀ h, d.contains h = true ↔ h ∈ Move.standing ms
  /-- another handle is refused, and nothing happens -/
  stale : ∀ h, d.remove h = none ↔ h ∉ Move.standing ms
  vacant_nodup : d.vacant.Nodup
  vacant : ∀ i, i ∈ d.vacant ↔ ∃ slot, d.slots[i]? = some slot ∧ slot.tenant = none
  taken : d.live = d.slots.countP (·.tenant.isSome)
  standing : d.live = (Move.standing ms).length
  opn : ∀ slot ∈ d.slots, ∀ s, slot.tenant = some s → s.closed = false
  counted : (d.tally.opened - t.opened).toNat = (d.tally.closed - t.closed).toNat + d.live

theorem Kept.small (k : Kept ms d) (bound : (Move.issued ms).length < handleRange) :
    ∀ h ∈ Move.issued ms, h.index < handleRange := by
  intro h mem
  obtain ⟨n, lt, -⟩ := (k.issued.mem h).mp mem
  have size := k.size
  rcases Nat.lt_or_ge h.index d.shape.length with le | ge
  · omega
  · obtain ⟨none, -⟩ := k.beyond _ (List.getElem?_eq_none ge)
    omega

theorem Kept.named (k : Kept ms d) (bound : (Move.issued ms).length < handleRange) (h : Handle) :
    d.contains h = true ↔ h ∈ Move.standing ms := by
  rw [contains_iff, Move.standing, List.mem_filter, decide_eq_true_iff]
  constructor
  · intro here
    obtain ⟨generation, odd⟩ := k.slot _ _ _ here
    have odd : uses (Move.issued ms) h.index = uses (Move.returned ms) h.index + 1 := odd
    have le := uses_le (Move.issued ms) h.index
    have total := k.total
    have eta : h = ⟨h.index, .ofNat (uses (Move.returned ms) h.index + 1)⟩ := by rw [← generation]
    rw [eta, k.issued.mem_iff bound (by omega), k.returned.mem_iff (by omega) (by omega)]
    omega
  · rintro ⟨given, kept⟩
    obtain ⟨n, lt, number⟩ := (k.issued.mem h).mp given
    have ge : uses (Move.returned ms) h.index ≤ n :=
      Nat.le_of_not_lt fun back => kept ((k.returned.mem h).mpr ⟨n, back, number⟩)
    rcases here : d.shape[h.index]? with _ | ⟨g, b⟩
    · obtain ⟨none, -⟩ := k.beyond _ here
      omega
    · obtain ⟨generation, count⟩ := k.slot _ _ _ here
      cases b with
      | false =>
        rw [Bool.toNat_false] at count
        omega
      | true =>
        rw [Bool.toNat_true] at count
        obtain rfl : n = uses (Move.returned ms) h.index := by omega
        rw [generation, number]

/-- the handles that came back are handles that were given out -/
theorem Kept.returned_issued (k : Kept ms d) {h : Handle} (mem : h ∈ Move.returned ms) :
    h ∈ Move.issued ms := by
  obtain ⟨n, lt, number⟩ := (k.returned.mem h).mp mem
  refine (k.issued.mem h).mpr ⟨n, ?_, number⟩
  rcases here : d.shape[h.index]? with _ | ⟨g, b⟩
  · obtain ⟨-, none⟩ := k.beyond _ here
    omega
  · obtain ⟨-, count⟩ := k.slot _ _ _ here
    omega

theorem Kept.standing_length (k : Kept ms d) (bound : (Move.issued ms).length < handleRange) :
    d.live = (Move.standing ms).length := by
  have total := k.total
  have distinct := k.issued.nodup bound
  have back : ((Move.issued ms).filter (· ∈ Move.returned ms)).Perm (Move.returned ms) := by
    refine (List.perm_ext_iff_of_nodup (distinct.sublist List.filter_sublist)
      (k.returned.nodup (by omega))).mpr fun h => ?_
    rw [List.mem_filter, decide_eq_true_iff]
    exact ⟨And.right, fun mem => ⟨k.returned_issued mem, mem⟩⟩
  have parts : (Move.issued ms).length = _ :=
    List.length_eq_countP_add_countP (fun h => decide (h ∈ Move.returned ms))
  rw [List.countP_eq_length_filter, back.length_eq, List.countP_eq_length_filter] at parts
  simp only [decide_eq_true_eq] at parts
  rw [Move.standing]
  omega

theorem slots_turnover (slots : List (Slot δ)) (t : Tally)
    (h : ∀ slot ∈ slots, ∀ s, slot.tenant = some s → s.turnover = (0, 0)) :
    (slots.foldl (fun t slot => match slot.tenant with
      | some s => t + s.tally
      | none => t) t).turnover = t.turnover := by
  induction slots generalizing t with
  | nil => rfl
  | cons slot slots ih =>
    rw [List.foldl_cons, ih _ fun slot mem => h slot (List.mem_cons_of_mem _ mem)]
    rcases ht : slot.tenant with _ | s
    · rfl
    · exact Tally.turnover_add t (h slot List.mem_cons_self s ht)

theorem remove_eq_none (d : Desk δ σ) (h : Handle) : d.remove h = none ↔ d.contains h = false := by
  unfold remove
  rw [contains]
  rcases d.find? h with _ | s <;> simp

theorem Books.exact (b : Books t ms d) (bound : (Move.issued ms).length < handleRange) :
    Exact t ms d where
  distinct := b.issued.nodup bound
  small := b.toKept.small bound
  named := b.toKept.named bound
  stale h := by rw [remove_eq_none, ← Bool.not_eq_true, b.toKept.named bound h]
  vacant_nodup := b.vacant_nodup
  vacant i := by
    rw [b.toKept.vacant, shape_getElem?]
    rcases d.slots[i]? with _ | slot
    · simp
    · simp
  taken := by
    rw [b.live, shape, List.countP_map]
    rfl
  standing := b.toKept.standing_length bound
  opn slot mem s hs := (b.tenants slot mem s hs).opn
  counted := by
    have total := b.total
    have whole : d.tally.turnover = d.retired.turnover :=
      slots_turnover _ _ fun slot mem s hs => (b.tenants slot mem s hs).turnover
    obtain ⟨opened, closed⟩ := Prod.mk.inj (whole.trans b.retired)
    unfold handleRange at bound
    rw [opened, closed, UInt64.add_comm, UInt64.add_sub_cancel, UInt64.add_comm t.closed,
      UInt64.add_sub_cancel, UInt64.toNat_ofNat', UInt64.toNat_ofNat']
    omega

end

/-- Take a new desk and whatever is done at it: streams are opened on devices and on memory, with first
contents that fit or do not, used, and closed in either way, by handles that are valid or not.  As long
as fewer than `2 ^ 32` handles were given out, no two of them are equal, and a handle names a stream
exactly from the time it is given out to the time it comes back. -/
theorem handles_exact (shared : σ) (t : Tally) (deeds : List (Deed δ)) :
    let r := perform deeds ({ shared, retired := t } : Desk (Memory ⊕ δ) σ)
    (Move.issued r.1).length < handleRange → Exact t r.1 r.2 := by
  intro r bound
  have books := perform_books (books_new shared t) deeds
  rw [List.nil_append] at books
  exact books.exact bound

/-- a stream whose two bytes do not fit leaves again, both slots are used twice, and an old handle
closes nothing -/
theorem handles_exact_four :
    let r := perform [.openMemory {} none "w+", .openMemoryWith {} (some 1) "w+" [1, 2],
      .openMemory {} none "r", .close ⟨0, 1⟩, .close ⟨0, 1⟩, .openMemory {} none "w"]
      ({ shared := () } : Desk (Memory ⊕ Mute) Unit)
    r.1 = [.came ⟨0, 1⟩, .came ⟨1, 1⟩, .left ⟨1, 1⟩, .came ⟨1, 2⟩, .left ⟨0, 1⟩, .came ⟨0, 2⟩] ∧
      Exact {} r.1 r.2 :=
  ⟨by decide +kernel, handles_exact () {} [.openMemory {} none "w+",
    .openMemoryWith {} (some 1) "w+" [1, 2], .openMemory {} none "r", .close ⟨0, 1⟩, .close ⟨0, 1⟩,
    .openMemory {} none "w"] (by decide +kernel)⟩

end Desk

end BufferedStreams
