import BufferedStreams.Proofs.FailedCalls
import BufferedStreams.Proofs.Safety

/-!
# The storage of a memory device

The calls of a memory device take slices of its storage and differences of its sizes.  Below stand the
same calls with every range and every difference checked, which have no result where a check fails,
and with storage that is granted or refused as it may happen.

* `Memory.read?`, `write?`, `seek?`   the checked calls;
* `Plan.Raised`                       how far the size of the storage may go up;
* `StorageCall.perform?_kept`         what one call keeps, and what it may do to that size;
* `storage_kept`                      no check fails in any run of calls, and each call keeps to that;
                                      with storage granted as usual the checked calls are the plain
                                      ones.
-/

namespace BufferedStreams

def Slab.wipe? (s : Slab) (lo hi : Nat) : Option Slab :=
  if lo ≤ hi ∧ hi ≤ s.size then some (s.wipe lo (hi - lo)) else none

namespace Memory

/-! ## checked calls -/

def data? (m : Memory) : Option Bytes := m.storage.slice? 0 m.length

def read? (n : Nat) (m : Memory) : Option (Except Fault Delivery × Memory) := do
  let left ← sub? m.length m.cursor
  let k := min n left
  let bytes ← m.storage.slice? m.cursor (m.cursor + k)
  some (.ok ⟨bytes, k⟩, { m with cursor := m.cursor + k })

/-- storage of `size` bytes, if it is granted; what is asked for is the difference -/
def grant? (grants : Nat → Bool) (size : Nat) (m : Memory) : Option (Except Fault Memory) := do
  let _ ← sub? size m.capacity
  some (if grants size then .ok (m.grown size) else .error .outOfMemory)

/-- storage of the rounded size -/
def extend? (grants : Nat → Bool) (required : Nat) (m : Memory) : Option (Except Fault Memory) :=
  if required ≤ m.capacity then some (.ok m)
  else if m.plan.exceeds required then some (.error .outOfSpace)
  else if wordRange ≤ m.plan.rounded required then some (.error (.invalid .sizeOverflow))
  else m.grant? grants (m.plan.capped (m.plan.rounded required))

def put? (bytes : Bytes) (m : Memory) : Option (Except Fault Nat × Memory) := do
  let storage ← m.storage.store? m.cursor bytes
  let past := m.cursor + bytes.length
  some (.ok bytes.length, { m with storage, cursor := past, length := max m.length past })

/-- where the storage may not grow, what does not fit is left out -/
def writeHere? (grants : Nat → Bool) (bytes : Bytes) (m : Memory) :
    Option (Except Fault Nat × Memory) := do
  let room ← sub? m.capacity m.cursor
  let n := if m.plan.grows then bytes.length else min bytes.length room
  if n ≤ room then m.put? (bytes.take n)
  else if wordRange ≤ m.cursor + n then some (.error (.invalid .sizeOverflow), m)
  else
    match ← m.extend? grants (m.cursor + n) with
    | .ok m => m.put? (bytes.take n)
    | .error f => some (.error f, m)

def write? (grants : Nat → Bool) (bytes : Bytes) (m : Memory) :
    Option (Except Fault Nat × Memory) :=
  if bytes = [] then some (.ok 0, m) else m.forWrite.writeHere? grants bytes

def makeRoom? (grants : Nat → Bool) (pos : Nat) (m : Memory) : Option (Except Fault Memory) :=
  if m.capacity < pos ∧ !m.plan.grows then some (.error .outOfSpace) else m.extend? grants pos

def moveTo? (pos : Nat) (m : Memory) : Option (Except Fault Nat × Memory) :=
  if m.length < pos then do
    let storage ← m.storage.wipe? m.length pos
    some (.ok pos, { m with storage, length := pos, cursor := pos })
  else some (.ok pos, { m with cursor := pos })

def seek? (grants : Nat → Bool) (off : Int) (w : Whence) (m : Memory) :
    Option (Except Fault Nat × Memory) :=
  let pos := (m.base w : Int) + off
  if pos < 0 then some (.error (.invalid .beforeStart), m)
  else if (wordRange : Int) ≤ pos then some (.error (.invalid .offsetOverflow), m)
  else do
    match ← m.makeRoom? grants pos.toNat with
    | .ok m => m.moveTo? pos.toNat
    | .error f => some (.error f, m)

/-- storage as it is usually granted -/
def usual (size : Nat) : Bool := decide (size ≤ allocatable)

variable {m m' : Memory} {grants : Nat → Bool}

/-! ## what the checks find -/

theorem data?_eq (h : m.Sound) : m.data? = some m.data :=
  if_pos ⟨Nat.zero_le _, h.length_le⟩

theorem read?_eq (h : m.Sound) (n : Nat) : m.read? n = some (m.read n) := by
  have within : m.cursor ≤ m.cursor + min n (m.length - m.cursor) ∧
      m.cursor + min n (m.length - m.cursor) ≤ m.storage.size := by
    have := h.cursor_le
    have le : m.length ≤ m.storage.size := h.length_le
    omega
  rw [read?, Buffer.sub?_eq h.cursor_le]
  dsimp only [Option.bind_eq_bind, Option.bind_some]
  rw [Slab.slice?, if_pos within, Nat.add_sub_cancel_left]
  rfl

theorem grant?_eq {size : Nat} (le : m.capacity ≤ size) :
    m.grant? grants size =
      some (if grants size then .ok (m.grown size) else .error .outOfMemory) := by
  rw [grant?, Buffer.sub?_eq le]
  rfl

theorem put?_eq {bytes : Bytes} (fits : m.cursor + bytes.length ≤ m.capacity) :
    m.put? bytes = some (.ok bytes.length, m.put bytes) := by
  have stored : m.storage.store? m.cursor bytes = some _ := if_pos fits
  rw [put?, stored]
  rfl

theorem moveTo?_eq {pos : Nat} (fits : pos ≤ m.capacity) :
    m.moveTo? pos = some (.ok pos, m.moveTo pos) := by
  unfold moveTo? moveTo
  split
  · next lt =>
    have wiped : m.storage.wipe? m.length pos = some _ := if_pos ⟨Nat.le_of_lt lt, fits⟩
    rw [wiped, Nat.max_eq_right (Nat.le_of_lt lt)]
    rfl
  · next ge =>
    have le : pos ≤ m.length := Nat.le_of_not_lt ge
    rw [Nat.sub_eq_zero_of_le le, Slab.wipe_zero, Nat.max_eq_left le]

/-- the size of the storage went up so as to hold `n` bytes: to a multiple of the block, or up to the
limit -/
structure Plan.Raised (p : Plan) (n size size' : Nat) : Prop where
  grows : p.grows = true
  more : size < size'
  covers : n ≤ size'
  limit_le : ∀ most ∈ p.limit, size' ≤ most
  whole : max p.block 1 ∣ size' ∨ p.limit = some size'

theorem Plan.dvd_capped (p : Plan) (n : Nat) :
    max p.block 1 ∣ p.capped (p.rounded n) ∨ p.limit = some (p.capped (p.rounded n)) := by
  have whole : max p.block 1 ∣ p.rounded n := Nat.dvd_mul_left _ _
  unfold capped
  cases limit : p.limit with
  | none => exact .inl whole
  | some most =>
    rcases Nat.le_total (p.rounded n) most with le | ge
    · left
      show max p.block 1 ∣ min (p.rounded n) most
      rw [Nat.min_eq_left le]
      exact whole
    · right
      show some most = some (min (p.rounded n) most)
      rw [Nat.min_eq_right ge]

theorem Plan.capped_le (p : Plan) (n : Nat) : ∀ most ∈ p.limit, p.capped n ≤ most := by
  intro most limit
  rw [capped, Option.mem_def.mp limit]
  exact Nat.min_le_right _ _

/-- what storage is asked for is refused, or there already, or granted -/
theorem extend?_cases (m : Memory) (grows : m.plan.grows = true) (grants : Nat → Bool) (n : Nat) :
    (∃ f, m.extend? grants n = some (.error f)) ∨
      (m.extend? grants n = some (.ok m) ∧ n ≤ m.capacity) ∨
        ∃ size, m.extend? grants n = some (.ok (m.grown size)) ∧
          m.plan.Raised n m.capacity (m.grown size).capacity := by
  unfold extend?
  split
  · next le => exact .inr (.inl ⟨rfl, le⟩)
  split
  · exact .inl ⟨_, rfl⟩
  split
  · exact .inl ⟨_, rfl⟩
  next lt within _ =>
  have le := Plan.le_capped (Bool.eq_false_iff.mpr within) (m.plan.le_rounded n)
  have more : m.capacity < m.plan.capped (m.plan.rounded n) := by omega
  rw [grant?_eq (Nat.le_of_lt more)]
  cases grants (m.plan.capped (m.plan.rounded n)) with
  | false => exact .inl ⟨_, rfl⟩
  | true =>
    have size : (m.grown (m.plan.capped (m.plan.rounded n))).capacity =
        m.plan.capped (m.plan.rounded n) := Nat.max_eq_right (Nat.le_of_lt more)
    refine .inr (.inr ⟨_, rfl, ?_⟩)
    rw [size]
    exact ⟨grows, more, le, m.plan.capped_le _, m.plan.dvd_capped n⟩

/-- what is left of the bytes where the storage may not grow -/
theorem fitting_le (h : m.Sound) (bytes : Bytes) :
    m.cursor + (bytes.take (min bytes.length (m.capacity - m.cursor))).length ≤ m.capacity := by
  have := h.cursor_le_capacity
  rw [List.length_take]
  omega

/-- a write that starts at the cursor changes nothing, or puts the start of its bytes where there is
room for them -/
theorem writeHere?_cases (h : m.Sound) (grants : Nat → Bool) (bytes : Bytes) :
    (∃ f, m.writeHere? grants bytes = some (.error f, m)) ∨
      ∃ u n, m.writeHere? grants bytes = some (.ok (bytes.take n).length, u.put (bytes.take n)) ∧
        u.cursor + (bytes.take n).length ≤ u.capacity ∧
        (u = m ∨ ∃ size, u = m.grown size ∧
          m.plan.Raised (m.cursor + bytes.length) m.capacity u.capacity) := by
  have hc := h.cursor_le_capacity
  unfold writeHere?
  rw [Buffer.sub?_eq hc]
  dsimp only [Option.bind_eq_bind, Option.bind_some]
  cases grows : m.plan.grows with
  | false =>
    have fits := fitting_le h bytes
    rw [if_neg Bool.false_ne_true, if_pos (Nat.min_le_right _ _), put?_eq fits]
    exact .inr ⟨m, _, rfl, fits, .inl rfl⟩
  | true =>
    rw [if_pos rfl]
    split
    · next small =>
      have fits : m.cursor + (bytes.take bytes.length).length ≤ m.capacity := by
        rw [List.take_length]
        omega
      rw [put?_eq fits]
      exact .inr ⟨m, _, rfl, fits, .inl rfl⟩
    split
    · exact .inl ⟨_, rfl⟩
    rcases extend?_cases m grows grants (m.cursor + bytes.length) with
      ⟨f, ext⟩ | ⟨-, there⟩ | ⟨size, ext, raised⟩
    · rw [ext]
      exact .inl ⟨f, rfl⟩
    · omega
    · have fits : (m.grown size).cursor + (bytes.take bytes.length).length ≤
          (m.grown size).capacity := by
        rw [List.take_length]
        exact raised.covers
      rw [ext]
      refine .inr ⟨m.grown size, bytes.length, ?_, fits, .inr ⟨size, rfl, raised⟩⟩
      exact put?_eq fits

/-- a seek changes nothing, or goes to a place that the storage reaches -/
theorem seek?_cases (m : Memory) (grants : Nat → Bool) (off : Int) (w : Whence) :
    (∃ f, m.seek? grants off w = some (.error f, m)) ∨
      ∃ u pos, m.seek? grants off w = some (.ok pos, u.moveTo pos) ∧ pos ≤ u.capacity ∧
        pos = ((m.base w : Int) + off).toNat ∧
        (u = m ∨ ∃ size, u = m.grown size ∧ m.plan.Raised pos m.capacity u.capacity) := by
  unfold seek?
  dsimp only
  split
  · exact .inl ⟨_, rfl⟩
  split
  · exact .inl ⟨_, rfl⟩
  generalize ((m.base w : Int) + off).toNat = pos
  unfold makeRoom?
  split
  · exact .inl ⟨_, rfl⟩
  next room =>
  by_cases le : pos ≤ m.capacity
  · rw [extend?, if_pos le]
    exact .inr ⟨m, pos, moveTo?_eq le, le, rfl, .inl rfl⟩
  · have grows : m.plan.grows = true := by
      cases grows : m.plan.grows with
      | true => rfl
      | false => exact absurd ⟨Nat.lt_of_not_le le, by rw [grows]; rfl⟩ room
    rcases extend?_cases m grows grants pos with ⟨f, ext⟩ | ⟨-, there⟩ | ⟨size, ext, raised⟩
    · rw [ext]
      exact .inl ⟨f, rfl⟩
    · exact absurd there le
    · rw [ext]
      exact .inr ⟨m.grown size, pos, moveTo?_eq raised.covers, raised.covers, rfl,
        .inr ⟨size, rfl, raised⟩⟩

/-! ## storage granted as usual -/

theorem extend?_usual (m : Memory) (n : Nat) : m.extend? usual n = some (m.extend n) := by
  unfold extend? extend Plan.grown
  split
  · rfl
  split
  · rfl
  next lt within =>
  split
  · rfl
  have le := Plan.le_capped (Bool.eq_false_iff.mpr within) (m.plan.le_rounded n)
  rw [grant?_eq (by omega)]
  by_cases small : m.plan.capped (m.plan.rounded n) ≤ allocatable
  · rw [usual, decide_eq_true small, if_pos rfl, if_neg (by omega)]
    rfl
  · rw [usual, decide_eq_false small, if_neg Bool.false_ne_true, if_pos (by omega)]

theorem writeHere?_usual (h : m.Sound) (bytes : Bytes) :
    m.writeHere? usual bytes = some (m.writeHere bytes) := by
  have hc := h.cursor_le_capacity
  unfold writeHere? writeHere
  rw [Buffer.sub?_eq hc]
  dsimp only [Option.bind_eq_bind, Option.bind_some]
  cases grows : m.plan.grows with
  | false =>
    have fits := fitting_le h bytes
    rw [if_neg Bool.false_ne_true, if_neg Bool.false_ne_true, if_pos (Nat.min_le_right _ _),
      put?_eq fits]
    split
    · next small => rw [Nat.min_eq_left small, List.take_length]
    · next big =>
      have le : m.capacity - m.cursor ≤ bytes.length := Nat.le_of_not_le big
      rw [Nat.min_eq_right le, List.length_take_of_le le]
  | true =>
    rw [if_pos rfl, if_pos rfl, List.take_length]
    split
    · next small => exact put?_eq (by omega)
    split
    · rfl
    rw [extend?_usual]
    rcases extend_cases m (m.cursor + bytes.length) with ⟨f, ext⟩ | ⟨size, -, ext, fits⟩
    · rw [ext]
      rfl
    · rw [ext]
      exact put?_eq (m := m.grown size) fits

theorem write?_usual (h : m.Sound) (bytes : Bytes) :
    m.write? usual bytes = some (m.write bytes) := by
  rw [write_writeHere, write?]
  split
  · rfl
  · exact writeHere?_usual (sound_forWrite h) bytes

theorem seek?_usual (off : Int) (w : Whence) : m.seek? usual off w = some (m.seek off w) := by
  unfold seek? seek
  dsimp only
  split
  · rfl
  split
  · rfl
  generalize ((m.base w : Int) + off).toNat = pos
  have room : m.makeRoom? usual pos = some (m.makeRoom pos) := by
    unfold makeRoom? makeRoom
    split
    · rfl
    · exact extend?_usual m pos
  rw [room]
  rcases makeRoom_cases m pos with ⟨f, ext⟩ | ⟨size, -, ext, fits⟩
  · rw [ext]
    rfl
  · rw [ext]
    exact moveTo?_eq (m := m.grown size) fits

/-! ## one call -/

namespace FileCall

def perform? (grants : Nat → Bool) (m : Memory) : FileCall → Option (FileAnswer × Memory)
  | read n => (m.read? n).map fun r => (.ofRead r.1, r.2)
  | write bytes => (m.write? grants bytes).map fun r => (.ofCount r.1, r.2)
  | seek off w => (m.seek? grants off w).map fun r => (.ofCount r.1, r.2)

/-- how many bytes the storage has to hold for a call -/
def need (m : Memory) : FileCall → Nat
  | read _ => 0
  | write bytes => m.forWrite.cursor + bytes.length
  | seek off w => ((m.base w : Int) + off).toNat

theorem perform?_usual (h : m.Sound) (c : FileCall) :
    c.perform? usual m = some (c.perform m) := by
  cases c with
  | read n => rw [perform?, read?_eq h]; rfl
  | write bytes => rw [perform?, write?_usual h]; rfl
  | seek off w => rw [perform?, seek?_usual]; rfl

/-- a call on storage that is there, or has grown to hold what the call needs -/
structure Served (m m' : Memory) (c : FileCall) : Prop extends m'.Sound where
  plan_eq : m'.plan = m.plan
  size : m'.capacity = m.capacity ∨ m.plan.Raised (c.need m) m.capacity m'.capacity

theorem perform?_served (h : m.Sound) (grants : Nat → Bool) (c : FileCall) :
    ∃ r, c.perform? grants m = some r ∧ Served m r.2 c := by
  cases c with
  | read n =>
    refine ⟨_, by rw [perform?, read?_eq h]; rfl, ?_⟩
    exact ⟨sound_forward h n, rfl, .inl rfl⟩
  | write bytes =>
    rw [perform?, write?]
    split
    · exact ⟨_, rfl, h, rfl, .inl rfl⟩
    have hw := sound_forWrite h
    have pw := plan_forWrite m
    have cw := capacity_forWrite m
    rcases writeHere?_cases hw grants bytes with ⟨f, call⟩ | ⟨u, n, call, fits, size⟩
    · rw [call]
      exact ⟨_, rfl, hw, pw, .inl cw⟩
    · rw [call]
      refine ⟨_, rfl, ?_⟩
      rcases size with rfl | ⟨size, rfl, raised⟩
      · exact ⟨sound_put hw fits, pw, .inl ((capacity_put _ _).trans cw)⟩
      · rw [pw, cw, ← capacity_put (m.forWrite.grown size) (bytes.take n)] at raised
        exact ⟨sound_put (sound_grown hw size) fits, pw, .inr raised⟩
  | seek off w =>
    rw [perform?]
    rcases seek?_cases m grants off w with ⟨f, call⟩ | ⟨u, pos, call, fits, rfl, size⟩
    · rw [call]
      exact ⟨_, rfl, h, rfl, .inl rfl⟩
    · rw [call]
      refine ⟨_, rfl, ?_⟩
      rcases size with rfl | ⟨size, rfl, raised⟩
      · exact ⟨sound_moveTo h fits, rfl, .inl (capacity_moveTo _ _)⟩
      · rw [← capacity_moveTo (m.grown size)] at raised
        exact ⟨sound_moveTo (sound_grown h size) fits, rfl, .inr raised⟩

end FileCall

inductive StorageCall where
  | file (c : FileCall)
  | snatch
  | close
  deriving DecidableEq, Repr

namespace StorageCall

def perform (m : Memory) : StorageCall → FileAnswer × Memory
  | file c => c.perform m
  | snatch => (((Device.snatch m).1.elim (.count 0) .bytes), (Device.snatch m).2)
  | close => (.ofCount ((Device.close m).1.map fun _ => 0), (Device.close m).2)

def perform? (grants : Nat → Bool) (m : Memory) : StorageCall → Option (FileAnswer × Memory)
  | file c => c.perform? grants m
  | snatch => m.data?.map fun bytes => (.bytes bytes, m.emptied)
  | close => some (.count 0, m.emptied)

/-- each call with the storage that is granted to it -/
def run? : List (StorageCall × (Nat → Bool)) → Memory → Option Memory
  | [], m => some m
  | (c, grants) :: calls, m => (c.perform? grants m).bind fun r => run? calls r.2

/-- what a call may do to the size of the storage -/
inductive Resized (m m' : Memory) : StorageCall → Prop
  | same (c : StorageCall) (same : m'.capacity = m.capacity) : Resized m m' c
  | more (c : FileCall) (raised : m.plan.Raised (c.need m) m.capacity m'.capacity) :
      Resized m m' (.file c)
  | snatched (none : m'.capacity = 0) : Resized m m' .snatch
  | closed (none : m'.capacity = 0) : Resized m m' .close

theorem perform?_usual (h : m.Sound) (c : StorageCall) :
    c.perform? usual m = some (c.perform m) := by
  cases c with
  | file c => exact c.perform?_usual h
  | snatch => rw [perform?, data?_eq h]; rfl
  | close => rfl

theorem sound_emptied (m : Memory) : m.emptied.Sound := ⟨Nat.le_refl _, Nat.zero_le _⟩

theorem perform?_kept (h : m.Sound) (grants : Nat → Bool) (c : StorageCall) :
    ∃ r, c.perform? grants m = some r ∧ r.2.Sound ∧ r.2.plan = m.plan ∧ Resized m r.2 c := by
  cases c with
  | file c =>
    obtain ⟨r, call, served⟩ := c.perform?_served h grants
    refine ⟨r, call, served.toSound, served.plan_eq, ?_⟩
    rcases served.size with same | raised
    · exact .same _ same
    · exact .more c raised
  | snatch => exact ⟨_, by rw [perform?, data?_eq h]; rfl, sound_emptied m, rfl, .snatched rfl⟩
  | close => exact ⟨_, rfl, sound_emptied m, rfl, .closed rfl⟩

/-! ## a run -/

theorem run?_kept (h : m.Sound) (calls : List (StorageCall × (Nat → Bool))) :
    ∃ m', run? calls m = some m' ∧ m'.Sound ∧ m'.plan = m.plan := by
  induction calls generalizing m with
  | nil => exact ⟨m, rfl, h, rfl⟩
  | cons call calls ih =>
    obtain ⟨r, ok, sound, plan, -⟩ := call.1.perform?_kept h call.2
    obtain ⟨m', run, sound', plan'⟩ := ih sound
    refine ⟨m', ?_, sound', plan'.trans plan⟩
    rw [run?, ok]
    exact run

end StorageCall

/-- a device just made by a plan, or over storage that was supplied to it -/
inductive Fresh (p : Plan) : Memory → Prop
  | ofPlan : Fresh p (ofPlan p)
  | ofData (bytes : Bytes) : Fresh p (ofData bytes p)
  | ofParts {storage : Option Bytes} {size length : Nat} {m : Memory}
      (ok : ofParts storage size length p = .ok m) : Fresh p m

theorem Fresh.sound {p : Plan} (h : Fresh p m) : m.Sound ∧ m.plan = p := by
  cases h with
  | ofPlan => exact ⟨⟨Nat.le_refl _, Nat.le_refl _⟩, rfl⟩
  | ofData bytes => exact ⟨⟨Nat.zero_le _, Nat.le_refl _⟩, rfl⟩
  | ofParts ok =>
    unfold Memory.ofParts at ok
    split at ok
    · split at ok
      · cases ok
        exact ⟨⟨Nat.le_refl _, Nat.le_refl _⟩, rfl⟩
      · cases ok
    · split at ok
      · cases ok
      split at ok
      · cases ok
      next fits _ =>
      cases ok
      exact ⟨⟨Nat.zero_le _, Nat.le_of_not_lt fits⟩, rfl⟩

/-- Take a memory device just made, and any calls, with storage granted or refused as it may happen.
No call leaves the range of the storage or of the sizes, so the run has a result, with the cursor
inside the data and the data inside the storage.  The size of the storage goes down by a snatch and
by a close only.  It goes up only where the plan allows that, by a call that needs the storage, and
then to a multiple of the block, or up to the limit, never beyond it.  Where storage is granted as
usual, the calls are those of the device. -/
theorem storage_kept {p : Plan} (fresh : Fresh p m) (calls : List (StorageCall × (Nat → Bool))) :
    ∃ m', StorageCall.run? calls m = some m' ∧ m'.cursor ≤ m'.length ∧ m'.length ≤ m'.capacity ∧
      m'.plan = p ∧ m'.data? = some m'.data ∧
      (∀ (c : StorageCall) grants, ∃ r, c.perform? grants m' = some r ∧ c.Resized m' r.2) ∧
      ∀ c : StorageCall, c.perform? usual m' = some (c.perform m') := by
  obtain ⟨sound, plan⟩ := fresh.sound
  obtain ⟨m', run, sound', plan'⟩ := StorageCall.run?_kept sound calls
  refine ⟨m', run, sound'.cursor_le, sound'.length_le, plan'.trans plan, data?_eq sound', ?_, ?_⟩
  · intro c grants
    obtain ⟨r, call, -, -, resized⟩ := c.perform?_kept sound' grants
    exact ⟨r, call, resized⟩
  · intro c
    exact c.perform?_usual sound'

/-- storage of five bytes grows to seven, not to eight, and then no more -/
theorem storage_kept_seven :
    let p : Plan := { block := 4, limit := some 7 }
    let calls : List (StorageCall × (Nat → Bool)) :=
      [(.file (.write [8]), fun _ => false), (.file (.seek 6 .start), fun _ => false),
        (.file (.seek 6 .start), usual), (.file (.write [8, 9]), usual)]
    ∃ m m', ofParts (some [1, 2, 3]) 5 2 p = .ok m ∧ StorageCall.run? calls m = some m' ∧
      m'.cursor = 6 ∧ m'.length = 6 ∧ m'.capacity = 7 ∧ m'.data? = some [8, 2, 0, 0, 0, 0] ∧
      ∃ r, StorageCall.perform? usual m' (.file (.write [9])) = some r ∧
        StorageCall.Resized m' r.2 (.file (.write [9])) := by
  have kept := storage_kept
    (@Fresh.ofParts { block := 4, limit := some 7 } (some [1, 2, 3]) 5 2 _ rfl)
    [(.file (.write [8]), fun _ => false), (.file (.seek 6 .start), fun _ => false),
      (.file (.seek 6 .start), usual), (.file (.write [8, 9]), usual)]
  obtain ⟨m', run, -, -, -, data, call, -⟩ := kept
  cases run
  exact ⟨_, _, rfl, rfl, rfl, rfl, rfl, data, call _ _⟩

end Memory

end BufferedStreams
