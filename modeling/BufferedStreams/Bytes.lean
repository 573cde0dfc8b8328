/-!
# Byte strings and slabs

A byte string is a list of bytes.  A slab is byte storage of a fixed size whose bytes are zero
until something is stored over them; it keeps only the bytes up to the last one ever stored, so a
large slab that holds little costs little.

* `Slab.toList`          the view: all the bytes of a slab;
* `Slab.slice_eq`        a slice is a piece of the view;
* `Slab.toList_store`    storing replaces a piece of the view and nothing else;
* `Slab.toList_grow`     growing adds zero bytes at the end;
* `Slab.toList_wipe`     wiping puts zero bytes in place of a piece.
-/

namespace BufferedStreams

abbrev Bytes := List UInt8

def zeros (n : Nat) : Bytes := List.replicate n 0

@[simp] theorem length_zeros (n : Nat) : (zeros n).length = n := by simp [zeros]
@[simp] theorem zeros_zero : zeros 0 = [] := rfl

theorem zeros_append (m n : Nat) : zeros m ++ zeros n = zeros (m + n) := by
  simp [zeros, List.replicate_append_replicate]

theorem take_zeros (k n : Nat) : (zeros n).take k = zeros (min k n) := by
  simp [zeros, List.take_replicate]

theorem drop_zeros (k n : Nat) : (zeros n).drop k = zeros (n - k) := by
  simp [zeros, List.drop_replicate]

/-! ## overlays -/

/-- `new` written over `old` from position `pos` on; a gap between the end of `old` and `pos` is
filled with zero bytes -/
def overlay (old : Bytes) (pos : Nat) (new : Bytes) : Bytes :=
  old.take pos ++ (zeros (pos - old.length) ++ (new ++ old.drop (pos + new.length)))

theorem length_overlay (old : Bytes) (pos : Nat) (new : Bytes) :
    (overlay old pos new).length = max old.length (pos + new.length) := by
  simp [overlay]
  omega

/-! ## slabs -/

/-- byte storage of a fixed size, zero where nothing was stored -/
structure Slab where
  /-- how many bytes there are -/
  size : Nat
  /-- the bytes up to the last one stored so far -/
  known : Bytes
  /-- only bytes of the slab are kept -/
  known_le : known.length ≤ size

namespace Slab

def toList (s : Slab) : Bytes := s.known ++ zeros (s.size - s.known.length)

@[simp] theorem length_toList (s : Slab) : s.toList.length = s.size := by
  have := s.known_le
  simp [toList]
  omega

def blank (size : Nat) : Slab := ⟨size, [], Nat.zero_le _⟩

@[simp] theorem size_blank (n : Nat) : (blank n).size = n := rfl
@[simp] theorem toList_blank (n : Nat) : (blank n).toList = zeros n := by simp [toList, blank]

def ofList (bytes : Bytes) : Slab := ⟨bytes.length, bytes, Nat.le_refl _⟩

@[simp] theorem size_ofList (bytes : Bytes) : (ofList bytes).size = bytes.length := rfl
@[simp] theorem toList_ofList (bytes : Bytes) : (ofList bytes).toList = bytes := by
  simp [toList, ofList]

/-- the `n` bytes from position `pos` on, fewer where the slab ends before -/
def slice (s : Slab) (pos n : Nat) : Bytes :=
  let part := (s.known.drop pos).take n
  part ++ zeros (min n (s.size - pos) - part.length)

theorem slice_eq (s : Slab) (pos n : Nat) : s.slice pos n = (s.toList.drop pos).take n := by
  have := s.known_le
  simp only [slice, toList, List.drop_append, List.take_append, drop_zeros, take_zeros,
    List.length_take, List.length_drop]
  congr 2
  omega

@[simp] theorem length_slice (s : Slab) (pos n : Nat) :
    (s.slice pos n).length = min n (s.size - pos) := by
  simp [slice_eq]

/-- stores `bytes` from position `pos` on; what would stand past the end is left out -/
def store (s : Slab) (pos : Nat) (bytes : Bytes) : Slab :=
  let fitting := bytes.take (s.size - pos)
  if h : fitting = [] then s
  else
    { size := s.size
      known := overlay s.known pos fitting
      known_le := by
        have := s.known_le
        have : 0 < fitting.length := List.length_pos_iff.2 h
        have : fitting.length ≤ s.size - pos := List.length_take_le _ _
        rw [length_overlay]
        omega }

@[simp] theorem size_store (s : Slab) (pos : Nat) (bytes : Bytes) :
    (s.store pos bytes).size = s.size := by
  unfold store
  dsimp only
  split <;> rfl

theorem toList_store (s : Slab) (pos : Nat) (bytes : Bytes) :
    (s.store pos bytes).toList =
      s.toList.take pos ++ bytes.take (s.size - pos) ++
        s.toList.drop (pos + (bytes.take (s.size - pos)).length) := by
  have hk := s.known_le
  unfold store
  dsimp only
  split
  · next h => simp [h]
  · next h =>
    have h0 : 0 < (bytes.take (s.size - pos)).length := List.length_pos_iff.2 h
    have h1 : (bytes.take (s.size - pos)).length ≤ s.size - pos := List.length_take_le _ _
    simp only [toList, length_overlay]
    generalize bytes.take (s.size - pos) = fit at h h0 h1
    simp only [overlay, List.take_append, List.drop_append, take_zeros, drop_zeros,
      List.append_assoc]
    congr 1
    have e1 : min (pos - s.known.length) (s.size - s.known.length) = pos - s.known.length := by
      omega
    have e2 : s.size - s.known.length - (pos + fit.length - s.known.length) =
        s.size - max s.known.length (pos + fit.length) := by omega
    rw [e1, e2]

/-- at least `size` bytes, the new ones zero -/
def grow (s : Slab) (size : Nat) : Slab :=
  ⟨max s.size size, s.known, Nat.le_trans s.known_le (Nat.le_max_left _ _)⟩

@[simp] theorem size_grow (s : Slab) (n : Nat) : (s.grow n).size = max s.size n := rfl

theorem toList_grow (s : Slab) (n : Nat) : (s.grow n).toList = s.toList ++ zeros (n - s.size) := by
  have := s.known_le
  simp only [toList, grow, List.append_assoc, zeros_append]
  congr 2
  omega

/-- zero bytes in place of the `n` bytes from position `pos` on -/
def wipe (s : Slab) (pos n : Nat) : Slab :=
  if s.known.length ≤ pos then s
  else
    { size := s.size
      known := s.known.take pos ++
        (if s.known.length ≤ pos + n then [] else zeros n ++ s.known.drop (pos + n))
      known_le := by
        have := s.known_le
        split <;> simp <;> omega }

@[simp] theorem size_wipe (s : Slab) (pos n : Nat) : (s.wipe pos n).size = s.size := by
  unfold wipe
  split <;> rfl

theorem toList_wipe (s : Slab) (pos n : Nat) (h : pos + n ≤ s.size) :
    (s.wipe pos n).toList = s.toList.take pos ++ zeros n ++ s.toList.drop (pos + n) := by
  have hk := s.known_le
  unfold wipe
  split
  · next hp =>
    simp only [toList, List.take_append, List.drop_append, take_zeros, drop_zeros,
      List.take_of_length_le hp, List.drop_of_length_le (by omega : s.known.length ≤ pos + n),
      List.append_assoc, List.nil_append, zeros_append]
    congr 2
    omega
  · next hp =>
    simp only [toList, List.take_append, List.drop_append, take_zeros, drop_zeros]
    have e0 : min (pos - s.known.length) (s.size - s.known.length) = 0 := by omega
    rw [e0]
    split
    · next hq =>
      simp only [List.append_nil, zeros_zero, List.drop_of_length_le hq, List.append_assoc,
        List.nil_append, zeros_append, List.length_take]
      congr 2
      omega
    · next hq =>
      simp only [List.append_nil, zeros_zero, List.append_assoc, List.length_append,
        List.length_take, length_zeros, List.length_drop]
      congr 4
      omega

end Slab

end BufferedStreams
