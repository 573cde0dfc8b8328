import BufferedStreams.Bytes

/-!
# Lines

Streams carry bytes, and some of these are text in lines.  A line ends with the byte `newline`, but for
the last one, which may go without.

* `splitLastLine?`   cuts bytes behind their last line end; the parts make up the whole
                     (`splitLastLine?_eq_some`);
* `uptoNewline`      the first line; `uptoNewline_append` puts it together from pieces;
* `Payload.lines`    sample text of lines of one width, to try streams on.  Each line runs through the
                     alphabet, and starts one letter later than the line before it.
-/

namespace BufferedStreams

def newline : UInt8 := 10

/-! ## the last line end -/

/-- cuts bytes behind the last line end; none if there is no line end -/
def splitLastLine? (bytes : Bytes) : Option (Bytes × Bytes) :=
  let tail := (bytes.reverse.takeWhile (· != newline)).reverse
  if tail.length = bytes.length then none
  else some (bytes.take (bytes.length - tail.length), tail)

/-- the two parts of a cut make up the whole -/
theorem splitLastLine?_eq_some {bytes lines tail : Bytes}
    (h : splitLastLine? bytes = some (lines, tail)) : lines ++ tail = bytes := by
  unfold splitLastLine? at h
  dsimp only at h
  split at h
  · cases h
  · injection h with h
    obtain ⟨rfl, rfl⟩ := Prod.mk.inj h
    -- the tail is a suffix, and the lines are what is in front of it
    obtain ⟨front, hf⟩ : (bytes.reverse.takeWhile (· != newline)).reverse <:+ bytes := by
      have := (List.takeWhile_prefix (l := bytes.reverse) (· != newline)).reverse
      rwa [List.reverse_reverse] at this
    generalize (bytes.reverse.takeWhile (· != newline)).reverse = tail at hf
    rw [← hf, List.length_append, Nat.add_sub_cancel, List.take_left]

/-! ## the first line -/

/-- bytes up to and with the first line end -/
def uptoNewline (bytes : Bytes) : Bytes :=
  let line := bytes.takeWhile (· != newline)
  line ++ (bytes.drop line.length).take 1

@[simp] theorem uptoNewline_nil : uptoNewline [] = [] := rfl

theorem uptoNewline_cons (b : UInt8) (rest : Bytes) :
    uptoNewline (b :: rest) = if b = newline then [b] else b :: uptoNewline rest := by
  by_cases h : b = newline
  · simp [uptoNewline, h]
  · simp [uptoNewline, h]

def endsLine (bytes : Bytes) : Bool := bytes.getLast? == some newline

theorem uptoNewline_start (bytes : Bytes) : uptoNewline bytes <+: bytes := by
  induction bytes with
  | nil => exact List.prefix_refl _
  | cons b bytes ih =>
    rw [uptoNewline_cons]
    split
    · exact ⟨bytes, rfl⟩
    · exact List.prefix_cons_inj b |>.mpr ih

theorem uptoNewline_none {bytes : Bytes} (h : newline ∉ bytes) : uptoNewline bytes = bytes := by
  induction bytes with
  | nil => rfl
  | cons b bytes ih =>
    have other : b ≠ newline := fun e => h (e ▸ List.mem_cons_self)
    rw [uptoNewline_cons, if_neg other, ih fun m => h (List.mem_cons_of_mem b m)]

theorem uptoNewline_append (a b : Bytes) :
    uptoNewline (a ++ b) = if newline ∈ a then uptoNewline a else a ++ uptoNewline b := by
  induction a with
  | nil => rfl
  | cons x a ih =>
    rw [List.cons_append, uptoNewline_cons, uptoNewline_cons, ih]
    by_cases here : x = newline
    · rw [if_pos here, if_pos here, if_pos (here ▸ List.mem_cons_self)]
    · have later : newline ∈ x :: a ↔ newline ∈ a :=
        ⟨fun m => (List.mem_cons.mp m).resolve_left fun e => here e.symm, List.mem_cons_of_mem x⟩
      rw [if_neg here, if_neg here, List.cons_append]
      by_cases m : newline ∈ a
      · rw [if_pos m, if_pos (later.mpr m)]
      · rw [if_neg m, if_neg (mt later.mp m)]

theorem getLast?_uptoNewline {bytes : Bytes} (h : newline ∈ bytes) :
    (uptoNewline bytes).getLast? = some newline := by
  induction bytes with
  | nil => cases h
  | cons b bytes ih =>
    rw [uptoNewline_cons]
    split
    · next here =>
      rw [here]
      rfl
    · next other =>
      have last := ih ((List.mem_cons.mp h).resolve_left fun e => other e.symm)
      rw [List.getLast?_cons, last]
      rfl

/-- there is no newline but the last byte -/
theorem uptoNewline_first {bytes : Bytes} {k : Nat} (h : newline ∈ (uptoNewline bytes).take k) :
    (uptoNewline bytes).length ≤ k := by
  induction bytes generalizing k with
  | nil => exact Nat.zero_le k
  | cons b bytes ih =>
    rw [uptoNewline_cons] at h ⊢
    cases k with
    | zero => cases h
    | succ k =>
      split at h
      · next here =>
        rw [if_pos here]
        exact Nat.succ_le_succ (Nat.zero_le k)
      · next other =>
        rw [if_neg other]
        rw [List.take_succ_cons] at h
        exact Nat.succ_le_succ (ih ((List.mem_cons.mp h).resolve_left fun e => other e.symm))

theorem endsLine_uptoNewline (bytes : Bytes) :
    endsLine (uptoNewline bytes) = decide (newline ∈ bytes) := by
  by_cases h : newline ∈ bytes
  · rw [endsLine, getLast?_uptoNewline h, decide_eq_true h]
    rfl
  · rw [endsLine, uptoNewline_none h, decide_eq_false h, beq_eq_false_iff_ne]
    intro last
    exact h (List.mem_of_getLast? last)

/-! ## sample text -/

namespace Payload

/-- the letter with a number, counted around the alphabet -/
def letter (n : Nat) : UInt8 := 97 + .ofNat (n % 26)

/-- the line with a number, `width` bytes with its line end -/
def line (width i : Nat) : Bytes := (List.range (width - 1)).map (fun j => letter (i + j)) ++ [10]

/-- so many lines of so many bytes each; a line has at least its line end -/
def lines (count width : Nat) : Bytes := (List.range count).flatMap (line width)

/-- every line has the width asked for -/
theorem length_line (width i : Nat) : (line width i).length = max width 1 := by
  simp [line]
  omega

theorem length_lines (count width : Nat) : (lines count width).length = count * max width 1 := by
  simp [lines, List.length_flatMap, length_line, List.map_const']

theorem letter_ne_newline (n : Nat) : letter n ≠ newline := by
  intro h
  have value := congrArg UInt8.toNat h
  simp [letter, newline] at value
  omega

/-- a line ends where the next one begins -/
theorem uptoNewline_line (width i : Nat) (rest : Bytes) :
    uptoNewline (line width i ++ rest) = line width i := by
  have letters : newline ∉ (List.range (width - 1)).map (fun j => letter (i + j)) := by
    intro mem
    obtain ⟨j, -, same⟩ := List.mem_map.mp mem
    exact letter_ne_newline _ same
  rw [line, List.append_assoc, uptoNewline_append, if_neg letters]
  rfl

end Payload

end BufferedStreams
