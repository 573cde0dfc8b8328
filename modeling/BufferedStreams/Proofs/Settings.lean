import BufferedStreams.Sizing
import Mathlib.Data.List.DropRight
import Mathlib.Data.Nat.Digits.Defs

/-!
# The buffer size that a setting asks for

A setting asks for a size by a numeral of any length, with white space around it or without.  Here
numerals are what the grammar says, each worth what the places of its digits make it, and the reader
of settings is compared with that.

* `Text.numeral?_eq_some_iff`   the reader takes the numerals and nothing else, for what they are worth;
* `asks_iff`                    a setting asks for what is read when its blank border is gone;
* `bufferSizeOf_mem`            any bytes, or none, get a size in range;
* `bufferSizeOf_text`           the bytes of a text get what the text asks for;
* `numeral_sizes`               what is asked for is brought into range, up to the largest number that a
                                word holds; a larger one gets the usual size.
-/

namespace BufferedStreams

namespace Text

/-- one or more decimal digits -/
structure Digits (ds : List Char) : Prop where
  ne_nil : ds ≠ []
  digit : ∀ c ∈ ds, c.isDigit = true

/-- what digits are worth, each by its place -/
def worth (ds : List Char) : Nat := Nat.ofDigits 10 (ds.map fun c => c.toNat - '0'.toNat).reverse

/-- the numerals, each with what it is worth -/
inductive Numeral : List Char → Nat → Prop
  | plain {ds : List Char} (digits : Digits ds) : Numeral ds (worth ds)
  | signed {ds : List Char} (digits : Digits ds) : Numeral ('+' :: ds) (worth ds)

theorem worth_cons (c : Char) (ds : List Char) :
    worth (c :: ds) = (c.toNat - '0'.toNat) * 10 ^ ds.length + worth ds := by
  rw [worth, List.map_cons, Nat.ofDigits_reverse_cons, List.length_map, Nat.mul_comm, Nat.add_comm]
  rfl

/-! ## the reader of numerals -/

theorem digit?_eq (c : Char) :
    digit? c = if c.isDigit = true then some (c.toNat - '0'.toNat) else none := by
  have same : ('0' ≤ c ∧ c ≤ '9') ↔ c.isDigit = true := by
    rw [Char.isDigit_iff_toNat, Char.le_def, Char.le_def, UInt32.le_iff_toNat_le,
      UInt32.le_iff_toNat_le]
    rfl
  rw [digit?, if_congr same rfl rfl]

/-- the digits behind `acc` move it up by as many places -/
theorem digitsFrom?_eq_some_iff {acc n : Nat} {ds : List Char} :
    digitsFrom? acc ds = some n ↔
      (∀ c ∈ ds, c.isDigit = true) ∧ acc * 10 ^ ds.length + worth ds = n := by
  induction ds generalizing acc with
  | nil => simp [digitsFrom?, worth]
  | cons c ds ih =>
    rw [digitsFrom?, digit?_eq, List.forall_mem_cons]
    by_cases digit : c.isDigit = true
    · have places : (10 * acc + (c.toNat - '0'.toNat)) * 10 ^ ds.length + worth ds =
          acc * 10 ^ (c :: ds).length + worth (c :: ds) := by
        rw [worth_cons, List.length_cons, Nat.pow_succ]
        ring
      rw [if_pos digit, ← places]
      simp only [ih, digit, true_and]
    · rw [if_neg digit]
      simp [digit]

theorem digitsFrom?_zero {ds : List Char} (ne_nil : ds ≠ []) (n : Nat) :
    digitsFrom? 0 ds = some n ↔ Digits ds ∧ worth ds = n := by
  rw [digitsFrom?_eq_some_iff, Nat.zero_mul, Nat.zero_add]
  exact and_congr_left' ⟨fun digit => ⟨ne_nil, digit⟩, Digits.digit⟩

theorem numeral?_signed {ds : List Char} (ne_nil : ds ≠ []) :
    numeral? ('+' :: ds) = digitsFrom? 0 ds := by
  cases ds with
  | nil => exact absurd rfl ne_nil
  | cons d ds => rfl

theorem numeral?_plain {c : Char} (plain : c ≠ '+') (ds : List Char) :
    numeral? (c :: ds) = digitsFrom? 0 (c :: ds) := by
  unfold numeral?
  split
  · next same => cases same
  · next same => exact absurd (List.cons.inj same).1 plain
  · next same => exact absurd (List.cons.inj same).1 plain
  · rfl

/-- numerals are read for what they are worth, and nothing else is read -/
theorem numeral?_eq_some_iff {cs : List Char} {n : Nat} : numeral? cs = some n ↔ Numeral cs n := by
  constructor
  · intro read
    cases cs with
    | nil => cases read
    | cons c ds =>
      -- a sign is no digit, so the first character decides which form the numeral has
      by_cases sign : c = '+'
      · subst sign
        by_cases nil : ds = []
        · subst nil
          cases read
        · rw [numeral?_signed nil] at read
          obtain ⟨digits, rfl⟩ := (digitsFrom?_zero nil n).mp read
          exact .signed digits
      · rw [numeral?_plain sign] at read
        obtain ⟨digits, rfl⟩ := (digitsFrom?_zero (List.cons_ne_nil c ds) n).mp read
        exact .plain digits
  · rintro (digits | digits)
    · cases cs with
      | nil => exact absurd rfl digits.ne_nil
      | cons c ds =>
        have plain : c ≠ '+' := by
          rintro rfl
          exact absurd (digits.digit _ List.mem_cons_self) (by decide)
        rw [numeral?_plain plain]
        exact (digitsFrom?_zero digits.ne_nil _).mpr ⟨digits, rfl⟩
    · rw [numeral?_signed digits.ne_nil]
      exact (digitsFrom?_zero digits.ne_nil _).mpr ⟨digits, rfl⟩

/-! ## white space around a text -/

def Blank (cs : List Char) : Prop := ∀ c ∈ cs, isBlank c = true

theorem isBlank_of_isDigit {c : Char} (digit : c.isDigit = true) : isBlank c = false := by
  rw [Char.isDigit_iff_toNat] at digit
  have digits : 48 ≤ c.toNat ∧ c.toNat ≤ 57 := digit
  have apart : ∀ r ∈ blankRanges, r.2 < 48 ∨ 57 < r.1 := by decide
  rw [isBlank, List.any_eq_false]
  intro r mem
  have := apart r mem
  rw [Bool.and_eq_true, decide_eq_true_eq, decide_eq_true_eq]
  omega

/-- there is no white space in a numeral -/
theorem Numeral.solid {cs : List Char} {n : Nat} (h : Numeral cs n) :
    ∀ c ∈ cs, isBlank c = false := by
  cases h with
  | plain digits => exact fun c mem => isBlank_of_isDigit (digits.digit c mem)
  | signed digits =>
    rw [List.forall_mem_cons]
    exact ⟨by decide, fun c mem => isBlank_of_isDigit (digits.digit c mem)⟩

theorem Numeral.ne_nil {cs : List Char} {n : Nat} (h : Numeral cs n) : cs ≠ [] := by
  cases h with
  | plain digits => exact digits.ne_nil
  | signed digits => exact List.cons_ne_nil _ _

/-- a text is what is left of it between two blank borders -/
theorem exists_border (cs : List Char) :
    ∃ left right, Blank left ∧ Blank right ∧ left ++ trim cs ++ right = cs := by
  refine ⟨cs.takeWhile isBlank, (cs.dropWhile isBlank).rtakeWhile isBlank,
    fun _ => List.mem_takeWhile_imp, fun _ => List.mem_rtakeWhile_imp, ?_⟩
  show cs.takeWhile isBlank ++ (cs.dropWhile isBlank).rdropWhile isBlank ++ _ = cs
  rw [List.append_assoc, List.rdropWhile_append_rtakeWhile, List.takeWhile_append_dropWhile]

/-- the border ends where a character without white space stands -/
theorem dropWhile_border {left cs : List Char} (blank : Blank left) {c : Char}
    (solid : isBlank c = false) : (left ++ c :: cs).dropWhile isBlank = c :: cs := by
  rw [List.dropWhile_append_of_pos blank]
  exact List.dropWhile_cons_of_neg (by simp [solid])

/-- a blank border is all that is removed around a numeral -/
theorem Numeral.trim_border {left core right : List Char} {n : Nat} (h : Numeral core n)
    (left_blank : Blank left) (right_blank : Blank right) :
    trim (left ++ core ++ right) = core := by
  obtain ⟨c, cs, rfl⟩ := List.exists_cons_of_ne_nil h.ne_nil
  obtain ⟨ds, d, last⟩ := (List.eq_nil_or_concat' _).resolve_left h.ne_nil
  have front : (left ++ (c :: cs) ++ right).dropWhile isBlank = (c :: cs) ++ right := by
    rw [List.append_assoc]
    exact dropWhile_border left_blank (h.solid c List.mem_cons_self)
  have back : (right.reverse ++ d :: ds.reverse).dropWhile isBlank = d :: ds.reverse := by
    refine dropWhile_border (fun c mem => right_blank c (List.mem_reverse.mp mem)) (h.solid d ?_)
    rw [last]
    exact List.mem_concat_self
  rw [trim, front, List.reverse_append, last, List.reverse_concat, back, List.reverse_cons,
    List.reverse_reverse]

end Text

/-! ## what is asked for -/

open Text

/-- the setting is a numeral worth `n`, with white space around it or without -/
inductive Asks : List Char → Nat → Prop
  | bordered {left core right : List Char} {n : Nat} (left_blank : Blank left)
      (right_blank : Blank right) (numeral : Numeral core n) : Asks (left ++ core ++ right) n

theorem asks_iff {s : List Char} {n : Nat} : Asks s n ↔ numeral? (trim s) = some n := by
  rw [numeral?_eq_some_iff]
  constructor
  · rintro ⟨left_blank, right_blank, numeral⟩
    rw [numeral.trim_border left_blank right_blank]
    exact numeral
  · intro numeral
    obtain ⟨left, right, left_blank, right_blank, whole⟩ := exists_border s
    rw [← whole]
    exact .bordered left_blank right_blank numeral

instance (s : List Char) (n : Nat) : Decidable (Asks s n) := decidable_of_iff _ asks_iff.symm

theorem not_asks_iff {s : List Char} : (∀ n, ¬ Asks s n) ↔ numeral? (trim s) = none := by
  rw [Option.eq_none_iff_forall_ne_some]
  exact forall_congr' fun n => not_congr asks_iff

/-! ## the size for it -/

/-- the size in range that is nearest to what is asked for -/
def inRange (n : Nat) : Nat :=
  if n < leastBuffer then leastBuffer else if mostBuffer < n then mostBuffer else n

theorem min_max_eq_inRange (n : Nat) : min (max n leastBuffer) mostBuffer = inRange n := by
  unfold inRange leastBuffer mostBuffer
  split_ifs <;> omega

theorem inRange_mem (n : Nat) : leastBuffer ≤ inRange n ∧ inRange n ≤ mostBuffer := by
  unfold inRange leastBuffer mostBuffer
  split_ifs <;> omega

theorem inRange_of_le {n : Nat} (le : mostBuffer ≤ n) : inRange n = mostBuffer := by
  unfold inRange leastBuffer mostBuffer at *
  split_ifs <;> omega

theorem inRange_le_usualBuffer {n : Nat} : inRange n ≤ usualBuffer ↔ n ≤ usualBuffer := by
  unfold inRange leastBuffer mostBuffer usualBuffer
  split_ifs <;> omega

theorem inRange_mono {m n : Nat} (le : m ≤ n) : inRange m ≤ inRange n := by
  unfold inRange leastBuffer mostBuffer
  split_ifs <;> omega

theorem bufferSize_of_asks {s : List Char} {n : Nat} (h : Asks s n) :
    bufferSize s = if n < wordRange then inRange n else usualBuffer := by
  rw [bufferSize, asks_iff.mp h, ← min_max_eq_inRange]

theorem bufferSize_of_not_asks {s : List Char} (h : ∀ n, ¬ Asks s n) :
    bufferSize s = usualBuffer := by
  rw [bufferSize, not_asks_iff.mp h]

/-- a number gets its own size exactly if a word holds it -/
theorem bufferSize_eq_inRange_iff {s : List Char} {n : Nat} (h : Asks s n) :
    bufferSize s = inRange n ↔ n < wordRange := by
  rw [bufferSize_of_asks h]
  by_cases word : n < wordRange
  · rw [if_pos word]
    exact iff_of_true rfl word
  · have most : inRange n = mostBuffer :=
      inRange_of_le (Nat.le_trans (by decide : mostBuffer ≤ wordRange) (Nat.le_of_not_lt word))
    rw [if_neg word, most]
    exact iff_of_false (by decide) word

/-- a larger number gets no smaller size, except where only the smaller one is held by a word and
asks for more than the usual size -/
theorem bufferSize_le_iff {s t : List Char} {m n : Nat} (h : Asks s m) (h' : Asks t n)
    (le : m ≤ n) :
    bufferSize s ≤ bufferSize t ↔ (wordRange ≤ n → m ≤ usualBuffer ∨ wordRange ≤ m) := by
  rw [bufferSize_of_asks h, bufferSize_of_asks h']
  by_cases large : wordRange ≤ n
  · rw [if_neg (Nat.not_lt.mpr large)]
    by_cases word : m < wordRange
    · rw [if_pos word, inRange_le_usualBuffer]
      exact ⟨fun le _ => .inl le, fun small => (small large).resolve_right (Nat.not_le.mpr word)⟩
    · rw [if_neg word]
      exact iff_of_true (Nat.le_refl _) fun _ => .inr (Nat.le_of_not_lt word)
  · have word : n < wordRange := Nat.lt_of_not_le large
    rw [if_pos word, if_pos (Nat.lt_of_le_of_lt le word)]
    exact iff_of_true (inRange_mono le) fun le => absurd le large

/-! ## sizes in range -/

theorem usualBuffer_mem : leastBuffer ≤ usualBuffer ∧ usualBuffer ≤ mostBuffer := by decide

theorem bufferSize_mem (s : List Char) : leastBuffer ≤ bufferSize s ∧ bufferSize s ≤ mostBuffer := by
  by_cases asks : ∃ n, Asks s n
  · obtain ⟨n, asks⟩ := asks
    rw [bufferSize_of_asks asks]
    split
    · exact inRange_mem n
    · exact usualBuffer_mem
  · rw [bufferSize_of_not_asks (not_exists.mp asks)]
    exact usualBuffer_mem

/-- a setting that is missing, that is no text, or that asks for whatever it may, gets a size in
range -/
theorem bufferSizeOf_mem (setting : Option Bytes) :
    leastBuffer ≤ bufferSizeOf setting ∧ bufferSizeOf setting ≤ mostBuffer := by
  unfold bufferSizeOf
  split
  · exact usualBuffer_mem
  · split
    · exact bufferSize_mem _
    · exact usualBuffer_mem

/-- the bytes of a text get what the text asks for -/
theorem bufferSizeOf_text (text : String) :
    bufferSizeOf (some text.toByteArray.data.toList) = bufferSize text.toList := by
  have read : String.fromUTF8? ⟨text.toByteArray.data.toList.toArray⟩ = some text :=
    dif_pos text.isValidUTF8
  simp only [bufferSizeOf, read]

/-! ## every setting -/

/-- Take any setting.  If it is a numeral with white space around it, it gets what the numeral is worth,
brought into range, exactly if a word holds that; a numeral that is worth more gets the usual size.
So does any other setting.  Of two numerals the one that is worth more gets no smaller size, except
where no word holds it and a word beyond the usual size holds the other. -/
theorem numeral_sizes (s : List Char) :
    (∀ n, Asks s n → (bufferSize s = inRange n ↔ n < wordRange) ∧
      (wordRange ≤ n → bufferSize s = usualBuffer)) ∧
      ((∀ n, ¬ Asks s n) → bufferSize s = usualBuffer) ∧
      ∀ t m n, Asks s m → Asks t n → m ≤ n →
        (bufferSize s ≤ bufferSize t ↔ (wordRange ≤ n → m ≤ usualBuffer ∨ wordRange ≤ m)) := by
  refine ⟨fun n asks => ⟨bufferSize_eq_inRange_iff asks, fun large => ?_⟩, bufferSize_of_not_asks,
    fun t m n asks asks' le => bufferSize_le_iff asks asks' le⟩
  rw [bufferSize_of_asks asks, if_neg (Nat.not_lt.mpr large)]

theorem numeral_sizes_signed :
    Asks "\t+00512 ".toList 512 ∧ Asks "18446744073709551615".toList 18446744073709551615 ∧
      bufferSize "\t+00512 ".toList = inRange 512 ∧
      bufferSize "\t+00512 ".toList ≤ bufferSize "18446744073709551615".toList ∧
      (∀ n, ¬ Asks "+ 512".toList n) ∧ bufferSize "+ 512".toList = usualBuffer := by
  have asks : Asks "\t+00512 ".toList 512 := by decide
  have most : Asks "18446744073709551615".toList 18446744073709551615 := by decide
  have none : ∀ n, ¬ Asks "+ 512".toList n := not_asks_iff.mpr (by decide)
  obtain ⟨sizes, -, larger⟩ := numeral_sizes "\t+00512 ".toList
  exact ⟨asks, most, (sizes 512 asks).1.mpr (by decide),
    (larger _ _ _ asks most (by decide)).mpr (by decide), none,
    (numeral_sizes "+ 512".toList).2.1 none⟩

/-- the first number that no word holds gets a smaller buffer than the one before it -/
theorem largest_word_passed :
    Asks "18446744073709551615".toList 18446744073709551615 ∧
      Asks "18446744073709551616".toList 18446744073709551616 ∧
      bufferSize "18446744073709551616".toList ≠ inRange 18446744073709551616 ∧
      bufferSize "18446744073709551616".toList < bufferSize "18446744073709551615".toList := by
  decide

end BufferedStreams
