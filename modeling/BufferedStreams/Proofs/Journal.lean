import BufferedStreams.Proofs.LineFailure
import BufferedStreams.Proofs.Marks

/-!
# The failures that an operation meets

A device that keeps a journal tells afterwards which of its calls failed.  An operation that fails
answers with a failure that it met, and it meets no other: it stops at the first one.  Two seeks do
not count, since a stream goes on where they fail.  One asks an append device where its data ends; the
other moves a device that turns out not to seek, when a stream turns to writing.

* `Event.faults`   the failures that count among some calls;
* `Journal δ`      the contract of a device with a journal;
* `Journal.Told`   the calls between two device states, and the one failure that counts among them;
* `Op.shown`       an operation that fails or moves nothing meets the failure that it answers with, or
                   none at all;
* `Stream.close_met`   a close goes on after a failure, and answers with the first one.
-/

namespace BufferedStreams

/-! ## what counts -/

/-- where a call stands in an operation, as far as it matters for its failure -/
inductive Stance where
  | plain
  /-- behind a write -/
  | wrote
  /-- at the start of a turn to writing -/
  | turning

namespace Event

/-- where the call behind this one stands -/
def leads : Event → Stance
  | write _ _ => .wrote
  | _ => .plain

/-- is it a seek whose failure does not matter? -/
def passedOver : Stance → Event → Bool
  | .wrote, seek off .current (.error _) => off == 0
  | .turning, seek _ .current (.error f) => f.errno == Errno.cannotSeek
  | _, _ => false

/-- the failures that count, in the order in which they were met -/
def faults : Stance → List Event → List Fault
  | _, [] => []
  | st, e :: rest => (if e.passedOver st then [] else e.fault?.toList) ++ faults e.leads rest

theorem faults_append (st : Stance) (es es' : List Event) :
    ∃ st', faults st (es ++ es') = faults st es ++ faults st' es' := by
  induction es generalizing st with
  | nil => exact ⟨st, rfl⟩
  | cons e es ih =>
    obtain ⟨st', eq⟩ := ih e.leads
    refine ⟨st', ?_⟩
    rw [List.cons_append, faults, eq, faults, List.append_assoc]

/-- nothing is passed over that does not have to be -/
theorem faults_plain {st : Stance} {es : List Event} {f : Fault} (h : f ∈ faults st es) :
    f ∈ faults .plain es := by
  cases es with
  | nil => exact h
  | cons e es =>
    rw [faults, List.mem_append] at h ⊢
    refine h.imp_left fun here => ?_
    split at here
    · cases here
    · exact here

theorem mem_faults_append {st : Stance} {es es' : List Event} {f : Fault}
    (h : f ∈ faults st (es ++ es')) : f ∈ faults st es ∨ f ∈ faults .plain es' := by
  obtain ⟨st', eq⟩ := faults_append st es es'
  rw [eq] at h
  exact (List.mem_append.mp h).imp_right faults_plain

theorem mem_faults_single {st : Stance} {e : Event} {f : Fault} :
    f ∈ faults st [e] ↔ e.passedOver st = false ∧ e.fault? = some f := by
  rw [faults, faults, List.append_nil]
  split
  · next passed => simp [passed]
  · next minded => simp [Bool.eq_false_iff.mpr minded, eq_comm]

end Event

/-! ## the contract -/

/-- a device whose journal has every call that it can make at all, with the answer; a call that it
cannot make may be missing -/
structure Journal (δ : Type) [Device δ] where
  valid : δ → Prop
  log : δ → List Event
  read {n : Nat} {d d' : δ} {r : Except Fault Delivery} :
    valid d → Device.read n d = (r, d') →
      valid d' ∧ (log d' = log d ++ [.read n r] ∨ log d' = log d)
  write {bytes : Bytes} {d d' : δ} {r : Except Fault Nat} :
    valid d → Device.write bytes d = (r, d') →
      valid d' ∧ (Device.abilities d').write = (Device.abilities d).write ∧
        (log d' = log d ++ [.write bytes r] ∨
          log d' = log d ∧ (Device.abilities d).write = false ∧ ∀ n, r ≠ .ok n)
  flush {d d' : δ} {r : Except Fault Unit} :
    valid d → Device.flush d = (r, d') →
      valid d' ∧ (log d' = log d ++ [.flush r] ∨ log d' = log d ∧ r = .ok ())
  seek {off : Int} {w : Whence} {d d' : δ} {r : Except Fault Nat} :
    valid d → Device.seek off w d = (r, d') →
      valid d' ∧ (log d' = log d ++ [.seek off w r] ∨ log d' = log d)
  close {d d' : δ} {r : Except Fault Unit} :
    valid d → Device.close d = (r, d') →
      valid d' ∧ (log d' = log d ++ [.close r] ∨ log d' = log d)

namespace Journal

variable {δ : Type} [Device δ] (j : Journal δ)

/-- what a valid device was asked between two states was entered, and the failures that count among it
are this one -/
def Told (st : Stance) (stop : Option Fault) (d d' : δ) : Prop :=
  j.valid d → j.valid d' ∧
    ∃ new, j.log d' = j.log d ++ new ∧ ∀ f ∈ Event.faults st new, stop = some f

variable {j} {st : Stance} {stop : Option Fault} {d u d' : δ}

theorem told_refl : j.Told st stop d d := by
  intro valid
  refine ⟨valid, [], (List.append_nil _).symm, ?_⟩
  intro f mem
  cases mem

/-- a call that was entered or not -/
theorem told_of_call {e : Event} (valid : j.valid d')
    (entered : j.log d' = j.log d ++ [e] ∨ j.log d' = j.log d)
    (fault : ∀ f, e.passedOver st = false → e.fault? = some f → stop = some f) :
    j.Told st stop d d' := by
  intro _
  rcases entered with entered | missing
  · refine ⟨valid, [e], entered, ?_⟩
    intro f mem
    obtain ⟨minded, failed⟩ := Event.mem_faults_single.mp mem
    exact fault f minded failed
  · refine ⟨valid, [], missing.trans (List.append_nil _).symm, ?_⟩
    intro f mem
    cases mem

/-- where no failure counts any may be named -/
theorem Told.clean (h : j.Told st none d d') : j.Told st stop d d' := by
  intro valid
  obtain ⟨valid, new, log, none⟩ := h valid
  refine ⟨valid, new, log, ?_⟩
  intro f mem
  cases none f mem

/-- a plain call may stand anywhere -/
theorem Told.stands (h : j.Told .plain stop d d') : j.Told st stop d d' := by
  intro valid
  obtain ⟨valid, new, log, met⟩ := h valid
  exact ⟨valid, new, log, fun f mem => met f (Event.faults_plain mem)⟩

theorem Told.trans (h : j.Told st none d u) (h' : j.Told .plain stop u d') :
    j.Told st stop d d' := by
  intro valid
  obtain ⟨valid, new, log, none⟩ := h valid
  obtain ⟨valid, new', log', met⟩ := h' valid
  refine ⟨valid, new ++ new', ?_, ?_⟩
  · rw [log', log, List.append_assoc]
  · intro f mem
    rcases Event.mem_faults_append mem with before | later
    · cases none f before
    · exact met f later

/-! ## one call -/

/-- a call whose answer is the failure that counts -/
theorem told_of_fault {e : Event} (valid : j.valid d')
    (entered : j.log d' = j.log d ++ [e] ∨ j.log d' = j.log d) :
    j.Told .plain e.fault? d d' :=
  told_of_call valid entered fun _ _ failed => failed

theorem told_read {n : Nat} {r : Except Fault Delivery} (call : Device.read n d = (r, d')) :
    j.Told .plain (failure? r) d d' := by
  intro valid
  obtain ⟨left, entered⟩ := j.read valid call
  have told := told_of_fault left entered valid
  cases r <;> exact told

theorem told_flush {r : Except Fault Unit} (call : Device.flush d = (r, d')) :
    j.Told .plain (failure? r) d d' := by
  intro valid
  obtain ⟨left, entered⟩ := j.flush valid call
  have told := told_of_fault left (entered.imp_right And.left) valid
  cases r <;> exact told

theorem told_seek {off : Int} {w : Whence} {r : Except Fault Nat}
    (call : Device.seek off w d = (r, d')) : j.Told .plain (failure? r) d d' := by
  intro valid
  obtain ⟨left, entered⟩ := j.seek valid call
  have told := told_of_fault left entered valid
  cases r <;> exact told

theorem told_close {r : Except Fault Unit} (call : Device.close d = (r, d')) :
    j.Told .plain (failure? r) d d' := by
  intro valid
  obtain ⟨left, entered⟩ := j.close valid call
  have told := told_of_fault left entered valid
  cases r <;> exact told

/-- a seek that was passed over -/
theorem told_passed {off : Int} {w : Whence} {f : Fault}
    (call : Device.seek off w d = (.error f, d'))
    (passed : (Event.seek off w (.error f)).passedOver st = true) : j.Told st none d d' := by
  intro valid
  obtain ⟨left, entered⟩ := j.seek valid call
  refine told_of_call left entered ?_ valid
  intro f minded
  rw [passed] at minded
  cases minded

/-- a write that took nothing -/
theorem told_refused {bytes : Bytes} {r : Except Fault Nat}
    (call : Device.write bytes d = (r, d')) (none : ∀ n, r = .ok n → n = 0) :
    j.Told .plain (some (Stream.refusal r)) d d' := by
  intro valid
  obtain ⟨left, -, entered⟩ := j.write valid call
  have told := told_of_fault left (entered.imp_right And.left) valid
  rwa [Stream.fault_refusal none] at told

/-- a write that took something is in the journal -/
theorem entered_wrote {bytes : Bytes} {n : Nat} (valid : j.valid d)
    (call : Device.write bytes d = (.ok n, u)) :
    j.valid u ∧ (Device.abilities u).write = (Device.abilities d).write ∧
      j.log u = j.log d ++ [.write bytes (.ok n)] := by
  obtain ⟨left, abilities, entered | ⟨-, -, failed⟩⟩ := j.write valid call
  · exact ⟨left, abilities, entered⟩
  · exact absurd rfl (failed n)

theorem fault_wrote {bytes : Bytes} {n : Nat} (some : 0 < n) :
    (Event.write bytes (.ok n)).fault? = none := by
  obtain ⟨m, rfl⟩ : ∃ m, n = m + 1 := ⟨n - 1, by omega⟩
  rfl

/-- a write that took something goes in front of what follows it -/
theorem Told.behind {bytes : Bytes} {n : Nat} (h : j.Told .wrote stop u d')
    (call : Device.write bytes d = (.ok n, u)) (some : 0 < n) : j.Told st stop d d' := by
  intro valid
  obtain ⟨left, -, entered⟩ := entered_wrote valid call
  obtain ⟨last, new, log, met⟩ := h left
  refine ⟨last, .write bytes (.ok n) :: new, ?_, ?_⟩
  · rw [log, entered, List.append_assoc, List.singleton_append]
  · intro f mem
    rw [Event.faults, fault_wrote some, Option.toList_none, ite_self, List.nil_append] at mem
    exact met f mem

end Journal

namespace Stream

open Journal

variable {δ : Type} [Device δ] {j : Journal δ} {s u : Stream δ} {f : Fault}

/-! ## draining and turning -/

theorem syncAppend_journaled (s : Stream δ) : j.Told .wrote none s.device s.syncAppend.device := by
  unfold syncAppend
  split
  · rcases call : Device.seek 0 .current s.device with ⟨f | pos, d⟩
    · exact told_passed call rfl
    · exact Told.stands (told_seek call)
  · exact told_refl

theorem notify_journaled (s : Stream δ) :
    j.Told .plain (failure? s.notify.1) s.device s.notify.2.device := by
  unfold notify
  rcases call : Device.flush s.device with ⟨f | _, d⟩
  · exact told_flush call
  · exact told_flush call

theorem afterAll_journaled (s : Stream δ) (d : δ) : j.Told .wrote none d (s.afterAll d).device := by
  rw [afterAll_eq]
  exact syncAppend_journaled ({ s with
    device := d, base := s.base + s.buffer.cursor, buffer := s.buffer.forgetOutput } : Stream δ)

theorem drain_journaled (s : Stream δ) :
    j.Told .plain (failure? s.drain.1) s.device s.drain.2.device := by
  induction s using drain_induct with
  | idle s h0 =>
    rw [drain_idle h0]
    exact told_refl
  | lacking s h0 able =>
    rw [drain_lacking h0 able]
    exact told_refl
  | refused s r d h0 able call none =>
    rw [drain_refusal h0 able call none]
    exact told_refused call none
  | part s n d able call some lt ih =>
    rw [drain_part able call some lt]
    exact Told.behind ih.stands call some
  | all s n d able call some le =>
    rw [drain_all able call some le]
    have told := (afterAll_journaled (j := j) s d).trans (notify_journaled _)
    exact told.behind call (Nat.lt_of_lt_of_le some le)

theorem flush_journaled (s : Stream δ) :
    j.Told .plain (failure? s.flush.1) s.device s.flush.2.device := by
  unfold flush
  split
  · exact drain_journaled s
  · exact told_refl

theorem setStrategy_journaled (b : Buffering) (s : Stream δ) :
    j.Told .plain (failure? (s.setStrategy b).1) s.device (s.setStrategy b).2.device := by
  have told := flush_journaled (j := j) s
  unfold setStrategy
  rcases hf : s.flush with ⟨f | _, u⟩ <;> rw [hf] at told
  · exact told
  · exact told

theorem turnToRead_journaled (s : Stream δ) :
    j.Told .plain (failure? s.turnToRead.1) s.device s.turnToRead.2.device := by
  have told := drain_journaled (j := j) s
  unfold turnToRead
  split
  · rcases hd : s.drain with ⟨f | _, u⟩ <;> rw [hd] at told
    · exact told
    · exact told
  · exact told_refl

/-- an operation that turns the stream first meets what it meets on a stream that reads already -/
theorem turned_journaled {stop : Option Fault} {d : δ} (h : s.turnToRead = (.ok (), u))
    (told : j.Told .plain stop u.device d) : j.Told .plain stop s.device d := by
  have turn := turnToRead_journaled (j := j) s
  rw [h] at turn
  exact Told.trans turn told

theorem moveDevice_journaled (off : Int) (w : Whence) (s : Stream δ) :
    j.Told .plain (failure? (s.moveDevice off w).1) s.device (s.moveDevice off w).2.device := by
  unfold moveDevice
  dsimp only
  generalize (if w = .current then off - s.ahead else off) = target
  split
  · exact told_refl
  · rcases call : Device.seek target w s.device with ⟨f | pos, d⟩
    · exact told_seek call
    · exact told_seek call

/-- where a turn to writing goes on, its move is passed over -/
theorem moveDevice_passed (h : s.moveDevice 0 .current = (.error f, u))
    (cannot : f.errno = Errno.cannotSeek) : j.Told .turning none s.device u.device := by
  rw [moveDevice, if_pos rfl] at h
  split at h
  · cases h
    exact told_refl
  · rcases call : Device.seek (0 - (s.ahead : Int)) .current s.device with ⟨g | pos, d⟩
    · rw [call] at h
      cases h
      exact told_passed call (beq_iff_eq.mpr cannot)
    · rw [call] at h
      cases h

/-- a stream that reads has to turn before it writes -/
def outset (s : Stream δ) : Stance := if s.writing then .plain else .turning

theorem turnToWrite_journaled (s : Stream δ) :
    j.Told s.outset (failure? s.turnToWrite.1) s.device s.turnToWrite.2.device := by
  unfold turnToWrite
  split
  · exact told_refl
  · next reading =>
    rw [outset, if_neg reading]
    split
    · have told := moveDevice_journaled (j := j) 0 .current s
      rcases hm : s.moveDevice 0 .current with ⟨f | pos, u⟩ <;> rw [hm] at told
      · dsimp only
        split
        · next cannot =>
          have passed : j.Told .turning none s.device u.device := moveDevice_passed hm cannot
          exact passed
        · exact told.stands
      · exact told.stands
    · exact told_refl

theorem seek_journaled (off : Int) (w : Whence) (s : Stream δ) :
    j.Told .plain (failure? (s.seek off w).1) s.device (s.seek off w).2.device := by
  have turn := turnToRead_journaled (j := j) s
  unfold seek
  split
  · rcases ht : s.turnToRead with ⟨f | _, u⟩
    · rw [ht] at turn
      exact turn
    · have told := moveDevice_journaled (j := j) off w u
      dsimp only
      rcases hm : u.moveDevice off w with ⟨f | pos, v⟩ <;> rw [hm] at told
      · exact turned_journaled ht told
      · exact turned_journaled ht told
  · exact told_refl

theorem rewind_journaled (s : Stream δ) :
    j.Told .plain (failure? s.rewind.1) s.device s.rewind.2.device := by
  have told := seek_journaled (j := j) 0 .start s
  unfold rewind
  rcases hs : s.seek 0 .start with ⟨f | pos, u⟩ <;> rw [hs] at told
  · exact told
  · exact told

/-! ## reading -/

theorem fill_journaled (s : Stream δ) :
    j.Told .plain (failure? s.fill.1) s.device s.fill.2.device := by
  unfold fill
  dsimp only
  split
  · rcases call : Device.read s.buffer.capacity s.device with ⟨f | got, d⟩
    · exact told_read call
    · dsimp only
      split
      · exact told_read call
      · exact told_read call
  · exact told_refl

theorem stock_journaled (s : Stream δ) :
    j.Told .plain (failure? s.stock.1) s.device s.stock.2.device := by
  unfold stock
  split
  · exact fill_journaled s
  · exact told_refl

theorem pull_journaled (n : Nat) (s : Stream δ) :
    j.Told .plain (s.pull n).1.stop s.device (s.pull n).2.device := by
  fun_induction pull n s with
  | case1 s => exact told_refl
  | case2 n s hn bytes d call => exact told_read call
  | case3 n s hn bytes c d call k t u hp ih =>
    rw [hp] at ih
    exact Told.trans (told_read call) ih
  | case4 n s hn e d call => exact told_read call

theorem readDirect_journaled (n : Nat) (s : Stream δ) :
    j.Told .plain (s.readDirect n).1.stop s.device (s.readDirect n).2.device := by
  unfold readDirect
  dsimp only
  split
  · exact told_refl
  · split
    · exact pull_journaled _ _
    · exact told_refl

theorem readStocked_journaled (n : Nat) (s : Stream δ) :
    j.Told .plain (s.readStocked n).1.stop s.device (s.readStocked n).2.device := by
  fun_induction readStocked n s with
  | case1 s => exact told_refl
  | case2 n s hn e u hs =>
    have told := stock_journaled (j := j) s
    rw [hs] at told
    exact told
  | case3 n s hn u hs dry =>
    have told := stock_journaled (j := j) s
    rw [hs] at told
    exact told
  | case4 n s hn u hs full k t v hv ih =>
    have told := stock_journaled (j := j) s
    rw [hs] at told
    rw [hv] at ih
    exact Told.trans told ih

theorem intake_journaled (n : Nat) (s : Stream δ) :
    j.Told .plain (s.intake n).1.stop s.device (s.intake n).2.device := by
  have turn := turnToRead_journaled (j := j) s
  unfold intake
  rcases ht : s.turnToRead with ⟨f | _, u⟩
  · rw [ht] at turn
    exact turn
  · refine turned_journaled ht ?_
    dsimp only
    split
    · exact told_refl
    · split
      · exact readDirect_journaled _ _
      · exact readStocked_journaled _ _

theorem peek_journaled (s : Stream δ) :
    j.Told .plain (failure? s.peek.1) s.device s.peek.2.device := by
  have turn := turnToRead_journaled (j := j) s
  unfold peek
  rcases ht : s.turnToRead with ⟨f | _, u⟩
  · rw [ht] at turn
    exact turn
  · refine turned_journaled ht ?_
    dsimp only
    split
    · exact told_refl
    · have told := stock_journaled (j := j) u
      rcases hs : u.stock with ⟨f | _, v⟩ <;> rw [hs] at told
      · exact told
      · exact told

theorem unread_journaled (bytes : Bytes) (s : Stream δ) :
    j.Told .plain (failure? (s.unread bytes).1) s.device (s.unread bytes).2.device := by
  have turn := turnToRead_journaled (j := j) s
  unfold unread
  rcases ht : s.turnToRead with ⟨f | _, u⟩
  · rw [ht] at turn
    exact turn
  · refine turned_journaled ht ?_
    dsimp only
    split
    · exact told_refl
    · exact told_refl

theorem collect_journaled (room : Option Nat) (size : Nat) (s : Stream δ) (done : Stream Memory) :
    j.Told .plain (failure? (s.collect room size done).1) s.device
      (s.collect room size done).2.2.device := by
  have peeked : ∀ {s u : Stream δ} {r : Except Fault Bytes}, s.peek = (r, u) →
      j.Told .plain (failure? r) s.device u.device := by
    intro s u r hp
    have told := peek_journaled (j := j) s
    rwa [hp] at told
  have skipped : ∀ {s u : Stream δ} {q : Except Fault Unit} {n : Nat}, s.skip n = (q, u) →
      u.device = s.device := by
    intro s u q n hk
    have same := skip_device n s
    rwa [hk] at same
  fun_induction collect room size s done with
  | case1 => exact told_refl
  | case2 _ _ _ _ _ _ _ hp => exact peeked hp
  | case3 _ _ _ _ _ _ _ hp => exact peeked hp
  -- a line that is too long, or for which the scratch stream has no room
  | case4 _ _ _ _ _ _ _ hp => exact Told.clean (peeked hp)
  | case5 _ _ _ _ _ _ _ hp => exact Told.clean (peeked hp)
  | case6 _ _ _ _ _ _ _ hp _ _ _ _ _ _ _ hk =>
    rw [skipped hk]
    exact Told.clean (peeked hp)
  | case7 _ _ _ _ _ _ _ hp _ _ _ _ _ _ hk =>
    rw [skipped hk]
    exact peeked hp
  | case8 _ _ _ _ _ _ _ hp _ _ _ _ _ _ hk _ ih =>
    rw [skipped hk] at ih
    exact Told.trans (peeked hp) ih

theorem readLine_journaled (limit : Nat) (line : Bytes) (s : Stream δ) :
    j.Told .plain (failure? (s.readLine limit line).1) s.device
      (s.readLine limit line).2.2.device := by
  have told := collect_journaled (j := j) (lineRoom limit) 0 s scratch
  rw [readLine_device]
  unfold readLine nextLine
  rcases hc : s.collect (lineRoom limit) 0 scratch with ⟨f | size, done, u⟩ <;> rw [hc] at told
  · exact told
  · -- reading the line back asks nothing of the device
    exact Told.clean told

/-! ## writing -/

theorem push_journaled (bytes : Bytes) (s : Stream δ) (st : Stance)
    (behind : bytes = [] → st = .wrote) :
    j.Told st (s.push bytes).1.stop s.device (s.push bytes).2.device := by
  fun_induction push bytes s generalizing st with
  | case1 bytes s h0 =>
    rw [behind (List.length_eq_zero_iff.mp h0)]
    exact syncAppend_journaled s
  | case2 bytes s h0 d call => exact Told.stands (told_refused call (by rintro n ⟨⟩; rfl))
  | case3 bytes s h0 n d call k t u hp ih =>
    rw [hp] at ih
    exact Told.behind (ih .wrote fun _ => rfl) call (Nat.succ_pos n)
  | case4 bytes s h0 f d call => exact Told.stands (told_refused call (by rintro n ⟨⟩))

theorem writeDirect_journaled {bytes : Bytes} (some : bytes ≠ []) (s : Stream δ) :
    j.Told .plain (s.writeDirect bytes).1.stop s.device (s.writeDirect bytes).2.device := by
  have told := drain_journaled (j := j) s
  unfold writeDirect
  rcases hd : s.drain with ⟨f | _, u⟩ <;> rw [hd] at told
  · exact told
  · refine Told.trans told ?_
    dsimp only
    split
    · exact push_journaled bytes u .plain fun none => absurd none some
    · exact told_refl

theorem makeSpace_journaled (s : Stream δ) :
    j.Told .plain (failure? s.makeSpace.1) s.device s.makeSpace.2.device := by
  unfold makeSpace
  split
  · exact drain_journaled s
  · exact told_refl

theorem stow_journaled (bytes : Bytes) (s : Stream δ) :
    j.Told .plain (s.stow bytes).1.stop s.device (s.stow bytes).2.device := by
  fun_induction stow bytes s with
  | case1 bytes s h0 => exact told_refl
  | case2 bytes s h0 f u hm =>
    have told := makeSpace_journaled (j := j) s
    rw [hm] at told
    exact told
  | case3 bytes s h0 u hm full =>
    have told := makeSpace_journaled (j := j) s
    rw [hm] at told
    exact told
  | case4 bytes s h0 u hm full k t v hv ih =>
    have told := makeSpace_journaled (j := j) s
    rw [hm] at told
    rw [hv] at ih
    exact Told.trans told ih

theorem writeLines_journaled (bytes : Bytes) (s : Stream δ) :
    j.Told .plain (s.writeLines bytes).1.stop s.device (s.writeLines bytes).2.device := by
  unfold writeLines
  rcases hb : splitLastLine? bytes with _ | ⟨lines, tail⟩
  · exact stow_journaled bytes s
  · have told := writeDirect_journaled (j := j) (splitLastLine?_ne_nil hb) s
    dsimp only
    rcases hd : s.writeDirect lines with ⟨⟨count, _ | f⟩, u⟩ <;> rw [hd] at told
    · exact Told.trans told (stow_journaled tail u)
    · exact told

theorem emit_journaled {bytes : Bytes} (some : bytes ≠ []) (s : Stream δ) :
    j.Told s.outset (s.emit bytes).1.stop s.device (s.emit bytes).2.device := by
  have turn := turnToWrite_journaled (j := j) s
  unfold emit
  rcases ht : s.turnToWrite with ⟨f | _, u⟩ <;> rw [ht] at turn
  · exact turn
  · refine Told.trans turn ?_
    dsimp only
    split
    · exact writeDirect_journaled some u
    · exact stow_journaled bytes u
    · exact writeLines_journaled bytes u

/-! ## what makes a flush fail -/

/-- a drain of a device that can be written fails by a call -/
theorem drain_met (valid : j.valid s.device) (able : s.abilities.write = true)
    (takes : (Device.abilities s.device).write = true) (h : s.drain = (.error f, u)) :
    ∃ new, j.log u.device = j.log s.device ++ new ∧ f ∈ Event.faults .wrote new := by
  induction s using drain_induct with
  | idle s h0 =>
    rw [drain_idle h0] at h
    cases h
  | lacking s h0 unable =>
    rw [able] at unable
    cases unable
  | refused s r d h0 _ call none =>
    rw [drain_refusal h0 able call none] at h
    cases h
    obtain ⟨-, -, entered | ⟨-, lacks, -⟩⟩ := j.write valid call
    · exact ⟨_, entered, Event.mem_faults_single.mpr ⟨rfl, fault_refusal none⟩⟩
    · rw [takes] at lacks
      cases lacks
  | part s n d _ call some lt ih =>
    obtain ⟨left, same, entered⟩ := entered_wrote valid call
    obtain ⟨new, log, met⟩ := ih left able (same.trans takes) (drain_part able call some lt ▸ h)
    refine ⟨.write s.buffer.pending (.ok n) :: new, ?_, ?_⟩
    · rw [log, List.append_cons, ← entered]
      rfl
    · rw [Event.faults, List.mem_append]
      exact .inr met
  | all s n d _ call some le =>
    rw [drain_all able call some le] at h
    obtain ⟨left, -, entered⟩ := entered_wrote valid call
    obtain ⟨left, between, log, -⟩ := afterAll_journaled s d left
    rcases told : Device.flush (s.afterAll d).device with ⟨g | _, d'⟩
    · rw [notify, told] at h
      cases h
      obtain ⟨-, entered' | ⟨-, ok⟩⟩ := j.flush left told
      · refine ⟨.write s.buffer.pending (.ok n) :: between ++ [.flush (.error f)], ?_, ?_⟩
        · show j.log d' = _
          rw [entered', log, entered]
          simp
        · obtain ⟨st, eq⟩ := Event.faults_append .wrote
            (.write s.buffer.pending (.ok n) :: between) [.flush (.error f)]
          rw [eq, List.mem_append]
          exact .inr (Event.mem_faults_single.mpr ⟨by cases st <;> rfl, rfl⟩)
      · cases ok
    · rw [notify, told] at h
      cases h

/-- does output wait that no device can be asked to take? -/
def stranded (s : Stream δ) : Bool :=
  s.writing && s.buffer.pendingSize != 0 &&
    !(s.abilities.write && (Device.abilities s.device).write)

theorem flush_met (valid : j.valid s.device) (able : s.stranded = false)
    (h : s.flush = (.error f, u)) :
    ∃ new, j.log u.device = j.log s.device ++ new ∧ f ∈ Event.faults .wrote new := by
  unfold flush at h
  split at h
  · next w =>
    have some : s.buffer.pendingSize ≠ 0 := by
      intro none
      rw [drain_idle none] at h
      cases h
    have both : (s.abilities.write && (Device.abilities s.device).write) = true := by
      simpa [stranded, w, some] using able
    obtain ⟨announced, takes⟩ := Bool.and_eq_true_iff.mp both
    exact drain_met valid announced takes h
  · cases h

theorem release_journaled (s : Stream δ) :
    j.Told .plain (failure? s.release.1) s.device s.release.2.device := by
  unfold release
  split
  · exact told_close rfl
  · exact told_refl

/-- a close that fails answers with the first failure that it meets, whatever the device is asked
afterwards -/
theorem close_met (valid : j.valid s.device) :
    j.valid s.close.2.device ∧ ∃ new, j.log s.close.2.device = j.log s.device ++ new ∧
      ∀ f g, s.stranded = false → s.close.1 = .error f →
        (Event.faults .plain new).head? = some g → f = g := by
  by_cases closed : s.closed = true
  · rw [close, if_pos closed]
    refine ⟨valid, [], (List.append_nil _).symm, ?_⟩
    intro f g _ failed
    cases failed
  rw [close, if_neg closed]
  rcases hf : s.flush with ⟨r, u⟩
  have flushed := flush_journaled (j := j) s valid
  rw [hf] at flushed
  obtain ⟨left, during, log, met⟩ := flushed
  obtain ⟨last, after, log', met'⟩ := release_journaled u left
  obtain ⟨st, eq⟩ := Event.faults_append .plain during after
  refine ⟨last, during ++ after, ?_, ?_⟩
  · show j.log u.release.2.device = _
    rw [log', log, List.append_assoc]
  intro f g able failed first
  rw [eq] at first
  cases r with
  | ok _ =>
    have failed : u.release.1 = .error f := failed
    have none : Event.faults .plain during = [] :=
      List.eq_nil_iff_forall_not_mem.mpr fun e mem => by cases met e mem
    rw [none, List.nil_append] at first
    have told := met' g (Event.faults_plain (List.mem_of_head? first))
    rw [failed] at told
    exact Option.some_inj.mp told
  | error e =>
    have failed : (.error e : Except Fault Unit) = .error f := failed
    obtain rfl := Except.error.inj failed
    -- the flush has met something, so nothing that follows is the first failure
    obtain ⟨new, again, mem⟩ := flush_met valid able hf
    rw [List.append_cancel_left (again.symm.trans log)] at mem
    have some := List.ne_nil_of_mem (Event.faults_plain mem)
    rw [List.head?_append, Option.or_of_isSome (List.isSome_head?.mpr some)] at first
    exact Option.some_inj.mp (met g (List.mem_of_head? first))

end Stream

/-! ## every operation -/

/-- a read that some failure stopped answers with it, if it moved nothing -/
theorem Intake.stop_shown (t : Intake) :
    t.stop = failure? t.result ∨ failure? t.result = none ∧ t.bytes ≠ [] := by
  rcases hr : t.result with f | bytes
  · exact .inl (Intake.result_eq_error.mp hr).2
  · obtain ⟨moved, some⟩ := Intake.result_ok hr
    by_cases clean : t.stop = none
    · exact .inl clean
    · exact .inr ⟨rfl, moved ▸ some clean⟩

theorem Outcome.stop_shown (t : Outcome) :
    t.stop = failure? t.result ∨ failure? t.result = none ∧ t.count ≠ 0 := by
  unfold result
  rcases t.stop with _ | f
  · exact .inl rfl
  · by_cases none : t.count = 0
    · exact .inl (by rw [none]; rfl)
    · exact .inr ⟨by dsimp only; rw [if_neg none]; rfl, none⟩

/-- the calls between two device states, and the failure that counts among them: it is the one that
the user is shown, unless something was moved -/
def Journal.Shown {δ : Type} [Device δ] (j : Journal δ) (st : Stance) (shown : Option Fault)
    (moved : Nat) (d d' : δ) : Prop :=
  ∃ stop, j.Told st stop d d' ∧ (stop = shown ∨ shown = none ∧ moved ≠ 0)

theorem Journal.Told.shown {δ : Type} [Device δ] {j : Journal δ} {st : Stance}
    {stop : Option Fault} {d d' : δ} (h : j.Told st stop d d') (moved : Nat) :
    j.Shown st stop moved d d' :=
  ⟨stop, h, .inl rfl⟩

namespace Stream

variable {δ : Type} [Device δ] {j : Journal δ}

theorem read_shown (n : Nat) (s : Stream δ) :
    j.Shown .plain (failure? (s.read n).1) ((Op.read n).given s).length s.device
      (s.read n).2.device := by
  by_cases zero : n = 0
  · rw [read, if_pos zero]
    exact Journal.told_refl.shown _
  · rw [read_eq zero, Op.given, if_neg zero]
    refine ⟨_, intake_journaled n s, ?_⟩
    rcases Intake.stop_shown (s.intake n).1 with same | ⟨ok, some⟩
    · exact .inl same
    · exact .inr ⟨ok, fun e => some (List.length_eq_zero_iff.mp e)⟩

theorem write_shown (bytes : Bytes) (s : Stream δ) :
    j.Shown s.outset (failure? (s.write bytes).1) ((Op.write bytes).taken s).length s.device
      (s.write bytes).2.device := by
  unfold write
  split
  · exact Journal.told_refl.shown _
  · next some =>
    have some : bytes ≠ [] := fun e => some (List.isEmpty_iff.mpr e)
    refine ⟨_, emit_journaled some s, ?_⟩
    rcases Outcome.stop_shown (s.emit bytes).1 with same | ⟨ok, moved⟩
    · exact .inl same
    · refine .inr ⟨ok, ?_⟩
      have length_pos := List.length_pos_iff.mpr some
      rw [Op.taken, List.length_take]
      omega

theorem writeAll_journaled {bytes : Bytes} (some : bytes ≠ []) (s : Stream δ) :
    j.Told s.outset (failure? (s.writeAll bytes).1) s.device (s.writeAll bytes).2.device := by
  have told := emit_journaled (j := j) some s
  rw [writeAll_snd]
  unfold writeAll
  dsimp only
  rcases hs : (s.emit bytes).1.stop with _ | f <;> rw [hs] at told
  · exact told.clean
  · exact told

end Stream

namespace Op

variable {δ : Type} [Device δ] {j : Journal δ}

/-- where the first call of an operation stands -/
def stance (s : Stream δ) : Op → Stance
  | write _ | writeAll _ | putc _ => s.outset
  | _ => .plain

/-- An operation that fails meets the failure that the user is told of, and no other.  It meets none
if it succeeds, unless it moved something before it was stopped. -/
theorem shown (op : Op) (s : Stream δ) (kept : op ≠ .writeAll []) :
    j.Shown (op.stance s) (op.fault? s) (op.moved s) s.device (op.run s).device := by
  cases op with
  | read n => exact Stream.read_shown n s
  | getc =>
    show j.Shown .plain (failure? ((s.read 1).1.map List.head?)) _ _ _
    rw [failure?_map]
    exact Stream.read_shown 1 s
  | peek => exact (Stream.peek_journaled s).shown _
  | skip n =>
    show j.Shown .plain _ _ s.device (s.skip n).2.device
    rw [Stream.skip_device]
    exact Journal.told_refl.shown _
  | unread bytes => exact (Stream.unread_journaled bytes s).shown _
  | readLine limit line => exact (Stream.readLine_journaled limit line s).shown _
  | write bytes =>
    have shown := Stream.write_shown (j := j) bytes s
    rw [← Nat.zero_add ((Op.write bytes).taken s).length] at shown
    exact shown
  | writeAll bytes => exact (Stream.writeAll_journaled (fun e => kept (e ▸ rfl)) s).shown _
  | putc byte => exact (Stream.writeAll_journaled (List.cons_ne_nil byte []) s).shown _
  | seek off w => exact (Stream.seek_journaled off w s).shown _
  | rewind => exact (Stream.rewind_journaled s).shown _
  | flush => exact (Stream.flush_journaled s).shown _
  | setStrategy b => exact (Stream.setStrategy_journaled b s).shown _

end Op

end BufferedStreams
