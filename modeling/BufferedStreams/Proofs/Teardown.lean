import BufferedStreams.Proofs.Calls
import BufferedStreams.Proofs.Marks

/-!
# The end of a stream

A stream leaves its desk when it is closed, with its storage taken or not, or dropped.  Each of these
goes through to its end: what fails on the way is remembered, the first failure is what the caller
gets, and everything else is done all the same.

* `Ending`, `Desk.tearDown`   the ways to go, each with the drop that follows it;
* `Recorded.closings`         what the closes of a device answered;
* `Stream.close_steps`        a close flushes, then closes the device, and answers with what failed first;
* `Desk.close_vacates`        a slot is given up: the other handles name what they named, and one more
                              stream counts as closed;
* `Ending.Done`               all of this for one ending.
-/

namespace BufferedStreams

/-! ## what a device hears at the end -/

/-- the answer, if a call was a close -/
def Event.closing? : Event → Option (Except Fault Unit)
  | close r => some r
  | _ => none

namespace Recorded

variable {δ : Type} {d d' : Recorded δ}

/-- what the closes of a device answered, the first one first -/
def closings (d : Recorded δ) : List (Except Fault Unit) := d.events.filterMap Event.closing?

/-- an open stream does not close its device -/
theorem Within.closings {a : Abilities} (h : d.Within a d') : d'.closings = d.closings := by
  obtain ⟨calls, events, allowed⟩ := h
  have none : calls.filterMap Event.closing? = [] := by
    refine List.filterMap_eq_nil_iff.mpr fun e mem => ?_
    have := allowed e mem
    cases e with
    | close r => cases this
    | _ => rfl
  rw [Recorded.closings, events, List.filterMap_append, none, List.append_nil, Recorded.closings]

theorem closings_close [Device δ] {r : Except Fault Unit} (h : Device.close d = (r, d')) :
    d'.closings = d.closings ++ [r] := by
  rw [closings, events_close h, List.filterMap_append, closings]
  rfl

end Recorded

namespace Stream

variable {δ : Type} [Device δ] {s : Stream (Recorded δ)}

theorem release_closings (s : Stream (Recorded δ)) :
    s.release.2.device.closings =
      s.device.closings ++ if s.abilities.close then [s.release.1] else [] := by
  rw [release]
  split
  · rcases call : Device.close s.device with ⟨c, d⟩
    exact Recorded.closings_close call
  · exact (List.append_nil _).symm

/-- whatever its flush does, a close closes the device once, if that can be closed; the failure of the
flush comes before the failure `c` of the close -/
theorem close_steps (opn : s.closed = false) :
    ∃ c, s.close.1 = (do s.flush.1; c) ∧ (s.abilities.close = false → c = .ok ()) ∧
      s.close.2.device.closings =
        s.device.closings ++ if s.abilities.close then [c] else [] := by
  have path : Path false s [] [] s.flush.2 := flush_path
  have closings := release_closings s.flush.2
  rw [path.constant.2.1, path.within.closings] at closings
  have goes : s.close = (do s.flush.1; s.flush.2.release.1, s.flush.2.release.2.retire) := by
    rw [close, if_neg (by simp [opn])]
    rcases s.flush with ⟨_ | _, u⟩ <;> rfl
  rw [goes]
  refine ⟨s.flush.2.release.1, rfl, ?_, closings⟩
  intro unable
  rw [← path.constant.2.1] at unable
  rw [release, if_neg (by simp [unable])]

theorem close_again (s : Stream δ) : s.close.2.close = (.ok (), s.close.2) := by
  rw [close, if_pos (close_closed s)]

end Stream

namespace Desk

variable {δ σ : Type} {k k' : Desk δ σ} {h : Handle} {s : Stream δ}

/-! ## a slot changes hands -/

/-- what the streams in a list of slots counted as gone -/
def gone : List (Slot δ) → UInt64
  | [] => 0
  | slot :: rest => (slot.tenant.elim 0 fun s => s.tally.closed) + gone rest

theorem tally_closed (k : Desk δ σ) : k.tally.closed = k.retired.closed + gone k.slots := by
  have sum (slots : List (Slot δ)) : ∀ t : Tally,
      ({ k with slots, retired := t } : Desk δ σ).tally.closed = t.closed + gone slots := by
    induction slots with
    | nil =>
      intro t
      exact (UInt64.add_zero _).symm
    | cons slot rest ih =>
      intro t
      obtain ⟨generation, _ | s⟩ := slot
      · exact (ih t).trans (congrArg (t.closed + ·) (UInt64.zero_add _).symm)
      · exact (ih (t + s.tally)).trans (UInt64.add_assoc _ _ _)
  exact sum k.slots k.retired

theorem gone_set {slots : List (Slot δ)} {i : Nat} {slot : Slot δ} (here : slots[i]? = some slot)
    (slot' : Slot δ) :
    gone (slots.set i slot') + (slot.tenant.elim 0 fun s => s.tally.closed) =
      gone slots + (slot'.tenant.elim 0 fun s => s.tally.closed) := by
  induction slots generalizing i with
  | nil => cases here
  | cons first rest ih =>
    cases i with
    | zero =>
      obtain rfl : first = slot := by simpa using here
      rw [List.set_cons_zero, gone, gone, UInt64.add_comm _ (gone rest), UInt64.add_assoc,
        UInt64.add_comm _ (first.tenant.elim _ _), ← UInt64.add_assoc,
        UInt64.add_comm (gone rest)]
    | succ i =>
      rw [List.set_cons_succ, gone, gone, UInt64.add_assoc, ih (by simpa using here),
        UInt64.add_assoc]

theorem slot_of_find? (named : k.find? h = some s) :
    k.slots[h.index]? = some ⟨h.generation, some s⟩ := by
  rw [find?] at named
  cases here : k.slots[h.index]? with
  | none =>
    rw [here] at named
    cases named
  | some slot =>
    rw [here] at named
    obtain ⟨generation, tenant⟩ := slot
    dsimp only at named
    split at named
    · next same =>
      subst same named
      rfl
    · cases named

/-- two handles of one slot differ in their generations -/
theorem generation_ne {h h' : Handle} (other : h' ≠ h) (here : h.index = h'.index) :
    h.generation ≠ h'.generation := by
  intro same
  obtain ⟨index, generation⟩ := h
  obtain ⟨index', generation'⟩ := h'
  obtain ⟨rfl, rfl⟩ : index = index' ∧ generation = generation' := ⟨here, same⟩
  exact other rfl

/-- the other handles do not notice what happens to the slot of one, as long as the slot has no tenant
for them -/
theorem find?_elsewhere {slot : Slot δ} (named : k.find? h = some s)
    (slots : k'.slots = k.slots.set h.index slot)
    (own : slot.generation = h.generation ∨ slot.tenant = none) (h' : Handle) (other : h' ≠ h) :
    k'.find? h' = k.find? h' := by
  rw [find?, find?, slots]
  by_cases here : h.index = h'.index
  · have later := generation_ne other here
    have lt : h.index < k.slots.length := (List.getElem?_eq_some_iff.mp (slot_of_find? named)).1
    rw [← here, List.getElem?_set_self lt, slot_of_find? named]
    dsimp only
    rw [if_neg later]
    rcases own with same | empty
    · rw [if_neg (same ▸ later)]
    · rw [empty, ite_self]
  · rw [List.getElem?_set_ne here]

variable [Shares δ σ]

/-- a stream with what is shared on loan -/
def loan (k : Desk δ σ) (s : Stream δ) : Stream δ := { s with device := Shares.lend k.shared s.device }

theorem visit_found {α : Type} (named : k.find? h = some s) (f : Stream δ → α × Stream δ) :
    k.visit h f = some ((f (k.loan s)).1, { k.replace h (f (k.loan s)).2 with
      shared := Shares.settle (f (k.loan s)).2.device k.shared }) := by
  rw [visit, named]
  rfl

variable [Device δ]

/-- a stream is closed once it has given its slot up -/
theorem close_vacates (named : k.find? h = some s) :
    ∃ k', k.close h = some ((k.loan s).close.1, (k.loan s).close.2, k') ∧
      k'.find? h = none ∧ (∀ h', h' ≠ h → k'.find? h' = k.find? h') ∧
      k'.tally.closed = k.tally.closed + 1 := by
  rw [close, remove, named]
  refine ⟨_, rfl, find?_vacated (k := k) rfl, find?_elsewhere named rfl (.inr rfl), ?_⟩
  -- what the stream itself counted goes with it to the retired ones
  have same : (k.loan s).close.2.tally.closed = s.tally.closed :=
    congrArg Prod.snd ((k.loan s).close_turnover)
  have moved := gone_set (slot_of_find? named) ⟨h.generation + 1, none⟩
  dsimp only [Option.elim] at moved
  rw [UInt64.add_zero] at moved
  rw [tally_closed, tally_closed, ← moved]
  show k.retired.closed + (k.loan s).close.2.tally.closed + 1 + gone (k.slots.set _ _) = _
  rw [same]
  ac_rfl

/-- the desk on which a stream is closed after its storage was asked for -/
def snatching (k : Desk δ σ) (h : Handle) (s : Stream δ) : Desk δ σ :=
  { k.replace h (k.loan s).snatch.2 with
    shared := Shares.settle (k.loan s).snatch.2.device k.shared }

/-- that stream, with what is shared on loan once more -/
def snatched (k : Desk δ σ) (h : Handle) (s : Stream δ) : Stream δ :=
  (k.snatching h s).loan (k.loan s).snatch.2

theorem snatching_found (named : k.find? h = some s) :
    (k.snatching h s).find? h = some (k.loan s).snatch.2 :=
  find?_replace named _

theorem snatching_others (named : k.find? h = some s) (h' : Handle) (other : h' ≠ h) :
    (k.snatching h s).find? h' = k.find? h' :=
  find?_elsewhere named rfl (.inl rfl) h' other

theorem snatching_tally (named : k.find? h = some s) :
    (k.snatching h s).tally.closed = k.tally.closed := by
  have same : (k.loan s).snatch.2.tally.closed = s.tally.closed :=
    congrArg Prod.snd ((k.loan s).snatch_turnover)
  have moved := gone_set (slot_of_find? named) ⟨h.generation, some (k.loan s).snatch.2⟩
  dsimp only [Option.elim] at moved
  rw [same] at moved
  rw [tally_closed, tally_closed]
  show k.retired.closed + gone (k.slots.set _ _) = _
  rw [(UInt64.add_left_inj _).mp moved]

end Desk

/-! ## the ways to go -/

/-- how a stream leaves its desk -/
inductive Ending where
  /-- it is closed -/
  | close
  /-- it is closed by someone who has the desk in hand -/
  | closeWithin
  /-- it is closed, and its storage is taken -/
  | closeSnatch
  /-- it is dropped, and what a close of it answers is only logged -/
  | drop
  deriving DecidableEq, Repr

namespace Desk

variable {δ σ : Type} [Shares δ σ] [Device δ]

/-- the desk after a stream was dropped, if there was one -/
def dropped (k : Desk δ σ) (h : Handle) : Desk δ σ :=
  match k.close h with
  | some (_, _, k') => k'
  | none => k

/-- ends a stream.  Whoever closes it drops it afterwards. -/
def tearDown (k : Desk δ σ) (h : Handle) :
    Ending → Option (Except Fault (Option Bytes) × Stream δ × Desk δ σ)
  | .close | .closeWithin => (k.close h).map fun (r, s, k) => (r.map fun _ => none, s, k.dropped h)
  | .closeSnatch => (k.closeSnatch h).map fun (r, s, k) => (r.map some, s, k.dropped h)
  | .drop => (k.close h).map fun (r, s, k) => (r.map fun _ => none, s, k)

/-- a drop after the end finds no stream -/
theorem dropped_gone {k : Desk δ σ} {h : Handle} (gone : k.find? h = none) : k.dropped h = k := by
  rw [dropped, close, remove, gone]

end Desk

/-- What the caller gets: the first failure, `c` being the answer of the device to its close.  The
storage is taken before the stream is closed, which flushes once more. -/
def Ending.answer {δ σ : Type} [Shares δ σ] [Device δ] (k : Desk δ σ) (h : Handle) (s : Stream δ)
    (c : Except Fault Unit) : Ending → Except Fault (Option Bytes)
  | .closeSnatch => do
    let bytes ← (k.loan s).snatch.1
    (k.snatched h s).flush.1
    c
    return some bytes
  | _ => do
    (k.loan s).flush.1
    c
    return none

/-- The stream `s` that `h` named on the desk `k` is gone from the desk `k'`, which is otherwise as `k`
was, and `s'` is what is left of it: its device was closed once, if it can be, and the caller got the
first failure. -/
structure Ending.Done {δ σ : Type} [Shares (Recorded δ) σ] [Device δ] (e : Ending)
    (k : Desk (Recorded δ) σ) (h : Handle) (s : Stream (Recorded δ)) (r : Except Fault (Option Bytes))
    (s' : Stream (Recorded δ)) (k' : Desk (Recorded δ) σ) : Prop where
  gone : k'.find? h = none
  others : ∀ h', h' ≠ h → k'.find? h' = k.find? h'
  counted : k'.tally.closed = k.tally.closed + 1
  shut : s'.closed = true ∧ s'.close = (.ok (), s')
  steps : ∃ c, s'.device.closings = s.device.closings ++ (if s.abilities.close then [c] else []) ∧
    (s.abilities.close = false → c = .ok ()) ∧ r = e.answer k h s c

namespace Desk

variable {δ σ : Type} [Shares (Recorded δ) σ] [Device δ] {k : Desk (Recorded δ) σ} {h : Handle}
  {s : Stream (Recorded δ)}

omit [Device δ] in
theorem loan_closings
    (silent : ∀ (shared : σ) (d : Recorded δ), (Shares.lend shared d).events = d.events)
    (k : Desk (Recorded δ) σ) (s : Stream (Recorded δ)) :
    (k.loan s).device.closings = s.device.closings :=
  congrArg (List.filterMap Event.closing?) (silent k.shared s.device)

theorem close_done
    (silent : ∀ (shared : σ) (d : Recorded δ), (Shares.lend shared d).events = d.events)
    (named : k.find? h = some s) (opn : s.closed = false) {e : Ending} (plain : e ≠ .closeSnatch) :
    ∃ r s' k', k.close h = some (r, s', k') ∧ e.Done k h s (r.map fun _ => none) s' k' := by
  obtain ⟨k', closed, gone, others, counted⟩ := close_vacates named
  obtain ⟨c, answer, unable, closings⟩ := Stream.close_steps (s := k.loan s) opn
  rw [loan_closings silent] at closings
  refine ⟨_, _, k', closed, gone, others, counted, ⟨Stream.close_closed _, Stream.close_again _⟩,
    c, closings, unable, ?_⟩
  rw [answer]
  have steps : e.answer k h s c = (do (k.loan s).flush.1; c; return none) := by
    cases e with
    | closeSnatch => exact absurd rfl plain
    | _ => rfl
  rw [steps]
  cases (k.loan s).flush.1 with
  | error f => rfl
  | ok _ => cases c <;> rfl

/-- the storage is asked for on the desk, and then the stream is closed as any other -/
theorem closeSnatch_done
    (silent : ∀ (shared : σ) (d : Recorded δ), (Shares.lend shared d).events = d.events)
    (named : k.find? h = some s) (opn : s.closed = false) :
    ∃ r s' k', k.closeSnatch h = some (r, s', k') ∧
      Ending.closeSnatch.Done k h s (r.map some) s' k' := by
  obtain ⟨within, abilities, closed⟩ := Stream.snatch_within (k.loan s)
  have stillOpen : (k.snatched h s).closed = false := closed.trans opn
  obtain ⟨k', shut, gone, others, counted⟩ :
      ∃ k', (k.snatching h s).close h =
          some ((k.snatched h s).close.1, (k.snatched h s).close.2, k') ∧
        k'.find? h = none ∧ (∀ h', h' ≠ h → k'.find? h' = (k.snatching h s).find? h') ∧
        k'.tally.closed = (k.snatching h s).tally.closed + 1 :=
    close_vacates (snatching_found named)
  obtain ⟨c, answer, unable, closings⟩ := Stream.close_steps stillOpen
  rw [snatched, loan_closings silent, within.closings, loan_closings silent] at closings
  rw [show (k.snatched h s).abilities = s.abilities from abilities] at unable
  rw [show (k.snatching h s).loan (k.loan s).snatch.2 = k.snatched h s from rfl,
    show (k.snatched h s).abilities = s.abilities from abilities] at closings
  have goes : k.closeSnatch h = some (do
      let bytes ← (k.loan s).snatch.1
      (k.snatched h s).close.1
      return bytes, (k.snatched h s).close.2, k') := by
    rw [closeSnatch, visit_found named]
    dsimp only
    rewrite [← snatching, shut]
    cases (k.loan s).snatch.1 <;> cases (k.snatched h s).close.1 <;> rfl
  refine ⟨_, _, k', goes, gone, ?_, ?_, ⟨Stream.close_closed _, Stream.close_again _⟩,
    c, closings, unable, ?_⟩
  · intro h' other
    rw [others h' other, snatching_others named h' other]
  · rw [counted, snatching_tally named]
  · rw [answer, Ending.answer]
    cases (k.loan s).snatch.1 with
    | error f => rfl
    | ok bytes =>
      cases (k.snatched h s).flush.1 with
      | error f => rfl
      | ok _ => cases c <;> rfl

/-- Take a desk with any streams, over devices that share whatever they share, and on it an open stream
in any state.  However the stream ends, and whatever fails then, the end is reached: the desk names it
no more and is otherwise unchanged, one more stream counts as closed, the device was closed if it can
be, once, and the caller has the first failure. -/
theorem teardown_completes
    (silent : ∀ (shared : σ) (d : Recorded δ), (Shares.lend shared d).events = d.events)
    (e : Ending) (k : Desk (Recorded δ) σ) (h : Handle) (s : Stream (Recorded δ))
    (named : k.find? h = some s) (opn : s.closed = false) :
    ∃ r s' k', k.tearDown h e = some (r, s', k') ∧ e.Done k h s r s' k' := by
  cases e with
  | closeSnatch =>
    obtain ⟨r, s', k', closed, done⟩ := closeSnatch_done silent named opn
    refine ⟨_, s', k', ?_, done⟩
    rw [tearDown, closed]
    exact congrArg (fun k => some (_, s', k)) (dropped_gone done.gone)
  | drop =>
    obtain ⟨r, s', k', closed, done⟩ := close_done silent named opn (e := .drop) (by decide)
    refine ⟨_, s', k', ?_, done⟩
    rw [tearDown, closed]
    rfl
  | close =>
    obtain ⟨r, s', k', closed, done⟩ := close_done silent named opn (e := .close) (by decide)
    refine ⟨_, s', k', ?_, done⟩
    rw [tearDown, closed]
    exact congrArg (fun k => some (_, s', k)) (dropped_gone done.gone)
  | closeWithin =>
    obtain ⟨r, s', k', closed, done⟩ := close_done silent named opn (e := .closeWithin) (by decide)
    refine ⟨_, s', k', ?_, done⟩
    rw [tearDown, closed]
    exact congrArg (fun k => some (_, s', k)) (dropped_gone done.gone)

/-- output waits that the device refuses three times, each time for another reason, before it refuses
to be closed; the stream beside it stays -/
theorem teardown_completes_refused :
    let atop (script : Script) (ops : List Op) : Stream (Recorded Scripted) :=
      Stream.after ops (Stream.opened { capacity := 8 }
        { inner := ⟨script, { write := true, close := true }⟩ } .both)
    let failing := atop
      { writes := [.atMost 1, .fail (.code 5), .fail (.code 28)], closes := [.fail (.code 9)] }
      [.write [1, 2, 3]]
    let k : Desk (Recorded Scripted) Unit :=
      { slots := [⟨4, some failing⟩, ⟨1, some (atop {} [.write [7]])⟩], live := 2, shared := () }
    (k.find? ⟨0, 4⟩ = some failing ∧ failing.closed = false) ∧
      (∃ r s' k', k.tearDown ⟨0, 4⟩ .closeSnatch = some (r, s', k') ∧
        Ending.closeSnatch.Done k ⟨0, 4⟩ failing r s' k') ∧
      (k.tearDown ⟨0, 4⟩ .closeSnatch).map (fun after => failure? after.1) =
        some (some (.ofErrno 5)) ∧
      (k.tearDown ⟨0, 4⟩ .drop).map (·.2.1.device.closings.map failure?) =
        some [some (.ofErrno 9)] := by
  intro atop failing k
  have named : k.find? ⟨0, 4⟩ = some failing := rfl
  have opn : failing.closed = false := by decide +kernel
  exact ⟨⟨named, opn⟩,
    teardown_completes (fun _ _ => rfl) .closeSnatch k ⟨0, 4⟩ failing named opn,
    by decide +kernel, by decide +kernel⟩

end Desk

end BufferedStreams
