import BufferedStreams.Device.Script
import BufferedStreams.Proofs.Handles
import BufferedStreams.Proofs.ShortTransfer

/-!
# Which calls a device gets

A stream calls its device for what the device announced when the stream was made, and closes it once,
at the very end.

* `Event.allowed`      what a device with some abilities may be asked for while its stream is open;
* `Recorded.Within`    from one state to a later one the device got allowed calls only;
* `Path.within`        that is so along every path, turns, retries and appends included;
* `Stream.Ends`        what comes at the end: allowed calls, a close, and then nothing;
* `Desk.calls_allowed` every life is like that, whichever way it ends.
-/

namespace BufferedStreams

/-- is this a call for an open stream over a device with such abilities? -/
def Event.allowed (a : Abilities) : Event → Bool
  | read _ _ => a.read
  | write _ _ | flush _ => a.write
  | seek _ _ _ => a.seek
  | close _ => false

namespace Recorded

variable {δ : Type} {a : Abilities} {d d' d'' : Recorded δ}

/-- what was recorded since are allowed calls -/
def Within (a : Abilities) (d d' : Recorded δ) : Prop :=
  ∃ calls : List Event, d'.events = d.events ++ calls ∧ ∀ e ∈ calls, e.allowed a = true

theorem Within.refl (a : Abilities) (d : Recorded δ) : d.Within a d := by
  refine ⟨[], (List.append_nil _).symm, ?_⟩
  simp

theorem Within.trans (h : d.Within a d') (h' : d'.Within a d'') : d.Within a d'' := by
  obtain ⟨calls, events, allowed⟩ := h
  obtain ⟨calls', events', allowed'⟩ := h'
  refine ⟨calls ++ calls', ?_, ?_⟩
  · rw [events', events, List.append_assoc]
  · intro e mem
    rcases List.mem_append.mp mem with before | later
    · exact allowed e before
    · exact allowed' e later

theorem Within.of_eq {e : Event} (h : d'.events = d.events ++ [e]) (allowed : e.allowed a = true) :
    d.Within a d' := by
  refine ⟨[e], h, ?_⟩
  intro e' mem
  rw [List.mem_singleton.mp mem]
  exact allowed

theorem Within.all (h : d.Within a d') (before : ∀ e ∈ d.events, e.allowed a = true) :
    ∀ e ∈ d'.events, e.allowed a = true := by
  obtain ⟨calls, events, allowed⟩ := h
  intro e mem
  rw [events] at mem
  rcases List.mem_append.mp mem with old | new
  · exact before e old
  · exact allowed e new

theorem events_close [Device δ] {r : Except Fault Unit} (h : Device.close d = (r, d')) :
    d'.events = d.events ++ [.close r] :=
  keep_events (show d.keep .close _ = (r, d') from h)

end Recorded

namespace Stream

variable {δ : Type} [Device δ] {s s' : Stream (Recorded δ)} {g t : Bytes} {leaps : Bool}

/-! ## while the stream is open -/

/-- an append stream asks where its data ends only of a device that seeks -/
theorem syncAppend_within (s : Stream (Recorded δ)) :
    s.device.Within s.abilities s.syncAppend.device := by
  unfold syncAppend
  split
  · next asks =>
    have able : s.abilities.seek = true := (Bool.and_eq_true_iff.mp asks).2
    rcases call : Device.seek 0 .current s.device with ⟨_ | pos, d⟩
    · exact .of_eq (Recorded.events_seek call) able
    · exact .of_eq (Recorded.events_seek call) able
  · exact .refl _ _

theorem Step.within (h : Step s g t s') : s.device.Within s.abilities s'.device := by
  cases h with
  | accepted _ able call => exact .of_eq (Recorded.events_write call) able
  | cleared _ able call =>
    refine Recorded.Within.trans ?_ (syncAppend_within _)
    exact .of_eq (Recorded.events_write call) able
  | refused _ able call => exact .of_eq (Recorded.events_write call) able
  | notified _ able _ call => exact .of_eq (Recorded.events_flush call) able
  | wrote _ able _ call => exact .of_eq (Recorded.events_write call) able
  | synced => exact syncAppend_within s
  | filled _ able _ _ call => exact .of_eq (Recorded.events_read call) able
  | unfilled _ able _ _ call => exact .of_eq (Recorded.events_read call) able
  | pulled _ able _ _ _ _ call => exact .of_eq (Recorded.events_read call) able
  | balked _ able _ call => exact .of_eq (Recorded.events_read call) able
  | _ => exact .refl _ _

theorem Leap.within (h : Leap s s') : s.device.Within s.abilities s'.device := by
  cases h with
  | moved _ able call => exact .of_eq (Recorded.events_seek call) able
  | unmoved _ able call => exact .of_eq (Recorded.events_seek call) able
  | _ => exact .refl _ _

theorem Path.within (h : Path leaps s g t s') : s.device.Within s.abilities s'.device := by
  induction h with
  | refl => exact .refl _ _
  | step h _ ih => exact h.within.trans (h.constant.2.1 ▸ ih)
  | leap h _ ih => exact h.within.trans (h.constant.2.1 ▸ ih)

theorem snatch_within (s : Stream (Recorded δ)) :
    s.device.Within s.abilities s.snatch.2.device ∧ s.snatch.2.abilities = s.abilities ∧
      s.snatch.2.closed = s.closed := by
  have path : Path false s [] [] s.flush.2 := flush_path
  have within := path.within
  obtain ⟨-, abilities, closed⟩ := path.constant
  unfold snatch
  rcases hf : s.flush with ⟨_ | _, u⟩
  · rw [hf] at within abilities closed
    exact ⟨within, abilities, closed⟩
  · rw [hf] at within abilities closed
    -- what a device gives away is not recorded
    have same : (Device.snatch u.device).2.events = u.device.events := rfl
    dsimp only
    rcases call : Device.snatch u.device with ⟨_ | bytes, d⟩ <;> rw [call] at same <;>
      exact ⟨within.trans ⟨[], same.trans (List.append_nil _).symm, by simp⟩, abilities, closed⟩

theorem Act.within (act : Act) (sound : s.Sound) (stays : act ≠ .close) :
    s.device.Within s.abilities (act.run s).device ∧ (act.run s).abilities = s.abilities := by
  cases act with
  | op op =>
    have path := op_path op sound
    exact ⟨path.within, path.constant.2.1⟩
  | clearMarks => exact ⟨.refl _ _, rfl⟩
  | rename name => exact ⟨.refl _ _, rfl⟩
  | snatch => exact ⟨(snatch_within s).1, (snatch_within s).2.1⟩
  | close => exact absurd rfl stays

theorem lived_within (acts : List Act) (sound : s.Sound) (stays : ∀ act ∈ acts, act ≠ .close) :
    s.device.Within s.abilities (lived acts s).device ∧
      (lived acts s).abilities = s.abilities := by
  induction acts generalizing s with
  | nil => exact ⟨.refl _ _, rfl⟩
  | cons act acts ih =>
    obtain ⟨here, same⟩ := Act.within act sound (stays act List.mem_cons_self)
    obtain ⟨later, same'⟩ :=
      ih (sound.act act) fun a mem => stays a (List.mem_cons_of_mem act mem)
    rw [same] at later same'
    exact ⟨here.trans later, same'⟩

/-! ## the end -/

/-- the life of `s` is over, and `s'` is what is left: the device got allowed calls, then was closed if
it can be, and hears no more from the stream -/
structure Ends (a : Abilities) (s s' : Stream (Recorded δ)) : Prop where
  calls : ∃ last : Recorded δ, s.device.Within a last ∧
    if a.close = true then ∃ r, s'.device.events = last.events ++ [.close r]
    else s'.device.events = last.events
  again : s'.close = (.ok (), s')

/-- a close flushes, and then closes the device -/
theorem close_ends (opn : s.closed = false) : Ends s.abilities s s.close.2 := by
  have path : Path false s [] [] s.flush.2 := flush_path
  have ends : s.close.2 = s.flush.2.release.2.retire := by
    rw [close, if_neg (by simp [opn])]
  rw [ends]
  refine ⟨⟨s.flush.2.device, path.within, ?_⟩, rfl⟩
  rw [release, ← path.constant.2.1]
  split
  · rcases call : Device.close s.flush.2.device with ⟨r, d⟩
    exact ⟨r, Recorded.events_close call⟩
  · rfl

/-- a close that takes the storage away may flush twice -/
theorem snatch_close_ends (opn : s.closed = false) : Ends s.abilities s s.snatch.2.close.2 := by
  obtain ⟨within, abilities, closed⟩ := snatch_within s
  obtain ⟨⟨last, further, ended⟩, again⟩ := close_ends (closed.trans opn)
  rw [abilities] at further ended
  exact ⟨⟨last, within.trans further, ended⟩, again⟩

end Stream

namespace Desk

variable {δ σ : Type}

/-- a slot that was given up has no tenant for the old handle -/
theorem find?_vacated {k k' : Desk δ σ} {h : Handle}
    (slots : k'.slots = k.slots.set h.index ⟨h.generation + 1, none⟩) : k'.find? h = none := by
  rw [find?, slots, List.getElem?_set_self']
  cases k.slots[h.index]? with
  | none => rfl
  | some slot => exact ite_self none

variable [Device δ] {k : Desk δ Unit} {h : Handle} {s : Stream δ}

/-- on a desk whose devices share nothing a stream is closed as it is -/
theorem close_found (named : k.find? h = some s) :
    ∃ k', k.close h = some (s.close.1, s.close.2, k') ∧ k'.find? h = none := by
  rw [close, remove, named]
  exact ⟨_, rfl, find?_vacated (k := k) rfl⟩

theorem closeSnatch_found (named : k.find? h = some s) :
    ∃ r k', k.closeSnatch h = some (r, s.snatch.2.close.2, k') ∧ k'.find? h = none := by
  have visited : k.visit h Stream.snatch = some (s.snatch.1, k.replace h s.snatch.2) := by
    rw [visit, named]
    rfl
  obtain ⟨k', closed, gone⟩ := close_found (find?_replace named s.snatch.2)
  rw [closeSnatch, visited]
  dsimp only
  rw [closed]
  exact ⟨_, k', rfl, gone⟩

/-- Take a stream over any device, after anything that can happen to it short of its end.  Up to now
its device was asked for nothing but what it announced at the start, and was not closed.  If the
stream is closed now, with or without its storage, the device gets calls of that kind, then one close
if it announced that, and none after it; and the handle names the stream no more. -/
theorem calls_allowed (o : Opening) (d : δ) (m : OpenMode) (acts : List Act)
    (k : Desk (Recorded δ) Unit) (h : Handle) :
    let s := Stream.lived acts (Stream.opened o ({ inner := d } : Recorded δ) m)
    let a := Device.abilities d
    s.closed = false → k.find? h = some s →
      (∀ e ∈ s.device.events, e.allowed a = true) ∧
        (∃ r s' k', k.close h = some (r, s', k') ∧ Stream.Ends a s s' ∧ k'.find? h = none) ∧
        ∃ r s' k', k.closeSnatch h = some (r, s', k') ∧ Stream.Ends a s s' ∧ k'.find? h = none := by
  intro s a opn named
  have start : (Stream.opened o ({ inner := d } : Recorded δ) m).Sound :=
    Stream.opened_sound o _ m
  obtain ⟨within, same⟩ := Stream.lived_within acts start (Stream.lived_open acts start opn)
  have abilities : s.abilities = a := same
  refine ⟨within.all ?_, ?_, ?_⟩
  · intro e mem
    cases mem
  · obtain ⟨k', closed, gone⟩ := close_found named
    exact ⟨_, _, k', closed, abilities ▸ Stream.close_ends opn, gone⟩
  · obtain ⟨r, k', closed, gone⟩ := closeSnatch_found named
    exact ⟨r, _, k', closed, abilities ▸ Stream.snatch_close_ends opn, gone⟩

/-- a device that cannot seek: output is handed over, which fails at the notification, then input is read
and more output waits when the stream is closed -/
theorem calls_allowed_three :
    let device : Scripted :=
      { script := { data := [1, 2, 3], flushes := [.fail (.code 5)] }
        announced := { read := true, write := true, close := true } }
    let acts : List Act := [.op (.write [4]), .op .flush, .op (.read 1), .op (.write [5])]
    let s := Stream.lived acts
      (Stream.opened { capacity := 4 } ({ inner := device } : Recorded Scripted) .both)
    let k : Desk (Recorded Scripted) Unit := { slots := [⟨1, some s⟩], live := 1, shared := () }
    s.closed = false ∧ k.find? ⟨0, 1⟩ = some s ∧ s.device.events.length = 3 ∧
      (∀ e ∈ s.device.events, e.allowed device.announced = true) ∧
      ∃ r s' k', k.close ⟨0, 1⟩ = some (r, s', k') ∧ Stream.Ends device.announced s s' ∧
        k'.find? ⟨0, 1⟩ = none := by
  intro device acts s k
  have opn : s.closed = false := by decide +kernel
  have named : k.find? ⟨0, 1⟩ = some s := rfl
  have three : s.device.events.length = 3 := by decide +kernel
  obtain ⟨allowed, closed, -⟩ :=
    calls_allowed { capacity := 4 } device .both acts k ⟨0, 1⟩ opn named
  exact ⟨opn, named, three, allowed, closed⟩

end Desk

end BufferedStreams
