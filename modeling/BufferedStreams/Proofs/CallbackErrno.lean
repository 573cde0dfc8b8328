import BufferedStreams.Client.Close
import BufferedStreams.Client.Line
import BufferedStreams.Client.Position
import BufferedStreams.Client.Transfer
import BufferedStreams.Proofs.Journal
import BufferedStreams.Proofs.Teardown

/-!
# The error number of a callback

A callback that fails leaves an error number.  A call of the C interface that fails because of it
leaves the same number in `errno`, whatever the callbacks that come after it leave there.

* `Logged κ`        a cookie that keeps the calls of its callbacks;
* `Errand`          the calls of the C interface on one stream, each with its way to fail;
* `Errand.met`      the failures that such a call meets;
* `errno_verbatim`  if a callback is the first to fail, its error number is what the call leaves.
-/

namespace BufferedStreams

/-! ## cookies that keep what happened -/

/-- what a failed callback leaves is the failure -/
def heard {α : Type} : Except Errno α → Except Fault α := Except.mapError fun e => .io (.system e)

/-- a position below zero is no answer -/
def heardPosition : Except Errno Int → Except Fault Nat
  | .ok pos => if pos < 0 then .error (.invalid .negativeResult) else .ok pos.toNat
  | .error e => .error (.io (.system e))

/-- a cookie with the calls of its callbacks -/
structure Logged (κ : Type) where
  inner : κ
  events : List Event := []

namespace Logged

variable {κ α : Type}

def keep (k : Logged κ) (event : Except Errno α → Event) (r : Except Errno α × κ) :
    Except Errno α × Logged κ :=
  (r.1, ⟨r.2, k.events ++ [event r.1]⟩)

instance [Cookie κ] : Cookie (Logged κ) where
  read n k := k.keep (fun r => .read n (heard r)) (Cookie.read n k.inner)
  write bytes k := k.keep (fun r => .write bytes (heard r)) (Cookie.write bytes k.inner)
  notify k := k.keep (fun r => .flush (heard r)) (Cookie.notify k.inner)
  seek off w k := k.keep (fun r => .seek off w (heardPosition r)) (Cookie.seek off w k.inner)
  close k := k.keep (fun r => .close (heard r)) (Cookie.close k.inner)

end Logged

namespace Callback

variable {κ α : Type} {d : Callback (Logged κ)}

/-- the cookie heard this call, and the device can be written if it could be -/
structure Heard (d d' : Callback (Logged κ)) (e : Event) : Prop where
  table : d'.table.write = d.table.write
  events : d'.cookie.events = d.cookie.events ++ [e]

/-- a callback that was called is in the journal -/
theorem settle_heard (d : Callback (Logged κ)) (event : Except Fault α → Event)
    (r : Except Errno α × κ) :
    d.Heard (d.settle (d.cookie.keep (fun a => event (heard a)) r)).2
      (event (d.settle (d.cookie.keep (fun a => event (heard a)) r)).1) := by
  obtain ⟨_ | a, k⟩ := r
  · exact ⟨rfl, rfl⟩
  · exact ⟨rfl, rfl⟩

variable [Cookie κ]

theorem read_heard (n : Nat) (d : Callback (Logged κ)) :
    d.Heard (d.read n).2 (.read n (d.read n).1) ∨ (d.read n).2 = d := by
  unfold read
  split
  · exact .inl (settle_heard d (.read n) (Cookie.read n d.cookie.inner))
  · exact .inr rfl

theorem write_heard (bytes : Bytes) (d : Callback (Logged κ)) :
    d.Heard (d.write bytes).2 (.write bytes (d.write bytes).1) ∨
      (d.write bytes).2 = d ∧ d.table.write = false ∧ ∀ n, (d.write bytes).1 ≠ .ok n := by
  unfold write
  split
  · exact .inl (settle_heard d (.write bytes) (Cookie.write bytes d.cookie.inner))
  · next unable => exact .inr ⟨rfl, Bool.eq_false_iff.mpr unable, by simp⟩

theorem flush_heard (d : Callback (Logged κ)) :
    d.Heard d.flush.2 (.flush d.flush.1) ∨ d.flush = (.ok (), d) := by
  unfold flush
  split
  · exact .inl (settle_heard d .flush (Cookie.notify d.cookie.inner))
  · exact .inr rfl

theorem seek_heard (off : Int) (w : Whence) (d : Callback (Logged κ)) :
    d.Heard (d.seek off w).2 (.seek off w (d.seek off w).1) ∨ (d.seek off w).2 = d := by
  by_cases able : d.table.seek = true
  · left
    rcases answer : Cookie.seek off w d.cookie.inner with ⟨e | pos, k⟩
    · have called : Cookie.seek off w d.cookie = _ :=
        congrArg (d.cookie.keep fun r => .seek off w (heardPosition r)) answer
      rw [seek, if_pos able, called]
      exact ⟨rfl, rfl⟩
    · have called : Cookie.seek off w d.cookie = _ :=
        congrArg (d.cookie.keep fun r => .seek off w (heardPosition r)) answer
      rw [seek, if_pos able, called]
      exact ⟨rfl, rfl⟩
  · right
    rw [seek, if_neg able]

theorem close_heard (d : Callback (Logged κ)) :
    d.Heard d.close.2 (.close d.close.1) ∨ d.close.2 = d := by
  unfold close
  split
  · left
    obtain ⟨table, events⟩ := settle_heard
      { d with table := { d.table with close := false } } .close (Cookie.close d.cookie.inner)
    exact ⟨table, events⟩
  · exact .inr rfl

end Callback

/-- what the cookie of a device heard; memory has none -/
def heardBy {κ : Type} : Memory ⊕ Callback (Logged κ) → List Event
  | .inl _ => []
  | .inr d => d.cookie.events

/-- callbacks over such a cookie keep a journal -/
def callbackJournal (κ : Type) [Cookie κ] : Journal (Memory ⊕ Callback (Logged κ)) where
  valid d := d.isRight = true
  log := heardBy
  read := by
    rintro n (m | d) _ _ valid ⟨⟩
    · cases valid
    · exact ⟨rfl, (d.read_heard n).imp Callback.Heard.events (congrArg fun d => heardBy (.inr d))⟩
  write := by
    rintro bytes (m | d) _ _ valid ⟨⟩
    · cases valid
    rcases d.write_heard bytes with told | ⟨same, unable, failed⟩
    · exact ⟨rfl, told.table, .inl told.events⟩
    · refine ⟨rfl, congrArg (fun d => d.table.write) same, .inr ⟨?_, unable, failed⟩⟩
      exact congrArg (fun d => heardBy (.inr d)) same
  flush := by
    rintro (m | d) _ _ valid ⟨⟩
    · cases valid
    rcases d.flush_heard with told | same
    · exact ⟨rfl, .inl told.events⟩
    · exact ⟨rfl, .inr ⟨congrArg (fun r => heardBy (.inr r.2)) same, congrArg Prod.fst same⟩⟩
  seek := by
    rintro off w (m | d) _ _ valid ⟨⟩
    · cases valid
    · exact ⟨rfl, (d.seek_heard off w).imp Callback.Heard.events
        (congrArg fun d => heardBy (.inr d))⟩
  close := by
    rintro (m | d) _ _ valid ⟨⟩
    · cases valid
    · exact ⟨rfl, d.close_heard.imp Callback.Heard.events (congrArg fun d => heardBy (.inr d))⟩

/-! ## one call -/

namespace Client

variable {κ α : Type}

/-- the cookie of the stream behind a pointer -/
def cookieBehind (p : Pointer) (c : Client κ) : Option κ := (c.stream? p).bind cookie?

@[simp] theorem settle_stream? (r : Except Fault α) (c : Client κ) (p : Pointer) :
    (settle r c).2.stream? p = c.stream? p := by
  cases r <;> rfl

theorem cookie?_events {s : Stream (Memory ⊕ Callback (Logged κ))}
    (callbacks : s.device.isRight = true) :
    (cookie? s).map Logged.events = some (heardBy s.device) := by
  obtain ⟨d, device⟩ := Sum.isRight_iff.mp callbacks
  rw [cookie?, device]
  rfl

/-- the client after the stream behind a handle has become `u` -/
def visited (c : Client κ) (h : Handle) (u : Stream (Memory ⊕ Callback κ)) : Client κ :=
  { c with desk := { c.desk.replace h u with shared := Shares.settle u.device c.desk.shared } }

theorem perform_found {c : Client κ} {h : Handle} {s : Stream (Memory ⊕ Callback κ)}
    (named : c.desk.find? h = some s)
    (f : Stream (Memory ⊕ Callback κ) → Except Fault α × Stream (Memory ⊕ Callback κ)) :
    c.perform (some h) f =
      settle (f (c.desk.loan s)).1 (c.visited h (f (c.desk.loan s)).2) := by
  rw [perform, Option.bind_some, Desk.visit_found named f, visited]

theorem visited_stream? {c : Client κ} {h : Handle} {s : Stream (Memory ⊕ Callback κ)}
    (named : c.desk.find? h = some s) (u : Stream (Memory ⊕ Callback κ)) :
    (c.visited h u).stream? (some h) = some u :=
  Desk.find?_replace named u

/-- callbacks get `errno` on loan -/
theorem loan_device {c : Client κ} {s : Stream (Memory ⊕ Callback κ)} {d : Callback κ}
    (device : s.device = .inr d) :
    (c.desk.loan s).device = .inr { d with errno := c.errno } := by
  show Shares.lend c.desk.shared s.device = _
  rw [device]
  rfl

variable [Cookie κ] {c : Client (Logged κ)} {p : Pointer}
  {s : Stream (Memory ⊕ Callback (Logged κ))} {d : Callback (Logged κ)}

/-- a call that an operation answers; the values that are idle are answers of a success that moved
nothing -/
structure Carries (op : Op) (idle : α → Prop)
    (f : Stream (Memory ⊕ Callback (Logged κ)) →
      Except Fault α × Stream (Memory ⊕ Callback (Logged κ))) : Prop where
  kept : op ≠ .writeAll []
  left : ∀ u, (f u).2 = op.run u
  fault : ∀ u, failure? (f u).1 = op.fault? u
  idle : ∀ u a, (f u).1 = .ok a → idle a → op.moved u = 0

/-- An operation through a pointer that fails leaves the error number of every failure that counts.
If it succeeds with a value that says that nothing was moved, there is none. -/
theorem perform_told {op : Op} {idle : α → Prop}
    {f : Stream (Memory ⊕ Callback (Logged κ)) →
      Except Fault α × Stream (Memory ⊕ Callback (Logged κ))}
    (carries : Carries op idle f) (found : c.stream? p = some s) (device : s.device = .inr d) :
    ∃ new c', (c'.cookieBehind p).map Logged.events = some (d.cookie.events ++ new) ∧
      (c.perform p f = (none, c') ∧ (∀ g ∈ Event.faults (op.stance s) new, c'.errno = g.errno) ∨
        ∃ a, c.perform p f = (some a, c') ∧
          (idle a → Event.faults (op.stance s) new = [])) := by
  obtain ⟨h, rfl, named⟩ := Option.bind_eq_some_iff.mp found
  let u := c.desk.loan s
  have stance : op.stance u = op.stance s := by cases op <;> rfl
  have lent : u.device = .inr { d with errno := c.errno } := loan_device device
  obtain ⟨stop, told, shown⟩ := op.shown (j := callbackJournal κ) u carries.kept
  obtain ⟨callbacks, new, log, met⟩ := told (congrArg Sum.isRight lent)
  rw [← carries.left] at callbacks log
  rw [← carries.fault] at shown
  rw [stance] at met
  rw [perform_found named f]
  have events : ((settle (f u).1 (c.visited h (f u).2)).2.cookieBehind (some h)).map
      Logged.events = some (d.cookie.events ++ new) := by
    have log : heardBy (f u).2.device = heardBy u.device ++ new := log
    rw [cookieBehind, settle_stream?, visited_stream? named, Option.bind_some,
      cookie?_events callbacks, log, lent]
    rfl
  refine ⟨new, _, events, ?_⟩
  rcases answer : (f u).1 with e | a <;> rw [answer] at shown
  · have stopped : stop = some e := shown.resolve_right fun ⟨hidden, _⟩ => by cases hidden
    refine .inl ⟨rfl, fun g mem => ?_⟩
    rw [Option.some_inj.mp ((met g mem).symm.trans stopped)]
    rfl
  · refine .inr ⟨a, rfl, fun nothing => List.eq_nil_iff_forall_not_mem.mpr fun g mem => ?_⟩
    have clean : stop = none :=
      shown.resolve_right fun ⟨_, went⟩ => went (carries.idle u a answer nothing)
    cases clean.symm.trans (met g mem)

end Client

/-! ## the calls of the C interface -/

/-- a call on one stream, with its other arguments -/
inductive Errand where
  | read (room count : Option Nat)
  | write (bytes : Option Bytes) (count : Option Nat)
  | fgetc
  | fputc (ch : Int)
  | ungetc (ch : Int)
  | peek (given : Bool)
  | getline (b : Option LineBuffer)
  | readLine (limit : Nat) (b : Option LineBuffer)
  | fseek (off whence : Int)
  | setvbuf (mode : Int)
  | fflush
  | fclose

namespace Errand

open Client

/-- does a value tell of a failure, what became of the cookie, and the client afterwards -/
def reply {κ : Type} (p : Pointer) (r : Int × Client κ) : Bool × Option κ × Client κ :=
  (r.1 == failure, r.2.cookieBehind p, r.2)

variable {κ : Type} [Cookie κ]

/-- does the call return its failure value, what became of the cookie, and the client afterwards -/
def run (grants : Nat → Bool) (p : Pointer) (c : Client κ) : Errand → Bool × Option κ × Client κ
  | read room count =>
    let (r, c) := c.read p room count
    reply p (r.status, c)
  | write bytes count =>
    let (r, c) := c.write p bytes count
    reply p (r.status, c)
  | fgetc => reply p (Client.fgetc p c)
  | fputc ch => reply p (Client.fputc ch p c)
  | ungetc ch => reply p (Client.ungetc ch p c)
  | peek given =>
    let (view, c) := c.peek p given
    (view.isNone, c.cookieBehind p, c)
  | getline b =>
    let (value, _, c) := Client.getline grants b p c
    reply p (value, c)
  | readLine limit b =>
    let (value, _, c) := c.readLine grants p limit b
    reply p (value, c)
  | fseek off whence => reply p (c.fseek p off whence)
  | setvbuf mode => reply p (c.setvbuf p mode)
  | fflush => reply p (c.fflush p)
  -- the stream is gone, and its cookie goes back to the caller
  | fclose =>
    let (value, cookie, c) := c.fclose p
    (value == failure, cookie, c)

/-- the failures that a call meets on a stream, in their order, if it makes these calls of the
callbacks: those that count, and in front of them the want of a write callback for output that waits
when the stream is closed -/
def met (s : Stream (Memory ⊕ Callback (Logged κ))) (calls : List Event) : Errand → List Fault
  | write _ _ | fputc _ => Event.faults s.outset calls
  | fclose => (if s.stranded then [.unsupported .write] else []) ++ Event.faults .plain calls
  | _ => Event.faults .plain calls

/-- a call after which the cookie has heard more, and `errno` is that of every failure that counts
among it, if the call failed -/
def Bears (st : Stance) (before : List Event) (r : Bool × Option (Logged κ) × Client (Logged κ)) :
    Prop :=
  ∃ new, r.2.1.map Logged.events = some (before ++ new) ∧
    (r.1 = true → ∀ g ∈ Event.faults st new, r.2.2.errno = g.errno)

variable {c : Client (Logged κ)} {p : Pointer} {s : Stream (Memory ⊕ Callback (Logged κ))}
  {d : Callback (Logged κ)} {grants : Nat → Bool}

omit [Cookie κ] in
/-- a call that is refused at once -/
theorem bears_refused (c' : Client (Logged κ)) (same : c'.stream? p = some s)
    (device : s.device = .inr d) :
    Bears .plain d.cookie.events (true, c'.cookieBehind p, c') := by
  refine ⟨[], ?_, ?_⟩
  · rw [cookieBehind, same, Option.bind_some, cookie?, device, List.append_nil]
    rfl
  · intro _ g mem
    cases mem

omit [Cookie κ] in
/-- a call during which nothing failed that counts -/
theorem bears_clean {st : Stance} {before new : List Event} {c' : Client (Logged κ)} (failed : Bool)
    (log : (c'.cookieBehind p).map Logged.events = some (before ++ new))
    (clean : Event.faults st new = []) : Bears st before (failed, c'.cookieBehind p, c') := by
  refine ⟨new, log, ?_⟩
  intro _ g mem
  rw [clean] at mem
  cases mem

omit [Cookie κ] in
theorem present (found : c.stream? p = some s) : ¬ (c.stream? p).isNone = true := by
  simp [found]

theorem read_bears (room count : Option Nat) (found : c.stream? p = some s)
    (device : s.device = .inr d) :
    Bears .plain d.cookie.events (run grants p c (.read room count)) := by
  have carries : Carries (.read (room.getD 0)) (fun _ => False) (κ := κ)
      (Stream.read (room.getD 0)) :=
    ⟨by simp, fun _ => rfl, fun _ => rfl, fun _ _ _ never => never.elim⟩
  obtain ⟨new, c', log, ⟨hp, answer⟩ | ⟨bytes, hp, -⟩⟩ := perform_told carries found device
  · rw [run, Client.read, if_neg (present found), hp]
    exact ⟨new, log, fun _ => answer⟩
  · rw [run, Client.read, if_neg (present found), hp]
    exact ⟨new, log, fun failed => by cases failed⟩

theorem write_bears (bytes : Option Bytes) (count : Option Nat) (found : c.stream? p = some s)
    (device : s.device = .inr d) :
    Bears s.outset d.cookie.events (run grants p c (.write bytes count)) := by
  have carries : Carries (.write (bytes.getD [])) (fun _ => False) (κ := κ)
      (Stream.write (bytes.getD [])) :=
    ⟨by simp, fun _ => rfl, fun _ => rfl, fun _ _ _ never => never.elim⟩
  obtain ⟨new, c', log, ⟨hp, answer⟩ | ⟨n, hp, -⟩⟩ := perform_told carries found device
  · rw [run, Client.write, if_neg (present found), hp]
    exact ⟨new, log, fun _ => answer⟩
  · rw [run, Client.write, if_neg (present found), hp]
    exact ⟨new, log, fun failed => by cases failed⟩

/-- a byte is never the failure value -/
theorem byte_ne_failure (byte : UInt8) : ((byte.toNat : Int) == failure) = false := by
  rw [beq_eq_false_iff_ne]
  show (byte.toNat : Int) ≠ -1
  omega

/-- a read of one byte that finds none has moved nothing -/
theorem getc_moved {u : Stream (Memory ⊕ Callback (Logged κ))} (ok : u.getc.1 = .ok none) :
    Op.getc.moved u = 0 := by
  show (u.intake 1).1.bytes.length + 0 = 0
  have ok : (u.read 1).1.map List.head? = .ok none := ok
  rw [Stream.read_eq Nat.one_ne_zero] at ok
  rcases hr : (u.intake 1).1.result with f | bytes
  · rw [hr] at ok
    cases ok
  · rw [hr] at ok
    have empty : bytes = [] := List.head?_eq_none_iff.mp (Except.ok.inj ok)
    rw [(Intake.result_ok hr).1, empty]
    rfl

theorem fgetc_bears (found : c.stream? p = some s) (device : s.device = .inr d) :
    Bears .plain d.cookie.events (run grants p c .fgetc) := by
  have carries : Carries .getc (fun byte => byte = none) (κ := κ) Stream.getc :=
    ⟨by simp, fun _ => rfl, fun _ => rfl, fun _ _ ok none => getc_moved (none ▸ ok)⟩
  obtain ⟨new, c', log, ⟨hp, answer⟩ | ⟨_ | byte, hp, clean⟩⟩ :=
    perform_told carries found device
  · rw [run, Client.fgetc, hp]
    exact ⟨new, log, fun _ => answer⟩
  · -- the end of the data is told of in the same way, but it is no failure
    rw [run, Client.fgetc, hp]
    exact bears_clean true log (clean rfl)
  · rw [run, Client.fgetc, hp]
    refine ⟨new, log, fun failed => ?_⟩
    cases (byte_ne_failure byte).symm.trans failed

theorem fputc_bears (ch : Int) (found : c.stream? p = some s) (device : s.device = .inr d) :
    Bears s.outset d.cookie.events (run grants p c (.fputc ch)) := by
  have carries : Carries (.putc (UInt8.ofInt ch)) (fun _ => False) (κ := κ)
      (Stream.putc (UInt8.ofInt ch)) :=
    ⟨by simp, fun _ => rfl, fun _ => rfl, fun _ _ _ never => never.elim⟩
  obtain ⟨new, c', log, ⟨hp, answer⟩ | ⟨_, hp, -⟩⟩ := perform_told carries found device
  · rw [run, Client.fputc, hp]
    exact ⟨new, log, fun _ => answer⟩
  · rw [run, Client.fputc, hp]
    refine ⟨new, log, fun failed => ?_⟩
    cases (byte_ne_failure _).symm.trans failed

theorem ungetc_bears (ch : Int) (found : c.stream? p = some s) (device : s.device = .inr d) :
    Bears .plain d.cookie.events (run grants p c (.ungetc ch)) := by
  rw [run, Client.ungetc]
  split
  · exact bears_refused c found device
  · have carries : Carries (.unread [UInt8.ofInt ch]) (fun _ => True) (κ := κ)
        (Stream.unread [UInt8.ofInt ch]) :=
      ⟨by simp, fun _ => rfl, fun _ => rfl, fun _ _ _ _ => rfl⟩
    dsimp only
    obtain ⟨new, c', log, ⟨hp, answer⟩ | ⟨n, hp, clean⟩⟩ := perform_told carries found device
    · rw [hp]
      exact ⟨new, log, fun _ => answer⟩
    · -- a byte for which there is no room is no failure either
      rw [hp]
      exact bears_clean _ log (clean trivial)

theorem peek_bears (given : Bool) (found : c.stream? p = some s) (device : s.device = .inr d) :
    Bears .plain d.cookie.events (run grants p c (.peek given)) := by
  rw [run, Client.peek, if_neg (present found)]
  cases given with
  | false => exact bears_refused (c.leave Errno.invalid) found device
  | true =>
    have carries : Carries .peek (fun _ => False) (κ := κ) Stream.peek :=
      ⟨by simp, fun _ => rfl, fun _ => rfl, fun _ _ _ never => never.elim⟩
    rw [if_pos rfl]
    obtain ⟨new, c', log, ⟨hp, answer⟩ | ⟨view, hp, -⟩⟩ := perform_told carries found device
    · rw [hp]
      exact ⟨new, log, fun _ => answer⟩
    · rw [hp]
      exact ⟨new, log, fun failed => by cases failed⟩

theorem readLine_bears (limit : Nat) (b : Option LineBuffer) (found : c.stream? p = some s)
    (device : s.device = .inr d) :
    Bears .plain d.cookie.events (run grants p c (.readLine limit b)) := by
  rw [run]
  unfold Client.readLine
  rw [if_neg (present found)]
  cases b with
  | none => exact bears_refused (c.leave Errno.invalid) found device
  | some b =>
    have carries : Carries (.readLine limit []) (fun _ => True) (κ := κ) (lineOf limit) :=
      ⟨by simp, fun _ => rfl, fun _ => failure?_map _ _, fun _ _ _ _ => rfl⟩
    dsimp only
    obtain ⟨new, c', log, ⟨hp, answer⟩ | ⟨line, hp, clean⟩⟩ := perform_told carries found device
    · rw [hp]
      exact ⟨new, log, fun _ => answer⟩
    · -- a line that finds no memory comes after everything that callbacks did
      rw [hp]
      dsimp only
      split
      · exact bears_clean true log (clean trivial)
      · rcases b.store grants line with _ | b'
        · have left : ((c'.leave Errno.noMemory).cookieBehind p).map Logged.events =
              some (d.cookie.events ++ new) := log
          exact bears_clean true left (clean trivial)
        · exact bears_clean _ log (clean trivial)

/-- calls that have nothing to tell but their success -/
theorem status_bears {op : Op} {α : Type}
    {f : Stream (Memory ⊕ Callback (Logged κ)) →
      Except Fault α × Stream (Memory ⊕ Callback (Logged κ))}
    (carries : Carries op (fun _ => False) f) (found : c.stream? p = some s)
    (device : s.device = .inr d) :
    Bears (op.stance s) d.cookie.events (reply p (status (c.perform p f))) := by
  obtain ⟨new, c', log, ⟨hp, answer⟩ | ⟨a, hp, -⟩⟩ := perform_told carries found device
  · rw [hp]
    exact ⟨new, log, fun _ => answer⟩
  · rw [hp]
    exact ⟨new, log, fun failed => by cases failed⟩

theorem fseek_bears (off whence : Int) (found : c.stream? p = some s)
    (device : s.device = .inr d) :
    Bears .plain d.cookie.events (run grants p c (.fseek off whence)) := by
  rw [run, Client.fseek, if_neg (present found)]
  rcases Whence.ofCode? whence with _ | w
  · exact bears_refused (c.leave Errno.invalid) found device
  · have carries : Carries (.seek off w) (fun _ => False) (κ := κ) (Stream.seek off w) :=
      ⟨by simp, fun _ => rfl, fun _ => rfl, fun _ _ _ never => never.elim⟩
    exact status_bears carries found device

theorem setvbuf_bears (mode : Int) (found : c.stream? p = some s) (device : s.device = .inr d) :
    Bears .plain d.cookie.events (run grants p c (.setvbuf mode)) := by
  rw [run, Client.setvbuf, if_neg (present found)]
  rcases Buffering.ofCode? mode with _ | b
  · exact bears_refused (c.leave Errno.invalid) found device
  · have carries : Carries (.setStrategy b) (fun _ => False) (κ := κ) (Stream.setStrategy b) :=
      ⟨by simp, fun _ => rfl, fun _ => rfl, fun _ _ _ never => never.elim⟩
    exact status_bears carries found device

theorem fflush_bears (found : c.stream? p = some s) (device : s.device = .inr d) :
    Bears .plain d.cookie.events (run grants p c .fflush) := by
  have carries : Carries .flush (fun _ => False) (κ := κ) Stream.flush :=
    ⟨by simp, fun _ => rfl, fun _ => rfl, fun _ _ _ never => never.elim⟩
  rw [run, Client.fflush, if_neg (present found)]
  exact status_bears carries found device

/-- a close that fails leaves the error number of the first failure, however the callbacks go on -/
theorem fclose_verbatim (found : c.stream? p = some s) (device : s.device = .inr d) :
    ∃ calls, (run grants p c .fclose).2.1.map Logged.events = some (d.cookie.events ++ calls) ∧
      ∀ e, (run grants p c .fclose).1 = true →
        (met s calls .fclose).head? = some (.io (.system e)) →
          (run grants p c .fclose).2.2.errno = e := by
  obtain ⟨h, rfl, named⟩ := Option.bind_eq_some_iff.mp found
  let u := c.desk.loan s
  have lent : u.device = .inr { d with errno := c.errno } := loan_device device
  have stranded : u.stranded = s.stranded := by
    rw [Stream.stranded, Stream.stranded, lent, device]
    rfl
  obtain ⟨desk, closed, -⟩ := Desk.close_vacates named
  have closed : (some h).bind c.desk.close = some (u.close.1, u.close.2, desk) := closed
  obtain ⟨callbacks, calls, log, first⟩ :=
    Stream.close_met (j := callbackJournal κ) (congrArg Sum.isRight lent)
  refine ⟨calls, ?_, ?_⟩
  · have log : heardBy u.close.2.device = heardBy u.device ++ calls := log
    rw [run, Client.fclose, closed]
    show (cookie? u.close.2).map Logged.events = _
    rw [cookie?_events callbacks, log, lent]
    rfl
  · intro e failed head
    rw [run, Client.fclose, closed] at failed ⊢
    rcases answer : u.close.1 with f | _ <;> rw [answer] at failed
    · cases waits : s.stranded with
      | true =>
        rw [met, waits, if_pos rfl] at head
        cases head
      | false =>
        rw [met, waits, if_neg Bool.false_ne_true, List.nil_append] at head
        rw [first f _ (stranded.trans waits) answer head]
        rfl
    · cases failed

/-- the calls that leave the stream where it is -/
theorem bears (grants : Nat → Bool) {errand : Errand} (stays : errand ≠ .fclose)
    (found : c.stream? p = some s) (device : s.device = .inr d) :
    ∃ st, (∀ calls, errand.met s calls = Event.faults st calls) ∧
      Bears st d.cookie.events (errand.run grants p c) := by
  cases errand with
  | read room count => exact ⟨_, fun _ => rfl, read_bears room count found device⟩
  | write bytes count => exact ⟨_, fun _ => rfl, write_bears bytes count found device⟩
  | fgetc => exact ⟨_, fun _ => rfl, fgetc_bears found device⟩
  | fputc ch => exact ⟨_, fun _ => rfl, fputc_bears ch found device⟩
  | ungetc ch => exact ⟨_, fun _ => rfl, ungetc_bears ch found device⟩
  | peek given => exact ⟨_, fun _ => rfl, peek_bears given found device⟩
  | getline b => exact ⟨_, fun _ => rfl, readLine_bears 0 b found device⟩
  | readLine limit b => exact ⟨_, fun _ => rfl, readLine_bears limit b found device⟩
  | fseek off whence => exact ⟨_, fun _ => rfl, fseek_bears off whence found device⟩
  | setvbuf mode => exact ⟨_, fun _ => rfl, setvbuf_bears mode found device⟩
  | fflush => exact ⟨_, fun _ => rfl, fflush_bears found device⟩
  | fclose => exact absurd rfl stays

/-- Take a call on a stream over callbacks, whatever they do.  It makes some calls of them, which are
the end of what the cookie heard.  If it fails, and a callback is the first to have failed, then
`errno` is the number that this callback left, whatever the ones after it left there. -/
theorem errno_verbatim (grants : Nat → Bool) (c : Client (Logged κ)) (p : Pointer) (errand : Errand)
    (found : c.stream? p = some s) (device : s.device = .inr d) :
    ∃ calls, (errand.run grants p c).2.1.map Logged.events = some (d.cookie.events ++ calls) ∧
      ∀ e, (errand.run grants p c).1 = true →
        (errand.met s calls).head? = some (.io (.system e)) →
          (errand.run grants p c).2.2.errno = e := by
  by_cases stays : errand = .fclose
  · rw [stays]
    exact fclose_verbatim found device
  · obtain ⟨st, same, calls, log, answer⟩ := bears grants stays found device
    refine ⟨calls, log, ?_⟩
    intro e failed first
    rw [same] at first
    exact answer failed _ (List.mem_of_head? first)

/-- the write callback refuses what waits and leaves 28, and the close callback fails and leaves 5 -/
theorem errno_verbatim_refused :
    let refusing : Logged Script :=
      { inner := { writes := [.fail (.code 28)], closes := [.fail (.code 5)] } }
    let fresh := Stream.opened { capacity := 8 }
      (.inr { cookie := refusing, table := .all } : Memory ⊕ Callback (Logged Script)) .both
    let waiting := { fresh with buffer := (fresh.buffer.append [1, 2]).2 }
    let c : Client (Logged Script) :=
      { desk := { slots := [⟨1, some waiting⟩], live := 1, shared := 0 } }
    let after := Errand.fclose.run (fun _ => true) (some ⟨0, 1⟩) c
    c.stream? (some ⟨0, 1⟩) = some waiting ∧ after.1 = true ∧
      after.2.1.map (·.events.map Event.fault?) =
        some [some (.io (.system 28)), some (.io (.system 5))] ∧
      after.2.2.errno = 28 := by
  intro refusing fresh waiting c after
  obtain ⟨calls, log, verbatim⟩ := errno_verbatim (fun _ => true) c (some ⟨0, 1⟩) .fclose
    (s := waiting) rfl rfl
  have failed : after.1 = true := by decide +kernel
  have same : calls = (after.2.1.map Logged.events).getD [] := by
    rw [log]
    rfl
  have first : (Errand.fclose.met waiting ((after.2.1.map Logged.events).getD [])).head? =
      some (.io (.system 28)) := by decide +kernel
  exact ⟨rfl, failed, by decide +kernel, verbatim 28 failed (same ▸ first)⟩

end Errand

end BufferedStreams
