import BufferedStreams.Device.Endpoint
import BufferedStreams.Proofs.Trace

/-!
# Interruptions

A reader or a writer tries a call again while it is interrupted, so its calls answer and do what they
would over an endpoint that is never interrupted.  The close of a writer is the exception.  Its flush
is made once: if it is interrupted, the close fails, nothing was flushed, and the writer is closed
all the same.

* `Calms still`           an endpoint, and in it the same one without its interruptions;
* `retry_still`           a call that is tried again does what the calm endpoint does;
* `Reader.perform_map`, `Writer.perform_map`   one call of a device over either endpoint;
* `interruptions_hidden`  what a run of calls tells of the interruptions.
-/

namespace BufferedStreams

variable {ε σ α : Type}

/-! ## one call -/

/-- a call is interrupted and has no effect that `still` sees, or it is not and does what the calm
call does -/
def CalmsCall (still : ε → σ) (call : ε → Except Mishap α × ε) (calm : σ → Except Mishap α × σ) :
    Prop :=
  ∀ e r e', call e = (r, e') →
    (∃ m, r = .error m ∧ m.interrupts = true ∧ still e' = still e) ∨
      (∀ m, r = .error m → m.interrupts = false) ∧ calm (still e) = (r, still e')

/-- `still` finds in an endpoint the one that it is without its interruptions -/
structure Calms [Endpoint ε] [Endpoint σ] (still : ε → σ) : Prop where
  read (n : Nat) : CalmsCall still (Endpoint.read n) (Endpoint.read n)
  write (bytes : Bytes) : CalmsCall still (Endpoint.write bytes) (Endpoint.write bytes)
  flush : CalmsCall still Endpoint.flush Endpoint.flush

section

variable {call : ε → Except Mishap α × ε} {bound : ε → Nat}
  (drops : ∀ e m e', call e = (.error m, e') → m.interrupts = true → bound e' < bound e)

/-- a call that is not interrupted is made once -/
theorem retry_once {e e' : ε} {r : Except Mishap α} (once : call e = (r, e'))
    (told : ∀ m, r = .error m → m.interrupts = false) : retry call bound drops e = (r, e') := by
  rw [retry]
  split
  · next a d here => exact here.symm.trans once
  · next m d here =>
    obtain ⟨rfl, rfl⟩ := Prod.mk.inj (once.symm.trans here)
    rw [dif_neg (by rw [told m rfl]; exact Bool.false_ne_true)]

variable {still : ε → σ} {calm : σ → Except Mishap α × σ} (calms : CalmsCall still call calm)

include calms

/-- trying again ends with an answer that is no interruption, the one of the calm call -/
theorem retry_calm (e : ε) :
    (∀ m, (retry call bound drops e).1 = .error m → m.interrupts = false) ∧
      calm (still e) = ((retry call bound drops e).1, still (retry call bound drops e).2) := by
  fun_induction retry call bound drops e with
  | case1 e a e' here =>
    rcases calms e _ e' here with ⟨m, failed, -⟩ | once
    · cases failed
    · exact once
  | case2 e m e' here interrupted _ ih =>
    rcases calms e _ e' here with ⟨_, -, -, same⟩ | ⟨told, -⟩
    · rw [← same]
      exact ih
    · rw [told m rfl] at interrupted
      cases interrupted
  | case3 e m e' here interrupted =>
    rcases calms e _ e' here with ⟨n, same, interrupts, -⟩ | once
    · cases same
      exact absurd interrupts interrupted
    · exact once

/-- with the calm call there is nothing to try again -/
theorem retry_still {bound' : σ → Nat}
    (drops' : ∀ s m s', calm s = (.error m, s') → m.interrupts = true → bound' s' < bound' s)
    (e : ε) :
    retry calm bound' drops' (still e) =
      ((retry call bound drops e).1, still (retry call bound drops e).2) :=
  have ⟨told, once⟩ := retry_calm drops calms e
  retry_once drops' once told

end

/-! ## runs of calls -/

/-- a call of a device that cannot seek -/
inductive Use where
  | read (n : Nat)
  | write (bytes : Bytes)
  | flush
  | close
  deriving DecidableEq, Repr

namespace Use

variable {δ γ : Type} [Device δ] [Device γ]

def perform (d : δ) : Use → Event × δ
  | read n => (.read n (Device.read n d).1, (Device.read n d).2)
  | write bytes => (.write bytes (Device.write bytes d).1, (Device.write bytes d).2)
  | flush => (.flush (Device.flush d).1, (Device.flush d).2)
  | close => (.close (Device.close d).1, (Device.close d).2)

/-- the calls with their answers -/
def events : List Use → δ → List Event
  | [], _ => []
  | u :: us, d => (u.perform d).1 :: events us (u.perform d).2

def after : List Use → δ → δ
  | [], d => d
  | u :: us, d => after us (u.perform d).2

theorem events_append (us vs : List Use) (d : δ) :
    events (us ++ vs) d = events us d ++ events vs (after us d) := by
  induction us generalizing d with
  | nil => rfl
  | cons u us ih => exact congrArg (_ :: ·) (ih _)

theorem after_append (us vs : List Use) (d : δ) : after (us ++ vs) d = after vs (after us d) := by
  induction us generalizing d with
  | nil => rfl
  | cons u us ih => exact ih _

/-- the same calls tell the same of two devices, and leave them alike -/
def Alike (f : δ → γ) (us : List Use) (d : δ) : Prop :=
  events us (f d) = events us d ∧ after us (f d) = f (after us d)

variable {f : δ → γ} {us vs : List Use}

theorem Alike.cons {u : Use} {d : δ} (here : u.perform (f d) = ((u.perform d).1, f (u.perform d).2))
    (rest : Alike f us (u.perform d).2) : Alike f (u :: us) d := by
  refine ⟨?_, ?_⟩
  · rw [events, here, rest.1, events]
  · rw [after, here, rest.2, after]

theorem Alike.append {d : δ} (first : Alike f us d) (rest : Alike f vs (after us d)) :
    Alike f (us ++ vs) d := by
  refine ⟨?_, ?_⟩
  · rw [events_append, events_append, first.1, first.2, rest.1]
  · rw [after_append, after_append, first.2, rest.2]

theorem alike_of_perform
    (same : ∀ u ∈ us, ∀ d, u.perform (f d) = ((u.perform d).1, f (u.perform d).2)) (d : δ) :
    Alike f us d := by
  induction us generalizing d with
  | nil => exact ⟨rfl, rfl⟩
  | cons u us ih =>
    exact .cons (same u List.mem_cons_self d)
      (ih (fun v mem => same v (List.mem_cons_of_mem u mem)) _)

end Use

/-! ## readers and writers -/

/-- the same reader over the endpoint that `f` finds -/
def Reader.map (f : ε → σ) (r : Reader ε) : Reader σ := ⟨f r.endpoint, r.isOpen⟩

def Writer.map (f : ε → σ) (w : Writer ε) : Writer σ := ⟨f w.endpoint, w.isOpen⟩

variable [Endpoint ε] [Endpoint σ] {still : ε → σ}

/-- a reader does not tell of interruptions -/
theorem Reader.perform_map (calms : Calms still) (u : Use) (r : Reader ε) :
    u.perform (r.map still) = ((u.perform r).1, (u.perform r).2.map still) := by
  cases u with
  | read n =>
    have read : (r.map still).read n = ((r.read n).1, (r.read n).2.map still) := by
      obtain ⟨e, _ | _⟩ := r
      · rfl
      · have same := retry_still (Endpoint.read_interrupted n) (calms.read n)
          (Endpoint.read_interrupted n) e
        simp only [Reader.read, Reader.map, if_true, same]
    show (Event.read n ((r.map still).read n).1, ((r.map still).read n).2) = _
    rw [read]
    rfl
  | write bytes => rfl
  | flush => rfl
  | close => rfl

/-- what a writer does not tell of is an interruption of anything but its close -/
theorem Writer.perform_map (calms : Calms still) {u : Use} (hu : u ≠ .close) (w : Writer ε) :
    u.perform (w.map still) = ((u.perform w).1, (u.perform w).2.map still) := by
  cases u with
  | read n => rfl
  | write bytes =>
    have write : (w.map still).write bytes = ((w.write bytes).1, (w.write bytes).2.map still) := by
      obtain ⟨e, _ | _⟩ := w
      · rfl
      · have same := retry_still (Endpoint.write_interrupted bytes) (calms.write bytes)
          (Endpoint.write_interrupted bytes) e
        simp only [Writer.write, Writer.map, if_true, same]
    show (Event.write bytes ((w.map still).write bytes).1, ((w.map still).write bytes).2) = _
    rw [write]
    rfl
  | flush =>
    have flush : (w.map still).flush = (w.flush.1, w.flush.2.map still) := by
      obtain ⟨e, _ | _⟩ := w
      · rfl
      · have same := retry_still Endpoint.flush_interrupted calms.flush Endpoint.flush_interrupted e
        simp only [Writer.flush, Writer.map, if_true, same]
    show (Event.flush (w.map still).flush.1, (w.map still).flush.2) = _
    rw [flush]
    rfl
  | close => exact absurd rfl hu

/-! ## the close of a writer -/

/-- the flush of a close would be interrupted -/
def Writer.Startled (w : Writer ε) : Prop :=
  ∃ m, (Endpoint.flush w.endpoint).1 = .error m ∧ m.interrupts = true

/-- what a closed writer answers -/
def Use.refused : Use → Event
  | .read n => .read n (.error (.unsupported .read))
  | .write bytes => .write bytes (.error notOpen)
  | .flush => .flush (.error notOpen)
  | .close => .close (.ok ())

theorem Writer.perform_closed {w : Writer ε} (shut : w.isOpen = false) (u : Use) :
    u.perform w = (u.refused, w) := by
  obtain ⟨e, _ | _⟩ := w
  · cases u <;> rfl
  · cases shut

/-- a closed writer stays as it is -/
theorem Writer.run_closed {w : Writer ε} (shut : w.isOpen = false) (us : List Use) :
    Use.events us w = us.map Use.refused ∧ Use.after us w = w := by
  induction us with
  | nil => exact ⟨rfl, rfl⟩
  | cons u us ih =>
    rw [Use.events, Use.after, perform_closed shut u]
    exact ⟨congrArg (u.refused :: ·) ih.1, ih.2⟩

theorem Writer.alike_closed {w : Writer ε} (shut : w.isOpen = false) (us : List Use) :
    Use.Alike (Writer.map still) us w := by
  have shut' : (w.map still).isOpen = false := shut
  obtain ⟨told, left⟩ := run_closed shut us
  obtain ⟨told', left'⟩ := run_closed shut' us
  exact ⟨told'.trans told.symm, by rw [left, left']⟩

theorem Writer.isOpen_perform {u : Use} (hu : u ≠ .close) (w : Writer ε) :
    (u.perform w).2.isOpen = w.isOpen := by
  obtain ⟨e, _ | _⟩ := w
  · rw [perform_closed rfl]
  · cases u with
    | close => exact absurd rfl hu
    | _ => rfl

theorem Writer.isOpen_after {us : List Use} (none : .close ∉ us) (w : Writer ε) :
    (Use.after us w).isOpen = w.isOpen := by
  induction us generalizing w with
  | nil => rfl
  | cons u us ih =>
    have first : u ≠ .close := fun same => none (same ▸ List.mem_cons_self)
    have rest : .close ∉ us := fun mem => none (List.mem_cons_of_mem u mem)
    exact (ih rest _).trans (isOpen_perform first w)

/-- up to its close a writer does not tell of interruptions -/
theorem Writer.alike_open (calms : Calms still) {us : List Use} (none : .close ∉ us)
    (w : Writer ε) : Use.Alike (Writer.map still) us w :=
  Use.alike_of_perform (fun _ mem => perform_map calms fun same => none (same ▸ mem)) w

theorem Writer.close_shuts (w : Writer ε) : (Use.close.perform w).2.isOpen = false := by
  obtain ⟨e, _ | _⟩ := w
  · rfl
  · rfl

/-- a close whose flush is not interrupted does what it does over the calm endpoint -/
theorem Writer.close_quiet (calms : Calms still) {w : Writer ε} (quiet : ¬ w.Startled) :
    Use.close.perform (w.map still) =
      ((Use.close.perform w).1, (Use.close.perform w).2.map still) := by
  have close : (w.map still).close = (w.close.1, w.close.2.map still) := by
    obtain ⟨e, _ | _⟩ := w
    · rfl
    · rcases flushed : (Endpoint.flush e : Except Mishap Unit × ε) with ⟨r, e'⟩
      rcases calms.flush e r e' flushed with ⟨m, rfl, interrupts, -⟩ | ⟨-, same⟩
      · exact absurd ⟨m, congrArg Prod.fst flushed, interrupts⟩ quiet
      · simp only [Writer.close, Writer.map, if_true, flushed, same]
  exact congrArg (fun r => (Event.close r.1, r.2)) close

/-- an interrupted close fails, flushes nothing and leaves the writer closed -/
theorem Writer.close_startled (calms : Calms still) {w : Writer ε} (opn : w.isOpen = true)
    {m : Mishap} (failed : (Endpoint.flush w.endpoint).1 = .error m)
    (interrupts : m.interrupts = true) :
    (Use.close.perform w).1 = .close (.error (.io m.cause)) ∧
      (Use.close.perform w).2.map still = { w.map still with isOpen := false } := by
  obtain ⟨e, _ | _⟩ := w
  · cases opn
  · rcases flushed : (Endpoint.flush e : Except Mishap Unit × ε) with ⟨r, e'⟩
    obtain rfl : r = .error m := (congrArg Prod.fst flushed).symm.trans failed
    have unmoved : still e' = still e := by
      rcases calms.flush e _ e' flushed with ⟨_, -, -, same⟩ | ⟨told, -⟩
      · exact same
      · rw [told m rfl] at interrupts
        cases interrupts
    have close : Writer.close { endpoint := e, isOpen := true } =
        (.error (.io m.cause), { endpoint := e', isOpen := false }) := by
      simp only [Writer.close, if_true, flushed]
      rfl
    refine ⟨congrArg (fun r : Except Fault Unit × Writer ε => Event.close r.1) close, ?_⟩
    show (Writer.close { endpoint := e, isOpen := true }).2.map still = _
    rw [close, Writer.map, unmoved]
    rfl

theorem Mishap.cause_inj {m n : Mishap} (h : m.cause = n.cause) : m = n := by
  cases m <;> cases n <;> cases h <;> rfl

/-- over the calm endpoint no close fails by an interruption -/
theorem Writer.close_told (calms : Calms still) (w : Writer ε) {m : Mishap}
    (interrupts : m.interrupts = true) : (w.map still).close.1 ≠ .error (.io m.cause) := by
  obtain ⟨e, _ | _⟩ := w
  · rintro ⟨⟩
  · intro failed
    have ⟨told, once⟩ := retry_calm Endpoint.flush_interrupted calms.flush e
    simp only [Writer.close, Writer.map, if_true, once] at failed
    rcases answer : (retry Endpoint.flush Endpoint.interruptions Endpoint.flush_interrupted e).1 with
      n | _
    · rw [answer] at failed
      injection failed with same
      injection same with same
      rw [← Mishap.cause_inj same, told n answer] at interrupts
      cases interrupts
    · rw [answer] at failed
      cases failed

/-! ## runs of a writer -/

section

variable (calms : Calms still) {before : List Use} (first : .close ∉ before) (later : List Use)

include calms first

/-- a run whose first close is not interrupted tells of no interruption -/
theorem Writer.run_quiet {w : Writer ε} (quiet : ¬ (Use.after before w).Startled) :
    Use.Alike (Writer.map still) (before ++ .close :: later) w :=
  (alike_open calms first w).append
    (.cons (close_quiet calms quiet) (alike_closed (close_shuts _) later))

/-- a run whose first close is interrupted tells of that interruption and of no other -/
theorem Writer.run_startled {w : Writer ε} (opn : w.isOpen = true) {m : Mishap}
    (failed : (Endpoint.flush (Use.after before w).endpoint).1 = .error m)
    (interrupts : m.interrupts = true) :
    Use.events (before ++ .close :: later) w =
        Use.events before (w.map still) ++ .close (.error (.io m.cause)) ::
          Use.events later (Use.close.perform (Use.after before (w.map still))).2 ∧
      (Use.after (before ++ .close :: later) w).map still =
        { Use.after before (w.map still) with isOpen := false } := by
  obtain ⟨told, left⟩ := alike_open calms first w
  have opn' : (Use.after before w).isOpen = true := (isOpen_after first w).trans opn
  obtain ⟨answer, unmoved⟩ := close_startled calms opn' failed interrupts
  obtain ⟨refused, stays⟩ := run_closed (close_shuts (Use.after before w)) later
  obtain ⟨refused', -⟩ := run_closed (close_shuts (Use.after before (w.map still))) later
  refine ⟨?_, ?_⟩
  · rw [Use.events_append, told, Use.events, answer, refused, refused']
  · rw [Use.after_append, Use.after, stays, unmoved, left]

end

/-! ## scripts -/

def Action.interrupts : Action → Bool
  | .fail m => m.interrupts
  | _ => false

def Call.interrupted : Call → Bool
  | .read _ (.error m) => m.interrupts
  | .write _ (.error m) => m.interrupts
  | .flush (.error m) => m.interrupts
  | _ => false

namespace Script

def calmPlan (q : List Action) : List Action := q.filter fun a => !a.interrupts

/-- the script without its interruptions, those it has still to make and those it made -/
def calmed (s : Script) : Script :=
  { s with
    reads := calmPlan s.reads
    writes := calmPlan s.writes
    flushes := calmPlan s.flushes
    calls := s.calls.filter fun c => !c.interrupted }

/-- an interruption is taken out of a queue, any other action stays in its place -/
theorem next_calmPlan {q rest : List Action} {a : Action} (queue : next q = (a, rest)) :
    (∃ m, a = .fail m ∧ m.interrupts = true ∧ calmPlan q = calmPlan rest) ∨
      a.interrupts = false ∧ next (calmPlan q) = (a, calmPlan rest) := by
  cases q with
  | nil =>
    obtain ⟨rfl, rfl⟩ := Prod.mk.inj queue
    exact .inr ⟨rfl, rfl⟩
  | cons b q =>
    obtain ⟨rfl, rfl⟩ := Prod.mk.inj queue
    cases interrupts : b.interrupts with
    | false => exact .inr ⟨rfl, by simp [calmPlan, interrupts, next]⟩
    | true =>
      cases b with
      | fail m => exact .inl ⟨m, rfl, interrupts, by simp [calmPlan, interrupts]⟩
      | _ => cases interrupts

theorem calmed_record (s : Script) {c : Call} (h : c.interrupted = false) :
    (s.record c).calmed = s.calmed.record c := by
  simp [calmed, record, h]

theorem calmed_record_interrupted (s : Script) {c : Call} (h : c.interrupted = true) :
    (s.record c).calmed = s.calmed := by
  simp [calmed, record, h]

section

variable {s t : Script} {r : Except Mishap α} {s' : Script} {c : Call} {m : Mishap}

/-- an interrupted call leaves no trace in the calm script -/
theorem calms_interrupted (call : (.error m, t.record c) = (r, s')) (interrupts : m.interrupts = true)
    (entry : c.interrupted = m.interrupts) (same : t.calmed = s.calmed) :
    ∃ m, r = .error m ∧ m.interrupts = true ∧ s'.calmed = s.calmed := by
  obtain ⟨rfl, rfl⟩ := Prod.mk.inj call
  exact ⟨m, rfl, interrupts, (calmed_record_interrupted t (entry.trans interrupts)).trans same⟩

/-- any other call leaves the trace that the calm script has of it -/
theorem calms_told {r₀ : Except Mishap α} (call : (r₀, t.record c) = (r, s'))
    (told : ∀ m, r₀ = .error m → m.interrupts = false) (entry : c.interrupted = false) :
    (∀ m, r = .error m → m.interrupts = false) ∧ (r₀, t.calmed.record c) = (r, s'.calmed) := by
  obtain ⟨rfl, rfl⟩ := Prod.mk.inj call
  exact ⟨told, congrArg (r₀, ·) (calmed_record t entry).symm⟩

end

theorem calms_read (n : Nat) : CalmsCall calmed (read n) (read n) := by
  intro s r s' call
  rcases queue : next s.reads with ⟨a, rest⟩
  rw [read, queue] at call
  rcases next_calmPlan queue with ⟨m, rfl, interrupts, same⟩ | ⟨plain, queue'⟩
  · refine .inl (calms_interrupted call interrupts rfl ?_)
    rw [calmed, calmed, same]
  · have queue' : next s.calmed.reads = (a, calmPlan rest) := queue'
    rw [read, queue']
    cases a with
    | fail m => exact .inr (calms_told call (by rintro _ ⟨⟩; exact plain) plain)
    | _ => exact .inr (calms_told call nofun rfl)

theorem calms_write (bytes : Bytes) : CalmsCall calmed (write bytes) (write bytes) := by
  intro s r s' call
  rcases queue : next s.writes with ⟨a, rest⟩
  rw [write, queue] at call
  rcases next_calmPlan queue with ⟨m, rfl, interrupts, same⟩ | ⟨plain, queue'⟩
  · refine .inl (calms_interrupted call interrupts rfl ?_)
    rw [calmed, calmed, same]
  · have queue' : next s.calmed.writes = (a, calmPlan rest) := queue'
    rw [write, queue']
    cases a with
    | fail m => exact .inr (calms_told call (by rintro _ ⟨⟩; exact plain) plain)
    | _ =>
      have aim : ({ s.calmed with writes := calmPlan rest } : Script).target =
          ({ s with writes := rest } : Script).target := rfl
      dsimp only at call aim ⊢
      rw [aim]
      right
      split at call
      · next none =>
        rw [if_pos none]
        exact calms_told call nofun rfl
      · next some =>
        rw [if_neg some]
        split at call
        · next far =>
          rw [if_pos far]
          exact calms_told call (by rintro _ ⟨⟩; rfl) rfl
        · next near =>
          rw [if_neg near]
          exact calms_told call nofun rfl

theorem calms_flush : CalmsCall calmed flush flush := by
  intro s r s' call
  rcases queue : next s.flushes with ⟨a, rest⟩
  rw [flush, queue] at call
  rcases next_calmPlan queue with ⟨m, rfl, interrupts, same⟩ | ⟨plain, queue'⟩
  · refine .inl (calms_interrupted call interrupts rfl ?_)
    rw [calmed, calmed, same]
  · have queue' : next s.calmed.flushes = (a, calmPlan rest) := queue'
    rw [flush, queue']
    cases a with
    | fail m => exact .inr (calms_told call (by rintro _ ⟨⟩; exact plain) plain)
    | _ => exact .inr (calms_told call nofun rfl)

/-- a script without its interruptions is a calm one -/
theorem calms_calmed : Calms calmed := ⟨calms_read, calms_write, calms_flush⟩

end Script

/-! ## what is told of interruptions -/

/-- Take an endpoint whose calls may be interrupted, and the same endpoint without interruptions.  A
reader answers the same and moves the same bytes over either, whatever calls are made of it.  So does
a writer exactly if its first close finds its flush not interrupted.  If it is, the close fails by
the interruption, the endpoint stays as it was before the close, and the writer is closed; what it
answers before and after is the same again. -/
theorem interruptions_hidden (calms : Calms still) (e : ε) (uses : List Use) :
    let r : Reader ε := { endpoint := e }
    let w : Writer ε := { endpoint := e }
    Use.Alike (Reader.map still) uses r ∧
      (Use.Alike (Writer.map still) uses w ↔ ∀ before later, uses = before ++ .close :: later →
        .close ∉ before → ¬ (Use.after before w).Startled) ∧
      ∀ before later m, uses = before ++ .close :: later → .close ∉ before →
        (Endpoint.flush (Use.after before w).endpoint).1 = .error m → m.interrupts = true →
        let calm := Use.after before (w.map still)
        Use.events uses w = Use.events before (w.map still) ++
            .close (.error (.io m.cause)) :: Use.events later (Use.close.perform calm).2 ∧
          (Use.after uses w).map still = { calm with isOpen := false } := by
  intro r w
  refine ⟨Use.alike_of_perform (fun u _ r => r.perform_map calms u) r, ⟨?_, ?_⟩, ?_⟩
  · rintro ⟨told, -⟩ before later rfl first ⟨m, failed, interrupts⟩
    -- the calm close would have to fail by the same interruption
    have broken := (Writer.run_startled calms first later rfl failed interrupts).1
    rw [← told, Use.events_append] at broken
    have close := (List.cons.inj (List.append_cancel_left broken)).1
    rw [(Writer.alike_open calms first w).2] at close
    injection close with close
    exact Writer.close_told calms _ interrupts close
  · intro quiet
    by_cases mem : Use.close ∈ uses
    · obtain ⟨before, later, rfl, first⟩ := List.eq_append_cons_of_mem mem
      exact Writer.run_quiet calms first later (quiet before later rfl first)
    · exact Writer.alike_open calms mem w
  · rintro before later m rfl first failed interrupts
    exact Writer.run_startled calms first later rfl failed interrupts

/-- a script that interrupts each kind of call, and its close at last -/
def fitful : Script where
  data := [97, 98]
  reads := [.fail .interrupted, .fail (.code Errno.intr), .atMost 1]
  writes := [.fail .interrupted, .plain]
  flushes := [.fail .interrupted, .plain, .fail .interrupted]

theorem interruptions_hidden_fitful :
    Use.Alike (Reader.map Script.calmed) [.read 2, .close] { endpoint := fitful } ∧
      (Endpoint.flush (Use.after [.write [120], .flush]
        ({ endpoint := fitful } : Writer Script)).endpoint).1 = .error .interrupted ∧
      Use.events [.write [120], .flush, .close, .flush] ({ endpoint := fitful } : Writer Script) =
        [.write [120] (.ok 1), .flush (.ok ()), .close (.error (.io .interrupted)),
          .flush (.error notOpen)] := by
  have interrupted : (Endpoint.flush (Use.after [.write [120], .flush]
      ({ endpoint := fitful } : Writer Script)).endpoint).1 = .error .interrupted := by
    with_unfolding_all rfl
  have reader := interruptions_hidden Script.calms_calmed fitful [.read 2, .close]
  have writer := interruptions_hidden Script.calms_calmed fitful
    [.write [120], .flush, .close, .flush]
  have told := (writer.2.2 [.write [120], .flush] [.flush] .interrupted rfl (by decide) interrupted
    rfl).1
  refine ⟨reader.1, interrupted, told.trans ?_⟩
  with_unfolding_all rfl

/-- the close of a writer tells of an interruption that the calm endpoint does not make -/
theorem interrupted_close_told :
    let w : Writer Script := { endpoint := { flushes := [.fail .interrupted] } }
    Calms Script.calmed ∧
      Use.events [.write [120], .close] (w.map Script.calmed) =
        [.write [120] (.ok 1), .close (.ok ())] ∧
      Use.events [.write [120], .close] w =
        [.write [120] (.ok 1), .close (.error (.io .interrupted))] := by
  refine ⟨Script.calms_calmed, ?_, ?_⟩
  · with_unfolding_all rfl
  · with_unfolding_all rfl

end BufferedStreams
