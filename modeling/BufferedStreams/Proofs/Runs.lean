import BufferedStreams.Desk.Open
import BufferedStreams.Proofs.Transfer

/-!
# Runs

What a user does to an open stream is a list of operations.

* `Op`               one operation with its arguments;
* `Stream.after`     the stream after a list of operations, whatever they answered;
* `Stream.given`     the bytes its reads gave to the user;
* `Stream.taken`     the bytes its writes took from the user.

A run is one path (`Stream.after_path`), so the stream of a run is sound (`Stream.after_sound`).
-/

namespace BufferedStreams

/-- an operation on an open stream -/
inductive Op where
  | read (n : Nat)
  | getc
  | peek
  | skip (n : Nat)
  | unread (bytes : Bytes)
  | readLine (limit : Nat) (line : Bytes)
  | write (bytes : Bytes)
  | writeAll (bytes : Bytes)
  | putc (byte : UInt8)
  | seek (off : Int) (w : Whence)
  | rewind
  | flush
  | setStrategy (b : Buffering)
  deriving DecidableEq, Repr

variable {δ : Type} [Device δ]

namespace Op

def run (s : Stream δ) : Op → Stream δ
  | read n => (s.read n).2
  | getc => s.getc.2
  | peek => s.peek.2
  | skip n => (s.skip n).2
  | unread bytes => (s.unread bytes).2
  | readLine limit line => (s.readLine limit line).2.2
  | write bytes => (s.write bytes).2
  | writeAll bytes => (s.writeAll bytes).2
  | putc byte => (s.putc byte).2
  | seek off w => (s.seek off w).2
  | rewind => s.rewind.2
  | flush => s.flush.2
  | setStrategy b => (s.setStrategy b).2

/-- the bytes a read gives -/
def given (s : Stream δ) : Op → Bytes
  | read n => if n = 0 then [] else (s.intake n).1.bytes
  | getc => (s.intake 1).1.bytes
  | _ => []

/-- the bytes a write takes: as many of its first bytes as it moves before it stops -/
def taken (s : Stream δ) : Op → Bytes
  | write bytes => bytes.take (s.emit bytes).1.count
  | writeAll bytes => bytes.take (s.emit bytes).1.count
  | putc byte => [byte].take (s.emit [byte]).1.count
  | _ => []

def moved (s : Stream δ) (op : Op) : Nat := (op.given s).length + (op.taken s).length

def transfers : Op → Bool
  | read _ | getc | write _ | writeAll _ | putc _ => true
  | _ => false

/-- is it a reader, or a change of strategy? -/
def reads : Op → Bool
  | read _ | getc | peek | skip _ | unread _ | setStrategy _ => true
  | _ => false

end Op

namespace Stream

/-- a new stream, made as an opening says -/
def opened (o : Opening) (d : δ) (m : OpenMode) : Stream δ :=
  { ofDevice d m o.capacity with strategy := o.strategy, name := o.name }

def after : List Op → Stream δ → Stream δ
  | [], s => s
  | op :: ops, s => after ops (op.run s)

def given : List Op → Stream δ → Bytes
  | [], _ => []
  | op :: ops, s => op.given s ++ given ops (op.run s)

def taken : List Op → Stream δ → Bytes
  | [], _ => []
  | op :: ops, s => op.taken s ++ taken ops (op.run s)

theorem after_append (ops ops' : List Op) (s : Stream δ) :
    after (ops ++ ops') s = after ops' (after ops s) := by
  induction ops generalizing s with
  | nil => rfl
  | cons op ops ih => exact ih _

/-- this is the stream that a desk gives a slot -/
theorem place_opened {σ : Type} (o : Opening) (d : δ) (m : OpenMode) (k : Desk δ σ) :
    (k.place o d m).1 = (k.register (opened o d m)).1 ∧
      (k.place o d m).2.slots = (k.register (opened o d m)).2.slots :=
  ⟨rfl, rfl⟩

theorem opened_sound (o : Opening) (d : δ) (m : OpenMode) : (opened o d m).Sound :=
  have bare := ofDevice_sound d m o.capacity
  ⟨bare.collecting, bare.serving⟩

variable {s : Stream δ}

/-- an operation is one path -/
theorem op_path (op : Op) (sound : s.Sound) :
    Path true s (op.given s) (op.taken s) (op.run s) := by
  cases op with
  | read n => exact (read_path n sound).to_true
  | getc => exact (getc_path sound).to_true
  | peek => exact peek_path s
  | skip n => exact skip_path n s
  | unread bytes => exact unread_path bytes s
  | readLine limit line => exact readLine_path limit line s
  | write bytes => exact write_path bytes s
  | writeAll bytes => exact writeAll_path bytes s
  | putc byte => exact writeAll_path [byte] s
  | seek off w => exact seek_path off w
  | rewind => exact rewind_path
  | flush => exact flush_path
  | setStrategy b => exact setStrategy_path b

theorem after_path (ops : List Op) (sound : s.Sound) :
    Path true s (given ops s) (taken ops s) (after ops s) := by
  induction ops generalizing s with
  | nil => exact .refl _ _
  | cons op ops ih =>
    have h := op_path op sound
    exact h.trans (ih (h.sound sound))

/-- the stream of a run is sound -/
theorem after_sound (ops : List Op) (sound : s.Sound) : (after ops s).Sound :=
  (after_path ops sound).sound sound

end Stream

end BufferedStreams
