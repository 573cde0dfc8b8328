import BufferedStreams.Client

/-!
# Opening streams in C

A mode is a string of C: it ends before its first zero byte, and it has to be text.
-/

namespace BufferedStreams.Client

variable {κ : Type}

/-- the text of a mode; none for a null pointer and for bytes that are not text -/
def modeText? (mode : Option Bytes) : Option String :=
  mode.bind fun bytes => String.fromUTF8? ⟨(bytes.takeWhile (· != 0)).toArray⟩

/-- opens a stream the way `f` does once the mode is known to be text -/
def opened (mode : Option Bytes)
    (f : String → Desk (Memory ⊕ Callback κ) Errno →
      Except Fault Handle × Desk (Memory ⊕ Callback κ) Errno)
    (c : Client κ) : Pointer × Client κ :=
  match modeText? mode with
  | none => (none, c.leave Errno.invalid)
  | some text =>
    let (r, desk) := f text c.desk
    settle r { c with desk }

/-- the limit that a number stands for; zero is no limit -/
def limit? (n : Nat) : Option Nat := if n = 0 then none else some n

variable [Cookie κ]

/-- opens a stream over callbacks -/
def openCookie (cookie : κ) (mode : Option Bytes) (table : Abilities) (c : Client κ) :
    Pointer × Client κ :=
  c.opened mode fun text desk =>
    desk.openOn (Opening.ofSizing c.sizing) (.inr { cookie, table, errno := desk.shared }) text

/-- opens a stream over new memory -/
def openMemory (limit : Nat) (mode : Option Bytes) (c : Client κ) : Pointer × Client κ :=
  c.opened mode fun text desk => desk.openMemory c.sizing (limit? limit) text

/-- opens a stream over new memory that holds the first `length` bytes behind `data`, or nothing if
`data` is null -/
def openMemoryWith (limit : Nat) (mode : Option Bytes) (data : Option Bytes) (length : Nat)
    (c : Client κ) : Pointer × Client κ :=
  c.opened mode fun text desk =>
    desk.openMemoryWith c.sizing (limit? limit) text ((data.getD []).take length)

end BufferedStreams.Client
