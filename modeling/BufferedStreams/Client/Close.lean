import BufferedStreams.Client

/-!
# Closing streams in C

A cookie belongs to the caller, who gets it back in the state in which the callbacks left it.
-/

namespace BufferedStreams.Client

variable {κ : Type} [Cookie κ]

/-- closes a stream; the null pointer is no failure -/
def fclose (p : Pointer) (c : Client κ) : Int × Option κ × Client κ :=
  match p.bind c.desk.close with
  | none => (0, none, c)
  | some (r, s, desk) =>
    let (value, c) := status (settle r { c with desk })
    (value, cookie? s, c)

/-- what the caller of `closeSnatch` finds afterwards: the return value, the block that the
storage was copied to, null for storage without bytes, and what is behind the pointer for its
length -/
structure Parting where
  status : Int
  block : Option Bytes := none
  length : Option Nat
  deriving DecidableEq, Repr

/-- the storage in a block of the caller's, if one can be allocated -/
def handOver (grants : Nat → Bool) (bytes : Bytes) (length : Option Nat) (c : Client κ) :
    Parting × Client κ :=
  if bytes.isEmpty then ({ status := 0, length := storeBehind 0 length }, c)
  else if grants bytes.length then
    ({ status := 0, block := some bytes, length := storeBehind bytes.length length }, c)
  else ({ status := failure, length }, c.leave Errno.noMemory)

/-- closes a stream and hands the storage of its device to the caller, if it wants it: otherwise
the stream is just closed -/
def closeSnatch (grants : Nat → Bool) (p : Pointer) (wanted : Bool) (length : Option Nat)
    (c : Client κ) : Parting × Option κ × Client κ :=
  if (c.stream? p).isNone then ({ status := failure, length }, none, c.leave Errno.badFile)
  else if wanted then
    match p.bind c.desk.closeSnatch with
    | none => ({ status := failure, length }, none, c.leave Errno.badFile)
    | some (r, s, desk) =>
      match settle r { c with desk } with
      | (none, c) => ({ status := failure, length }, cookie? s, c)
      | (some bytes, c) =>
        let (parting, c) := handOver grants bytes length c
        (parting, cookie? s, c)
  else
    let (value, cookie, c) := c.fclose p
    ({ status := value, length }, cookie, c)

end BufferedStreams.Client
