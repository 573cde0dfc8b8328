import BufferedStreams.Device.Script

/-!
# Callback devices

A device made of C callbacks over an opaque cookie.  A callback that fails leaves an error number
in the thread's `errno`, and that number is the fault; it stays there for whoever looks.  A device
lacks the operations whose callback is missing, and the close callback is called at most once.
-/

namespace BufferedStreams

/-- the callbacks over one kind of cookie; a failure is the error number that it leaves behind -/
class Cookie (κ : Type) where
  read : Nat → κ → Except Errno Delivery × κ
  write : Bytes → κ → Except Errno Nat × κ
  /-- a write of no bytes, which is how a callback is told of a flush -/
  notify : κ → Except Errno Unit × κ
  /-- the position reported may be anything, also below zero -/
  seek : Int → Whence → κ → Except Errno Int × κ
  close : κ → Except Errno Unit × κ

/-- callbacks over a cookie, and the thread's `errno` as they see it -/
structure Callback (κ : Type) where
  cookie : κ
  table : Abilities
  errno : Errno := 0

namespace Callback

variable {κ α : Type}

/-- what a callback returned: the cookie afterwards, and on a failure the error number left -/
def settle (d : Callback κ) (r : Except Errno α × κ) : Except Fault α × Callback κ :=
  match r with
  | (.ok a, k) => (.ok a, { d with cookie := k })
  | (.error e, k) => (.error (.io (.system e)), { d with cookie := k, errno := e })

variable [Cookie κ]

def read (n : Nat) (d : Callback κ) : Except Fault Delivery × Callback κ :=
  if d.table.read then d.settle (Cookie.read n d.cookie)
  else (.error (.unsupported .read), d)

def write (bytes : Bytes) (d : Callback κ) : Except Fault Nat × Callback κ :=
  if d.table.write then d.settle (Cookie.write bytes d.cookie)
  else (.error (.unsupported .write), d)

def flush (d : Callback κ) : Except Fault Unit × Callback κ :=
  if d.table.write then d.settle (Cookie.notify d.cookie) else (.ok (), d)

def seek (off : Int) (w : Whence) (d : Callback κ) : Except Fault Nat × Callback κ :=
  if d.table.seek then
    match d.settle (Cookie.seek off w d.cookie) with
    | (.ok pos, d) => (if pos < 0 then .error (.invalid .negativeResult) else .ok pos.toNat, d)
    | (.error f, d) => (.error f, d)
  else (.error (.unsupported .seek), d)

def close (d : Callback κ) : Except Fault Unit × Callback κ :=
  if d.table.close then
    { d with table := { d.table with close := false } }.settle (Cookie.close d.cookie)
  else (.ok (), d)

instance : Device (Callback κ) where
  abilities := Callback.table
  read := read
  write := write
  flush := flush
  seek := seek
  close := close

end Callback

/-- an answer of a script, as a callback gives it -/
def Script.byErrno {α : Type} (r : Except Mishap α × Script) : Except Errno α × Script :=
  (r.1.mapError Mishap.errno, r.2)

instance : Cookie Script where
  read n s := Script.byErrno (s.read n)
  write bytes s := Script.byErrno (s.write bytes)
  notify s := Script.byErrno s.flush
  seek off w s := Script.byErrno (s.seek off w)
  close s := Script.byErrno s.close

end BufferedStreams
