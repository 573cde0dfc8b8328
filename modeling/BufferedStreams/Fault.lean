import BufferedStreams.Errno

/-!
# Faults

What can go wrong in a stream or in the device below it.  A fault is a cause; its wording is in
`Fault.message` and its error number in `Fault.errno`.  End of data is not a fault: a device that
delivers no bytes makes a read come up short and sets the end mark of the stream.
-/

namespace BufferedStreams

/-- the operations a device may lack -/
inductive Lack where
  | read
  | write
  | seek
  | snatch
  /-- the device itself declined the operation -/
  | requested
  deriving DecidableEq, Repr

/-- the word for an operation in a message -/
def Lack.word : Lack → String
  | .read => "read"
  | .write => "write"
  | .seek => "seek"
  | .snatch => "snatch"
  | .requested => "requested"

/-- why an argument was refused -/
inductive Objection where
  | emptyMode
  | unknownMode
  | pastBuffered
  | pastPushback
  | skipWhileWriting
  | offsetOverflow
  | beforeStart
  | negativeTarget
  | negativeResult
  | sizeOverflow
  | missingMemory
  | dataTooLong
  | memoryTooLong
  /-- the device itself refused an argument -/
  | byDevice
  deriving DecidableEq, Repr

def Objection.reason : Objection → String
  | .emptyMode => "empty mode string"
  | .unknownMode => "mode must start with r, w or a"
  | .pastBuffered => "skip past buffered data"
  | .pastPushback => "skip past pushback data"
  | .skipWhileWriting => "skip on a writing stream"
  | .offsetOverflow => "seek offset overflow"
  | .beforeStart => "seek before start of data"
  | .negativeTarget => "negative absolute offset"
  | .negativeResult => "negative seek result"
  | .sizeOverflow => "memory size overflow"
  | .missingMemory => "nonzero memory size without memory"
  | .dataTooLong => "data length exceeds memory size"
  | .memoryTooLong => "memory longer than memory size"
  | .byDevice => "backend rejected argument"

/-- why a device failed -/
inductive Cause where
  | system (e : Errno)
  /-- a write moved no byte -/
  | nothingAccepted
  | interrupted
  /-- some of several streams could not be flushed -/
  | notAllFlushed
  | other (text : String)
  deriving DecidableEq, Repr

/-- a failure of a stream operation -/
inductive Fault where
  | unsupported (op : Lack)
  | invalid (why : Objection)
  /-- a memory device may not grow any further -/
  | outOfSpace
  | outOfMemory
  | io (cause : Cause)
  deriving DecidableEq, Repr

/-- the text of a cause; none where the system gave an error number and words are its own affair -/
def Cause.text? : Cause → Option String
  | .system _ => none
  | .nothingAccepted => some "backend accepted no bytes"
  | .interrupted => some "interrupted"
  | .notAllFlushed => some "one or more streams failed to flush"
  | .other text => some text

def Fault.message? : Fault → Option String
  | .unsupported op => some ("operation not supported: backend has no " ++ op.word ++ " function")
  | .invalid why => some ("invalid argument: " ++ why.reason)
  | .outOfSpace => some "no space left in memory backend"
  | .outOfMemory => some "out of memory"
  | .io cause => cause.text?.map ("backend i/o error: " ++ ·)

/-- the error number of a fault; a device failure without one counts as a plain i/o error -/
def Fault.errno : Fault → Errno
  | .unsupported _ => Errno.unsupported
  | .invalid _ => Errno.invalid
  | .outOfSpace => Errno.noSpace
  | .outOfMemory => Errno.noMemory
  | .io (.system e) => e
  | .io _ => Errno.ioError

/-- the fault that an error number from a device stands for -/
def Fault.ofErrno (e : Errno) : Fault :=
  if e = Errno.unsupported then .unsupported .requested
  else if e = Errno.invalid then .invalid .byDevice
  else if e = Errno.noSpace then .outOfSpace
  else if e = Errno.noMemory then .outOfMemory
  else .io (.system e)

/-- the error number survives the way through a fault -/
@[simp] theorem Fault.errno_ofErrno (e : Errno) : (Fault.ofErrno e).errno = e := by
  unfold ofErrno
  split
  · next h => exact h.symm
  split
  · next h => exact h.symm
  split
  · next h => exact h.symm
  split
  · next h => exact h.symm
  rfl

end BufferedStreams
