/-!
# POSIX error numbers

The error numbers a stream can report, and their symbolic names.
-/

namespace BufferedStreams

/-- a POSIX error number -/
abbrev Errno := Int

namespace Errno

/-- a call was interrupted -/
def intr : Errno := 4
def ioError : Errno := 5
def badFile : Errno := 9
def noMemory : Errno := 12
def fileExists : Errno := 17
def invalid : Errno := 22
def noSpace : Errno := 28
def cannotSeek : Errno := 29
def overflow : Errno := 75
def unsupported : Errno := 95

/-- the symbolic name of an error number that streams report, and a placeholder for any other -/
def symbol (e : Errno) : String :=
  if e = ioError then "EIO"
  else if e = badFile then "EBADF"
  else if e = noMemory then "ENOMEM"
  else if e = fileExists then "EEXIST"
  else if e = invalid then "EINVAL"
  else if e = noSpace then "ENOSPC"
  else if e = cannotSeek then "ESPIPE"
  else if e = overflow then "EOVERFLOW"
  else if e = unsupported then "EOPNOTSUPP"
  else "E?"

end Errno

end BufferedStreams
