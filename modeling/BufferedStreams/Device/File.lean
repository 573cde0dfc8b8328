import BufferedStreams.Device
import BufferedStreams.Disk

/-!
# Files

A file on a disk, opened for one or both directions, with a cursor of its own.  Several devices may
have the same file open; each sees what the others wrote, because the bytes are on the disk and a
device works on the disk that was lent to it.
-/

namespace BufferedStreams

structure File where
  /-- the disk, as it is now -/
  disk : Disk
  place : Place
  mode : OpenMode
  cursor : Nat := 0
  isOpen : Bool := true

namespace File

/-- a fault for an error number of the system -/
def refused (e : Errno) : Fault := .io (.system e)

def ofPath (d : Disk) (path : String) (m : OpenMode) : Except Fault File :=
  if path.contains '\x00' then
    .error (.io (.other "file name contained an unexpected NUL byte"))
  else
    match d.openAt path m with
    | .ok (place, disk) => .ok { disk, place, mode := m }
    | .error e => .error (refused e)

def isFolder (f : File) : Bool := f.disk.find? f.place == some .folder

def content (f : File) : Bytes := f.disk.content f.place

def read (n : Nat) (f : File) : Except Fault Delivery × File :=
  if !f.isOpen || !f.mode.isReadable then (.error (refused Errno.badFile), f)
  else if f.isFolder then (.error (refused Errno.isFolder), f)
  else if offsetRange ≤ f.cursor + n then (.error (refused Errno.invalid), f)
  else
    let bytes := (f.content.drop f.cursor).take n
    (.ok ⟨bytes, bytes.length⟩, { f with cursor := f.cursor + bytes.length })

def write (bytes : Bytes) (f : File) : Except Fault Nat × File :=
  if !f.isOpen || !f.mode.isWritable then (.error (refused Errno.badFile), f)
  else if bytes.isEmpty then (.ok 0, f)
  else
    let pos := if f.mode.append then f.content.length else f.cursor
    if offsetRange ≤ f.cursor + bytes.length then (.error (refused Errno.invalid), f)
    else if allocatable < pos + bytes.length then (.error (refused Errno.tooLarge), f)
    else
      (.ok bytes.length,
        { f with
          disk := f.disk.put f.place (.file (overlay f.content pos bytes))
          cursor := pos + bytes.length })

def flush (f : File) : Except Fault Unit × File :=
  if f.isOpen then (.ok (), f) else (.error (refused Errno.badFile), f)

def base (f : File) : Whence → Nat
  | .start => 0
  | .current => f.cursor
  | .finish => f.content.length

def seek (off : Int) (w : Whence) (f : File) : Except Fault Nat × File :=
  if w = .start ∧ off < 0 then (.error (.invalid .negativeTarget), f)
  else if !f.isOpen then (.error (refused Errno.badFile), f)
  else
    let pos := (f.base w : Int) + off
    if pos < 0 ∨ (offsetRange : Int) ≤ pos then (.error (refused Errno.invalid), f)
    else (.ok pos.toNat, { f with cursor := pos.toNat })

def close (f : File) : Except Fault Unit × File := (.ok (), { f with isOpen := false })

instance : Device File where
  abilities _ := Abilities.all
  read := read
  write := write
  flush := flush
  seek := seek
  close := close

end File

end BufferedStreams
