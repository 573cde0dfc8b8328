import BufferedStreams.Stream.Drain

/-!
# Turning and moving a stream

* `Stream.moveDevice`    moves the device cursor and drops what is buffered;
* `Stream.turnToRead`    from writing to reading: collected output is handed over;
* `Stream.turnToWrite`   from reading to writing: the device cursor goes back to the logical
  position, if the device can seek, and read-ahead is dropped;
* `Stream.seek`, `Stream.rewind`   what a user asks for.
-/

namespace BufferedStreams.Stream

variable {δ : Type} [Device δ]

/-- how far the device cursor is ahead of the logical position while reading -/
def ahead (s : Stream δ) : Nat := s.buffer.readableSize + s.buffer.pushed.length

/-- moves the device cursor and drops buffered input; an offset from the current position counts
from the logical position.  The marks are left alone: what a failure means is for the caller -/
def moveDevice (off : Int) (w : Whence) (s : Stream δ) : Except Fault Nat × Stream δ :=
  let target := if w = .current then off - s.ahead else off
  if target < -(offsetRange : Int) then (.error (.invalid .offsetOverflow), s)
  else
    match Device.seek target w s.device with
    | (.ok pos, d) => (.ok pos, { s with device := d, buffer := s.buffer.clear, base := pos })
    | (.error f, d) => (.error f, { s with device := d })

/-- stops writing, once collected output is handed over -/
def turnToRead (s : Stream δ) : Except Fault Unit × Stream δ :=
  if s.writing then
    match s.drain with
    | (.ok (), s) => (.ok (), { s with writing := false })
    | (.error f, s) => (.error f, s)
  else (.ok (), s)

/-- starts writing at the logical position; a device that turns out not to seek goes on from where
its cursor is, like one that cannot seek at all -/
def turnToWrite (s : Stream δ) : Except Fault Unit × Stream δ :=
  if s.writing then (.ok (), s)
  else if s.abilities.seek then
    match s.moveDevice 0 .current with
    | (.ok _, s) => (.ok (), { s with writing := true })
    | (.error f, s) =>
      if f.errno = Errno.cannotSeek then (.ok (), { s.dropAhead with writing := true })
      else (.error f, s.fail)
  else (.ok (), { s.dropAhead with writing := true })

/-- moves the stream; collected output is handed over first, read-ahead and pushback are dropped,
and a success clears both marks -/
def seek (off : Int) (w : Whence) (s : Stream δ) : Except Fault Nat × Stream δ :=
  if s.abilities.seek then
    match s.turnToRead with
    | (.error f, s) => (.error f, s)
    | (.ok (), s) =>
      match s.moveDevice off w with
      | (.ok pos, s) => (.ok pos, s.clearMarks.count .seeks 1)
      | (.error f, s) => (.error f, s.fail)
  else (.error (.unsupported .seek), s.fail)

/-- moves to the start and clears both marks -/
def rewind (s : Stream δ) : Except Fault Unit × Stream δ :=
  match s.seek 0 .start with
  | (.ok _, s) => (.ok (), s.clearMarks)
  | (.error f, s) => (.error f, s)

end BufferedStreams.Stream
