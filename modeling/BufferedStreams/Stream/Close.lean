import BufferedStreams.Stream.Drain

/-!
# The end of a stream

Closing a stream hands collected output over and closes the device.  Both happen even if the first
fails, and the first failure is the one reported.
-/

namespace BufferedStreams.Stream

variable {δ : Type} [Device δ]

def release (s : Stream δ) : Except Fault Unit × Stream δ :=
  if s.abilities.close then
    match Device.close s.device with
    | (r, d) => (r, { s with device := d })
  else (.ok (), s)

/-- nothing is buffered any more and the name is gone -/
def retire (s : Stream δ) : Stream δ :=
  { s with buffer := s.buffer.clear.forgetOutput, name := none, closed := true }

/-- closes the stream; closing it again does nothing -/
def close (s : Stream δ) : Except Fault Unit × Stream δ :=
  if s.closed then (.ok (), s)
  else
    let (drained, s) := s.flush
    let (released, s) := s.release
    (match drained with
      | .ok () => released
      | .error f => .error f,
      s.retire)

/-- hands collected output over and takes the device's storage away -/
def snatch (s : Stream δ) : Except Fault Bytes × Stream δ :=
  match s.flush with
  | (.error f, s) => (.error f, s)
  | (.ok (), s) =>
    match Device.snatch s.device with
    | (some bytes, d) => (.ok bytes, { s with device := d })
    | (none, d) => (.error (.unsupported .snatch), { s with device := d })

end BufferedStreams.Stream
