import BufferedStreams.Stream.Basic

/-!
# Handing collected output over

* `Stream.pump`    offers the pending output to the device until it has taken all of it;
* `Stream.drain`   pumps, moves the base past what was handed over, and tells the device.

A device may take output bit by bit, and what it took stays taken: after a failure the next drain
goes on with the first byte that was not accepted.
-/

namespace BufferedStreams.Stream

variable {δ : Type} [Device δ]

/-- offers pending output until none is left; a device that takes no byte at all has failed, and one
that claims more than it was offered has taken everything -/
def pump (s : Stream δ) : Except Fault Unit × Stream δ :=
  if s.buffer.pendingSize = 0 then (.ok (), s)
  else
    match Device.write s.buffer.pending s.device with
    | (.ok 0, d) => (.error (.io .nothingAccepted), { s with device := d }.fail)
    | (.ok (n + 1), d) =>
      let k := min (n + 1) s.buffer.pendingSize
      pump ({ s with device := d, buffer := s.buffer.markDrained k }.count .bytesWritten k)
    | (.error f, d) => (.error f, { s with device := d }.fail)
termination_by s.buffer.pendingSize
decreasing_by
  simp only [count, Buffer.pendingSize_markDrained]
  omega

/-- writes of an append device land at the end of the data wherever its cursor was, so the base is
taken from the device where it can tell; where it cannot, nothing is changed -/
def syncAppend (s : Stream δ) : Stream δ :=
  if s.mode.append && s.abilities.seek then
    match Device.seek 0 .current s.device with
    | (.ok pos, d) => { s with device := d, base := pos }
    | (.error _, d) => { s with device := d }
  else s

/-- the base moves past the output handed over -/
def advance (s : Stream δ) : Stream δ := { s with base := s.base + s.buffer.cursor }

/-- the buffer is empty again, and that is counted -/
def settleDrain (s : Stream δ) : Stream δ :=
  { s with buffer := s.buffer.forgetOutput }.count .flushes 1

/-- tells the device that all output was handed over -/
def notify (s : Stream δ) : Except Fault Unit × Stream δ :=
  match Device.flush s.device with
  | (.ok (), d) => (.ok (), { s with device := d })
  | (.error f, d) => (.error f, { s with device := d }.fail)

/-- hands all pending output over and tells the device; without pending output there is nothing to
do -/
def drain (s : Stream δ) : Except Fault Unit × Stream δ :=
  if s.buffer.pendingSize = 0 then (.ok (), s)
  else if s.abilities.write then
    match s.pump with
    | (.ok (), s) => s.advance.syncAppend.settleDrain.notify
    | (.error f, s) => (.error f, s)
  else (.error (.unsupported .write), s.fail)

/-- hands output over if the stream is writing -/
def flush (s : Stream δ) : Except Fault Unit × Stream δ :=
  if s.writing then s.drain else (.ok (), s)

/-- changes the strategy, once collected output is handed over -/
def setStrategy (b : Buffering) (s : Stream δ) : Except Fault Unit × Stream δ :=
  match s.flush with
  | (.ok (), s) => (.ok (), { s with strategy := b })
  | (.error f, s) => (.error f, s)

end BufferedStreams.Stream
