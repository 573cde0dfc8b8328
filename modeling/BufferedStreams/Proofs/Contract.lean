import BufferedStreams.Device

/-!
# What may be asked of a device

Each contract names a ghost of the device state and says how the calls move it.  The calls may fail
or come short whenever they like.

* `Cursor δ`     a position that reads and writes move by what they report, and seeks set;
* `Contents δ`   the bytes not delivered yet, from which each read takes the next ones;
* `Source δ`     the same with a count of the failed reads.

A contract speaks of the device states in `valid`, which its calls do not leave.
-/

namespace BufferedStreams

variable (δ : Type) [Device δ]

structure Cursor where
  valid : δ → Prop
  pos : δ → Nat
  read {n : Nat} {d d' : δ} {r : Except Fault Delivery} :
    valid d → Device.read n d = (r, d') →
      valid d' ∧ (∀ got, r = .ok got → got.count ≤ n ∧ pos d' = pos d + got.count) ∧
        ∀ f, r = .error f → pos d' = pos d
  write {bytes : Bytes} {d d' : δ} {r : Except Fault Nat} :
    valid d → Device.write bytes d = (r, d') →
      valid d' ∧ (∀ n, r = .ok n → n ≤ bytes.length ∧ pos d' = pos d + n) ∧
        ∀ f, r = .error f → pos d' = pos d
  flush {d d' : δ} {r : Except Fault Unit} :
    valid d → Device.flush d = (r, d') → valid d' ∧ pos d' = pos d
  seek {off : Int} {w : Whence} {d d' : δ} {r : Except Fault Nat} :
    valid d → Device.seek off w d = (r, d') →
      valid d' ∧ (∀ p, r = .ok p → pos d' = p) ∧ ∀ f, r = .error f → pos d' = pos d

/-- a device with bytes to deliver; a read that wants some and gets none is at the end of them -/
structure Contents where
  valid : δ → Prop
  rest : δ → Bytes
  read {n : Nat} {d d' : δ} {r : Except Fault Delivery} :
    valid d → 0 < n → Device.read n d = (r, d') →
      valid d' ∧ (∀ f, r = .error f → rest d' = rest d) ∧
        ∀ got, r = .ok got → got.count ≤ n ∧ got.count ≤ (rest d).length ∧
          got.bytes.take got.count = (rest d).take got.count ∧
          rest d' = (rest d).drop got.count ∧ (got.count = 0 → rest d = [])

structure Source extends Contents δ where
  failures : δ → Nat
  count {n : Nat} {d d' : δ} {r : Except Fault Delivery} :
    valid d → 0 < n → Device.read n d = (r, d') →
      (∀ f, r = .error f → failures d < failures d') ∧
        ∀ got, r = .ok got → failures d' = failures d

instance : Coe (Source δ) (Contents δ) := ⟨Source.toContents⟩

end BufferedStreams
