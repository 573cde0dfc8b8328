import BufferedStreams.Desk
import BufferedStreams.Device.Callback
import BufferedStreams.Device.Endpoint
import BufferedStreams.Device.Memory

/-!
# What devices share

Callbacks share the `errno` of the thread that calls them, and the other devices here share nothing,
whatever the ones beside them share.
-/

namespace BufferedStreams

variable {α β δ κ ε σ : Type}

/-- for a device that shares nothing -/
@[reducible] def Shares.nothing : Shares δ σ where
  lend _ d := d
  settle _ shared := shared

instance : Shares Memory σ := .nothing
instance : Shares Mute σ := .nothing
instance : Shares Scripted σ := .nothing
instance : Shares (Reader ε) σ := .nothing
instance : Shares (Writer ε) σ := .nothing

instance : Shares (Callback κ) Errno where
  lend errno d := { d with errno }
  settle d _ := d.errno

/-- one of two devices shares what it would share alone -/
instance [Shares α σ] [Shares β σ] : Shares (α ⊕ β) σ where
  lend
    | shared, .inl a => .inl (Shares.lend shared a)
    | shared, .inr b => .inr (Shares.lend shared b)
  settle
    | .inl a, shared => Shares.settle a shared
    | .inr b, shared => Shares.settle b shared

end BufferedStreams
