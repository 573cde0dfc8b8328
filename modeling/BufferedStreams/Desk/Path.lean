import BufferedStreams.Desk.Open
import BufferedStreams.Desk.Shared
import BufferedStreams.Device.File

/-!
# Files on a desk

Files share the disk they are on.  A stream over a file is opened by a path, which becomes the name of
the stream.  The mode string is read before the disk is touched, and an opening that fails leaves
everything as it was (`openPath_error`).
-/

namespace BufferedStreams

instance : Shares File Disk where
  lend disk f := { f with disk }
  settle f _ := f.disk

namespace Desk

variable {δ : Type} [Device δ] [Shares δ Disk]

/-- opens a stream over the file that a path names -/
def openPath (z : Sizing) (path mode : String) (d : Desk (Memory ⊕ (File ⊕ δ)) Disk) :
    Except Fault Handle × Desk (Memory ⊕ (File ⊕ δ)) Disk :=
  match OpenMode.parse mode with
  | .error f => (.error f, d)
  | .ok m =>
    match File.ofPath d.shared path m with
    | .error f => (.error f, d)
    | .ok file => d.openOn { Opening.ofSizing z with name := some path } (.inr (.inl file)) mode

/-- neither the desk nor its disk shows that an opening failed -/
theorem openPath_error {z : Sizing} {path mode : String} {f : Fault}
    {d d' : Desk (Memory ⊕ (File ⊕ δ)) Disk} (h : d.openPath z path mode = (.error f, d')) :
    d' = d := by
  unfold openPath at h
  rcases known : OpenMode.parse mode with f | m <;> rw [known] at h
  · exact (Prod.mk.inj h).2.symm
  · dsimp only at h
    split at h
    · exact (Prod.mk.inj h).2.symm
    -- the mode is known by now, so a file that is open gets its stream
    · simp only [openOn, known] at h
      cases h

end Desk

end BufferedStreams
