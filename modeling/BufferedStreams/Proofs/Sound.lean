import BufferedStreams.Proofs.Path

/-!
# Sound streams

The buffer of a stream collects output while the stream writes and hands out input otherwise.  A new
stream is sound, every step keeps it so, and so does every path (`Path.sound`).
-/

namespace BufferedStreams.Stream

variable {δ : Type}

/-- the buffer is as the direction of the stream asks for -/
structure Sound (s : Stream δ) : Prop where
  collecting : s.writing = true → s.buffer.Collecting
  serving : s.writing = false → s.buffer.Serving

theorem Sound.of_collecting {s : Stream δ} (w : s.writing = true) (h : s.buffer.Collecting) :
    s.Sound :=
  ⟨fun _ => h, fun r => absurd w (by simp [r])⟩

theorem Sound.of_serving {s : Stream δ} (r : s.writing = false) (h : s.buffer.Serving) : s.Sound :=
  ⟨fun w => absurd w (by simp [r]), fun _ => h⟩

/-- in either direction the cursors of the buffer stand in order -/
theorem Sound.buffer {s : Stream δ} (h : s.Sound) : s.buffer.Sound := by
  cases w : s.writing with
  | true => exact (h.collecting w).toSound
  | false => exact (h.serving w).toSound

variable [Device δ] {s s' : Stream δ} {g t : Bytes} {leaps : Bool}

theorem ofDevice_sound (d : δ) (m : OpenMode) (capacity : Nat) : (ofDevice d m capacity).Sound :=
  ⟨fun _ => Buffer.collecting_ofCapacity capacity, fun _ => Buffer.serving_ofCapacity capacity⟩

theorem Step.sound (h : Step s g t s') (hs : s.Sound) : s'.Sound := by
  cases h with
  | accepted w able call n_pos part =>
    exact .of_collecting w ((hs.collecting w).markDrained part)
  | cleared w able call n_pos all =>
    exact .of_collecting (by simpa using w) (by simpa using (hs.collecting w).forgetOutput)
  | refused w able call none => exact .of_collecting w (hs.collecting w)
  | notified w able settled call => exact .of_collecting w (hs.collecting w)
  | wrote w able settled call n_pos => exact .of_collecting w (hs.collecting w)
  | synced w settled => exact .of_collecting (by simpa using w) (by simpa using hs.collecting w)
  | stored bytes w space => exact .of_collecting w ((hs.collecting w).append bytes)
  | filled r able dry bare call => exact .of_serving r ((hs.serving r).receive _)
  | unfilled r able dry bare call => exact .of_serving r ((hs.serving r).expose 0)
  | lacking r dry bare => exact .of_serving r ((hs.serving r).expose 0)
  | pulled r able empty start bare n_pos call => exact .of_serving r (hs.serving r)
  | balked r able n_pos call => exact .of_serving r (hs.serving r)
  | handed n r bare => exact .of_serving r ((hs.serving r).take n)
  | returned n r => exact .of_serving r ((hs.serving r).takePushed n)
  | emptied r dry bare => exact .of_serving r (hs.serving r).clear
  | noted m c upto => exact ⟨hs.collecting, hs.serving⟩
  | restyled b name settled => exact ⟨hs.collecting, hs.serving⟩

theorem Leap.sound (h : Leap s s') (hs : s.Sound) : s'.Sound := by
  cases h with
  | turned w settled => exact .of_serving rfl ((hs.collecting w).serving settled)
  | started r empty bare => exact .of_collecting rfl ((hs.serving r).collecting empty bare)
  | dropped r => exact .of_serving r (hs.serving r).clear
  | moved r able call => exact .of_serving r (hs.serving r).clear
  | unmoved r able call => exact .of_serving r (hs.serving r)
  | pushedBack bytes r => exact .of_serving r ((hs.serving r).pushBack bytes)
  | skipped r ok => exact .of_serving r ((hs.serving r).skipped ok)
  | unmarked m => exact ⟨hs.collecting, hs.serving⟩

theorem Path.sound (h : Path leaps s g t s') (hs : s.Sound) : s'.Sound :=
  h.keeps (fun h => h.sound) (fun h => h.sound) hs

end BufferedStreams.Stream
