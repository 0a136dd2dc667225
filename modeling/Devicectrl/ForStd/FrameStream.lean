import Devicectrl.ForStd.AsyncRead

/-!
# Streams of frames

Writers that make a frame of a value, and readers that take one frame off a socket. Each call
works on a state of type `σ`, such as a counter, that the call before it left behind. A reader
that undoes the writer frame by frame undoes it on whole streams, and keeps its state equal to
the writer's.

## Key results

- `readMany_writeAll`: what was written for a list of values is read as that list.
-/

/-- Makes a frame of a value and leaves a state behind, also where it fails. -/
abbrev FrameWriter (σ ε α : Type) := α → σ → Except ε (List UInt8) × σ

/-- Reads one value from the socket, with the state it leaves behind. -/
abbrev FrameReader (σ ε β : Type) := σ → AsyncRead ε (β × σ)

variable {σ ε α β : Type}

/-- One call for each value in turn; the first error ends them. -/
def FrameWriter.writeAll (write : FrameWriter σ ε α) : List α → σ →
    Except ε (List (List UInt8)) × σ
  | [], s => (.ok [], s)
  | a :: as, s =>
    match write a s with
    | (.error e, s) => (.error e, s)
    | (.ok frame, s) =>
      match writeAll write as s with
      | (.error e, s) => (.error e, s)
      | (.ok frames, s) => (.ok (frame :: frames), s)

/-- `k` calls in turn; the first error ends them. -/
def FrameReader.readMany (read : FrameReader σ ε β) : Nat → σ → AsyncRead ε (List β × σ)
  | 0, s => pure ([], s)
  | k + 1, s => do
    let (b, s) ← read s
    let (bs, s) ← readMany read k s
    return (b :: bs, s)

namespace FrameStream

variable {read : FrameReader σ ε β} {write : FrameWriter σ ε α} {R : α → β → Prop}

/-- All values are written when the first one is, and the others are from the state it leaves. -/
theorem writeAll_cons_ok_iff {a : α} {as : List α} {s s' : σ} {frames : List (List UInt8)} :
    write.writeAll (a :: as) s = (.ok frames, s') ↔
      ∃ F Fs m, frames = F :: Fs ∧ write a s = (.ok F, m) ∧ write.writeAll as m = (.ok Fs, s') := by
  simp only [FrameWriter.writeAll]
  constructor
  · intro h
    split at h
    · exact nomatch h
    · -- the first frame is written, and then the others, from where it left the writer
      rename_i F m hF
      split at h
      · exact nomatch h
      · rename_i Fs s₁ hFs
        cases h
        exact ⟨F, Fs, m, rfl, hF, hFs⟩
  · rintro ⟨F, Fs, m, rfl, hF, hFs⟩
    rw [hF]
    simp only [hFs]

/-- Writing values that stand for others is writing those. -/
theorem writeAll_map (f : β → α) (bs : List β) (s : σ) :
    write.writeAll (bs.map f) s = FrameWriter.writeAll (fun b => write (f b)) bs s := by
  induction bs generalizing s with
  | nil => rfl
  | cons b bs ih => simp only [List.map_cons, FrameWriter.writeAll, ih]

/-- A writer that never fails on the values of a list writes them all. -/
theorem exists_writeAll {as : List α} (h : ∀ a ∈ as, ∀ s, ∃ F s', write a s = (.ok F, s'))
    (s : σ) : ∃ Fs s', write.writeAll as s = (.ok Fs, s') := by
  induction as generalizing s with
  | nil => exact ⟨[], s, rfl⟩
  | cons a as ih =>
    obtain ⟨F, m, hF⟩ := h a (List.mem_cons_self ..) s
    obtain ⟨Fs, s', hFs⟩ := ih (fun b hb => h b (List.mem_cons_of_mem _ hb)) m
    exact ⟨F :: Fs, s', writeAll_cons_ok_iff.mpr ⟨F, Fs, m, rfl, hF, hFs⟩⟩

/-- Where each frame moves the state to the next one, a list moves it on by its length. -/
theorem writeAll_state {next : σ → σ} (hnext : ∀ a s F s', write a s = (.ok F, s') → s' = next s)
    {as : List α} {s s' : σ} {Fs : List (List UInt8)}
    (h : write.writeAll as s = (.ok Fs, s')) : s' = next^[as.length] s := by
  induction as generalizing s Fs with
  | nil =>
    cases h
    rfl
  | cons a as ih =>
    obtain ⟨F, Fs, m, rfl, hF, hFs⟩ := writeAll_cons_ok_iff.mp h
    rw [ih hFs, hnext a s F m hF]
    rfl

/-- All values are read when the first one is, and the others are from what it leaves. -/
theorem readMany_succ_ok_iff {k : Nat} {s s' : σ} {socket socket' : Socket} {values : List β} :
    read.readMany (k + 1) s socket = some (.ok (values, s'), socket') ↔
      ∃ b bs m rest, values = b :: bs ∧ read s socket = some (.ok (b, m), rest) ∧
        read.readMany k m rest = some (.ok (bs, s'), socket') := by
  simp only [FrameReader.readMany, AsyncRead.bind_ok_iff, AsyncRead.pure_ok_iff]
  constructor
  · rintro ⟨⟨b, m⟩, rest, hread, ⟨bs, s₁⟩, socket₁, hreads, he, rfl⟩
    cases he
    exact ⟨b, bs, m, rest, rfl, hread, hreads⟩
  · rintro ⟨b, bs, m, rest, rfl, hread, hreads⟩
    exact ⟨(b, m), rest, hread, (bs, s'), socket', hreads, rfl, rfl⟩

/-- From every state in which `a` can be written, its frame is read back whatever follows it: as
a value related to `a`, up to the end of the frame, and into the state that the writer leaves. -/
def Inverts (read : FrameReader σ ε β) (write : FrameWriter σ ε α) (R : α → β → Prop)
    (a : α) : Prop :=
  ∀ s F s', write a s = (.ok F, s') →
    ∃ b, R a b ∧ ∀ rest eof, read s ⟨F ++ rest, eof⟩ = some (.ok (b, s'), ⟨rest, eof⟩)

/-- What was written for a list of values is read back as that list, with nothing of what
follows, and both sides end in one state. -/
theorem readMany_writeAll {as : List α} (h : ∀ a ∈ as, Inverts read write R a) {s s' : σ}
    {Fs : List (List UInt8)} (hw : write.writeAll as s = (.ok Fs, s')) :
    ∃ bs, List.Forall₂ R as bs ∧ ∀ rest eof,
      read.readMany as.length s ⟨Fs.flatten ++ rest, eof⟩ =
        some (.ok (bs, s'), ⟨rest, eof⟩) := by
  -- The state in which the next frame is written is the one in which it is read
  induction as generalizing s Fs with
  | nil =>
    cases hw
    exact ⟨[], .nil, fun rest eof => rfl⟩
  | cons a as ih =>
    obtain ⟨F, Fs, m, rfl, hF, hFs⟩ := writeAll_cons_ok_iff.mp hw
    obtain ⟨b, hb, hread⟩ := h a (List.mem_cons_self ..) s F m hF
    obtain ⟨bs, hbs, hreads⟩ := ih (fun b hb => h b (List.mem_cons_of_mem _ hb)) hFs
    refine ⟨b :: bs, .cons hb hbs, fun rest eof => ?_⟩
    rw [List.length_cons, readMany_succ_ok_iff, List.flatten_cons, List.append_assoc]
    exact ⟨b, bs, m, ⟨Fs.flatten ++ rest, eof⟩, rfl, hread (Fs.flatten ++ rest) eof,
      hreads rest eof⟩

end FrameStream
