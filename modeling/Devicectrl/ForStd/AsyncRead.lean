import Devicectrl.ForStd.Be32

/-!
# Asynchronous reads from a socket

`AsyncRead ε α` is a future that reads a socket: it is pending (`none`) until enough bytes
have arrived or the peer has closed its side, and otherwise ends with a value or an error.
A pending future consumes nothing, so polling it again after more bytes have arrived is
running it from the start.
-/

/-- The receiving side of a socket: the bytes that have arrived and are not read yet, and
whether the peer has closed its side. -/
structure Socket where
  input : List UInt8
  eof : Bool
  deriving DecidableEq

/-- A future over a socket: none while it is pending, or its result and the socket it leaves. -/
def AsyncRead (ε α : Type) : Type :=
  Socket → Option (Except ε α × Socket)

namespace AsyncRead

variable {ε α β : Type}

/-- Futures in sequence; `?` ends the sequence at the first error. -/
def andThen (x : AsyncRead ε α) (f : α → AsyncRead ε β) : AsyncRead ε β :=
  fun s =>
    match x s with
    | none => none
    | some (.error e, s') => some (.error e, s')
    | some (.ok a, s') => f a s'

/-- `async` code in sequence is `do` notation. -/
instance : Monad (AsyncRead ε) where
  pure a := fun s => some (.ok a, s)
  bind := andThen

/-- A result that needs no more bytes. -/
def ofExcept (r : Except ε α) : AsyncRead ε α :=
  fun s => some (r, s)

/-- `if c { bail!(e) }`. -/
def bailIf (c : Prop) [Decidable c] (e : ε) : AsyncRead ε Unit :=
  ofExcept (if c then .error e else .ok ())

/-- `read_exact` into a buffer of `n` bytes; `e` is the error at the end of the stream. -/
def readExact (e : ε) (n : Nat) : AsyncRead ε (List UInt8) :=
  fun s =>
    -- Bytes are taken as they arrive, but the caller sees them once all have
    if n ≤ s.input.length then some (.ok (s.input.take n), { s with input := s.input.drop n })
    else if s.eof then some (.error e, { s with input := [] })
    else none

/-- `read_u32`: a big-endian word. -/
def readU32 (e : ε) : AsyncRead ε UInt32 := do
  return ofBe32 (← readExact e 4)

/-! ## Successful reads -/

/-- A future that is ready ends with its value and reads nothing. -/
theorem pure_ok_iff {a b : α} {s s' : Socket} :
    (pure a : AsyncRead ε α) s = some (.ok b, s') ↔ a = b ∧ s = s' := by
  show some (Except.ok a, s) = _ ↔ _
  simp

/-- A sequence succeeds when both of its parts do. -/
theorem bind_ok_iff {x : AsyncRead ε α} {f : α → AsyncRead ε β} {b : β} {s s' : Socket} :
    (x >>= f) s = some (.ok b, s') ↔ ∃ a m, x s = some (.ok a, m) ∧ f a m = some (.ok b, s') := by
  simp only [bind, andThen]
  constructor
  · intro h
    split at h
    · exact nomatch h
    · exact nomatch h
    · rename_i a m hx
      exact ⟨a, m, hx, h⟩
  · rintro ⟨a, m, hx, hf⟩
    rw [hx]
    exact hf

/-- A result is passed on as it is. -/
theorem ofExcept_ok_iff {r : Except ε α} {a : α} {s s' : Socket} :
    ofExcept r s = some (.ok a, s') ↔ r = .ok a ∧ s = s' := by
  simp [ofExcept]

/-- A check that passes reads nothing. -/
theorem bailIf_ok_iff {c : Prop} [Decidable c] {e : ε} {u : Unit} {s s' : Socket} :
    bailIf c e s = some (.ok u, s') ↔ ¬c ∧ s = s' := by
  by_cases hc : c <;> simp [bailIf, ofExcept, hc]

/-- `read_exact` hands over the first `n` bytes and leaves the rest. -/
theorem readExact_ok_iff {e : ε} {n : Nat} {bytes : List UInt8} {s s' : Socket} :
    readExact e n s = some (.ok bytes, s') ↔
      s.input = bytes ++ s'.input ∧ bytes.length = n ∧ s'.eof = s.eof := by
  obtain ⟨input, eof⟩ := s
  obtain ⟨input', eof'⟩ := s'
  simp only [readExact]
  constructor
  · intro h
    split at h
    · rename_i hn
      cases h
      exact ⟨(List.take_append_drop n input).symm, List.length_take_of_le hn, rfl⟩
    · -- too few bytes: the end of the input, or nothing yet
      split at h <;> exact nomatch h
  · rintro ⟨rfl, rfl, rfl⟩
    rw [if_pos (by simp), List.take_left, List.drop_left]

/-- `read_u32` hands over the word that the stream begins with. -/
theorem readU32_ok_iff {e : ε} {n : UInt32} {s s' : Socket} :
    readU32 e s = some (.ok n, s') ↔ s.input = be32 n ++ s'.input ∧ s'.eof = s.eof := by
  simp only [readU32, bind_ok_iff, pure_ok_iff, readExact_ok_iff]
  constructor
  · rintro ⟨bytes, m, ⟨hin, hlen, heof⟩, rfl, rfl⟩
    rw [be32_ofBe32 hlen]
    exact ⟨hin, heof⟩
  · rintro ⟨hin, heof⟩
    exact ⟨be32 n, s', ⟨hin, length_be32 n, heof⟩, ofBe32_be32 n, rfl⟩

/-! ## Reads at the end of the stream -/

/-- A future that is never pending once the peer has closed its side. -/
def Settles (x : AsyncRead ε α) : Prop :=
  ∀ s, s.eof = true → ∃ r s', x s = some (r, s') ∧ s'.eof = true

/-- A value needs no bytes, so the end of the stream does not matter. -/
theorem settles_pure (a : α) : Settles (pure a : AsyncRead ε α) :=
  fun s hs => ⟨.ok a, s, rfl, hs⟩

theorem settles_ofExcept (r : Except ε α) : Settles (ofExcept r) :=
  fun s hs => ⟨r, s, rfl, hs⟩

/-- A sequence settles if both of its parts do. -/
theorem settles_bind {x : AsyncRead ε α} {f : α → AsyncRead ε β} (hx : Settles x)
    (hf : ∀ a, Settles (f a)) : Settles (x >>= f) := by
  intro s hs
  obtain ⟨r, m, hxs, hm⟩ := hx s hs
  simp only [bind, andThen, hxs]
  cases r with
  | error e => exact ⟨.error e, m, rfl, hm⟩
  | ok a => exact hf a m hm

/-- At the end of the stream `read_exact` has its bytes, or never will. -/
theorem settles_readExact (e : ε) (n : Nat) : Settles (readExact e n) := by
  intro s hs
  simp only [readExact]
  split
  · exact ⟨_, _, rfl, hs⟩
  · simp only [hs]
    exact ⟨_, _, rfl, rfl⟩

theorem settles_readU32 (e : ε) : Settles (readU32 e) :=
  settles_bind (settles_readExact e 4) fun _ => settles_pure _

end AsyncRead
