import Devicectrl.Native.Simple

/-!
# Inbound framing of the Simple controller

On any byte stream that ends, the read loop accepts exactly the longest sequence of frames
the stream starts with, under consecutive nonces.

## Key results

- `readLoop_eq_iff_split`: the messages of the read loop are those of the maximal split of
  the stream into frames, and no nonce recurs within 2³² frames
-/

namespace Devicectrl.Simple

variable {env : Env} {key : VerifyingKey} {n0 : UInt32}

/-- The nonce of the frame that follows `k` accepted ones. -/
def frameNonce (n0 : UInt32) (k : Nat) : UInt32 :=
  n0 + UInt32.ofNat (k + 1)

@[simp] theorem frameNonce_zero (n0 : UInt32) : frameNonce n0 0 = n0 + 1 := rfl

/-- The nonces after the next one are those of the rest. -/
theorem frameNonce_succ (n0 : UInt32) (k : Nat) :
    frameNonce n0 (k + 1) = frameNonce (n0 + 1) k := by
  apply UInt32.toNat_inj.mp
  simp only [frameNonce, UInt32.toNat_add, UInt32.toNat_ofNat', UInt32.toNat_one]
  omega

/-- Nonces recur only after 2³² frames. -/
theorem frameNonce_ne (n0 : UInt32) {i j : Nat} (hij : i < j) (hj : j - i < 2 ^ 32) :
    frameNonce n0 i ≠ frameNonce n0 j := by
  intro h
  have h := congrArg UInt32.toNat h
  simp only [frameNonce, UInt32.toNat_add, UInt32.toNat_ofNat'] at h
  omega

/-- `Fs` are frames of the messages `ms` under the nonces that follow `n0`. -/
structure Frames (env : Env) (key : VerifyingKey) (n0 : UInt32) (Fs : List (List UInt8))
    (ms : List ServerBoundSimpleMessage) : Prop where
  length : Fs.length = ms.length
  frame : ∀ i (hF : i < Fs.length) (hm : i < ms.length),
    IsFrame env key (frameNonce n0 i) Fs[i] ms[i]

/-- The stream `s` split into the frames `Fs` of `ms` and a rest that does not start with a
frame for the next nonce. -/
structure Split (env : Env) (key : VerifyingKey) (n0 : UInt32) (s : List UInt8)
    (Fs : List (List UInt8)) (rest : List UInt8) (ms : List ServerBoundSimpleMessage) : Prop where
  stream : s = Fs.flatten ++ rest
  frames : Frames env key n0 Fs ms
  maximal : ∀ F m tail, rest = F ++ tail → ¬IsFrame env key (frameNonce n0 Fs.length) F m

namespace Frames

/-- No frames carry no messages. -/
theorem nil : Frames env key n0 [] [] :=
  ⟨rfl, fun _ hF => absurd hF (Nat.not_lt_zero _)⟩

/-- The first frame has the next nonce, and the rest follows it. -/
theorem cons_iff {F : List UInt8} {Fs : List (List UInt8)} {m : ServerBoundSimpleMessage}
    {ms : List ServerBoundSimpleMessage} :
    Frames env key n0 (F :: Fs) (m :: ms) ↔
      IsFrame env key (n0 + 1) F m ∧ Frames env key (n0 + 1) Fs ms := by
  constructor
  · rintro ⟨hlen, hframe⟩
    refine ⟨hframe 0 (by simp) (by simp), Nat.succ.inj hlen, fun i hF hm => ?_⟩
    rw [← frameNonce_succ]
    exact hframe (i + 1) (Nat.succ_lt_succ hF) (Nat.succ_lt_succ hm)
  · rintro ⟨hF, hlen, hframe⟩
    refine ⟨congrArg Nat.succ hlen, fun i hi hm => ?_⟩
    cases i with
    | zero => exact hF
    | succ i =>
      rw [frameNonce_succ]
      exact hframe i (Nat.lt_of_succ_lt_succ hi) (Nat.lt_of_succ_lt_succ hm)

/-- One more frame under the next nonce. -/
theorem concat {Fs : List (List UInt8)} {ms : List ServerBoundSimpleMessage} {F : List UInt8}
    {m : ServerBoundSimpleMessage} (h : Frames env key n0 Fs ms)
    (hF : IsFrame env key (frameNonce n0 Fs.length) F m) :
    Frames env key n0 (Fs ++ [F]) (ms ++ [m]) := by
  have hlen := h.length
  refine ⟨by simp [hlen], fun i hi hm => ?_⟩
  -- `i` is the place of an old frame or of the new one
  by_cases hlt : i < Fs.length
  · rw [List.getElem_append_left hlt, List.getElem_append_left (by omega)]
    exact h.frame i hlt (by omega)
  · have heq : i = Fs.length := by
      simp only [List.length_append, List.length_singleton] at hi
      omega
    subst heq
    simp only [List.getElem_concat_length]
    have hlast : (ms ++ [m])[Fs.length] = m := by simp [hlen]
    rw [hlast]
    exact hF

/-- A frame carries its nonce in its first four bytes. -/
theorem take_four {Fs : List (List UInt8)} {ms : List ServerBoundSimpleMessage}
    (h : Frames env key n0 Fs ms) {i : Nat} (hi : i < Fs.length) :
    Fs[i].take 4 = be32 (frameNonce n0 i) := by
  obtain ⟨data, sig, -, -, -, hF, -⟩ := h.frame i hi (h.length ▸ hi)
  rw [hF]
  simp only [List.append_assoc]
  exact List.take_left' (length_be32 _)

/-- The read loop accepts the frames its stream starts with and goes on after them. -/
theorem readLoop {Fs : List (List UInt8)} {ms : List ServerBoundSimpleMessage}
    (h : Frames env key n0 Fs ms) (rest : List UInt8) (eof : Bool) :
    Simple.readLoop env key n0 ⟨Fs.flatten ++ rest, eof⟩ =
      ms ++ Simple.readLoop env key (n0 + UInt32.ofNat Fs.length) ⟨rest, eof⟩ := by
  -- On the frames, each of which shifts the start nonce by one
  induction Fs generalizing n0 ms with
  | nil =>
    obtain rfl : ms = [] := List.eq_nil_of_length_eq_zero h.length.symm
    simp
  | cons F Fs ih =>
    match ms, h with
    | [], h => exact absurd h.length (by simp)
    | m :: ms, h =>
      obtain ⟨hF, hFs⟩ := cons_iff.mp h
      have hread : readSignedMessage env n0 key ⟨(F :: Fs).flatten ++ rest, eof⟩ =
          some (.ok (m, n0 + 1), ⟨Fs.flatten ++ rest, eof⟩) :=
        readSignedMessage_ok_iff.mpr ⟨rfl, rfl, F, by simp, hF⟩
      have hnonce : n0 + UInt32.ofNat (F :: Fs).length = n0 + 1 + UInt32.ofNat Fs.length := by
        apply UInt32.toNat_inj.mp
        simp only [List.length_cons, UInt32.toNat_add, UInt32.toNat_ofNat', UInt32.toNat_one]
        omega
      rw [readLoop_of_ok hread, ih hFs, hnonce, List.cons_append]

end Frames

/-- Every stream has a maximal split, into the messages of the read loop. -/
theorem exists_split (env : Env) (key : VerifyingKey) (n0 : UInt32) (s : List UInt8) :
    ∃ Fs rest, Split env key n0 s Fs rest (readLoop env key n0 ⟨s, true⟩) := by
  -- Induction on the length of the stream, which each accepted frame shortens
  induction hn : s.length using Nat.strong_induction_on generalizing n0 s with
  | _ n ih =>
    -- The loop goes on exactly when the stream starts with a frame
    by_cases hread : ∃ m nonce' s',
        readSignedMessage env n0 key ⟨s, true⟩ = some (.ok (m, nonce'), s')
    · obtain ⟨m, nonce', ⟨input, eof⟩, hread⟩ := hread
      have hlt := readSignedMessage_length_lt hread
      rw [readLoop_of_ok hread]
      obtain ⟨rfl, rfl, F, hin, hF⟩ := readSignedMessage_ok_iff.mp hread
      obtain ⟨Fs, rest, hs⟩ := ih input.length (hn ▸ hlt) (n0 + 1) input rfl
      refine ⟨F :: Fs, rest, ?_, Frames.cons_iff.mpr ⟨hF, hs.frames⟩, fun F' m' tail he => ?_⟩
      · rw [List.flatten_cons, List.append_assoc, ← hs.stream]
        exact hin
      · rw [List.length_cons, frameNonce_succ]
        exact hs.maximal F' m' tail he
    · rw [readLoop_of_not_ok fun m nonce' s' h => hread ⟨m, nonce', s', h⟩]
      refine ⟨[], s, rfl, Frames.nil, fun F m tail he hF => hread ?_⟩
      exact ⟨m, n0 + 1, ⟨tail, true⟩, readSignedMessage_ok_iff.mpr ⟨rfl, rfl, F, he, hF⟩⟩

/-- The nonce left behind by `k` accepted frames, advanced once more. -/
theorem add_ofNat_add_one (n0 : UInt32) (k : Nat) :
    n0 + UInt32.ofNat k + 1 = frameNonce n0 k := by
  apply UInt32.toNat_inj.mp
  simp only [frameNonce, UInt32.toNat_add, UInt32.toNat_ofNat', UInt32.toNat_one]
  omega

/-- The read after the last frame of a maximal split is an error: at the end of the stream
no read stays pending. -/
theorem Split.read_error {s : List UInt8} {Fs : List (List UInt8)} {rest : List UInt8}
    {ms : List ServerBoundSimpleMessage} (h : Split env key n0 s Fs rest ms) :
    ∃ e s', readSignedMessage env (n0 + UInt32.ofNat Fs.length) key ⟨rest, true⟩
      = some (.error e, s') := by
  obtain ⟨r, s', hread, -⟩ :=
    readSignedMessage_settles env (n0 + UInt32.ofNat Fs.length) key ⟨rest, true⟩ rfl
  cases r with
  | error e => exact ⟨e, s', hread⟩
  | ok p =>
    obtain ⟨m, nonce'⟩ := p
    obtain ⟨-, -, F, hin, hF⟩ := readSignedMessage_ok_iff.mp hread
    rw [add_ofNat_add_one] at hF
    exact absurd hF (h.maximal F m s'.input hin)

/-- A maximal split has the messages of the read loop. -/
theorem Split.readLoop_eq {s : List UInt8} {Fs : List (List UInt8)} {rest : List UInt8}
    {ms : List ServerBoundSimpleMessage} (h : Split env key n0 s Fs rest ms) :
    readLoop env key n0 ⟨s, true⟩ = ms := by
  obtain ⟨e, s', herr⟩ := h.read_error
  rw [h.stream, h.frames.readLoop rest true, readLoop_of_not_ok, List.append_nil]
  intro m nonce' s'' hok
  rw [herr] at hok
  exact nomatch hok

/-- The read loop yields the messages `ms` exactly when the stream splits into frames of
`ms` under the nonces after `n0` and a rest that starts with no further frame, and it ends
with an error there. Whatever follows the first rejected frame is never accepted, and
frames less than 2³² apart carry different nonces. -/
theorem readLoop_eq_iff_split (env : Env) (key : VerifyingKey) (n0 : UInt32) (s : List UInt8) :
    (∀ ms, readLoop env key n0 ⟨s, true⟩ = ms ↔ ∃ Fs rest, Split env key n0 s Fs rest ms) ∧
      (∀ Fs rest ms, Split env key n0 s Fs rest ms →
        ∃ e s', readSignedMessage env (n0 + UInt32.ofNat Fs.length) key ⟨rest, true⟩
          = some (.error e, s')) ∧
      (∀ Fs rest ms, Frames env key n0 Fs ms →
        (∃ e s', readSignedMessage env (n0 + UInt32.ofNat Fs.length) key ⟨rest, true⟩
          = some (.error e, s')) →
        readLoop env key n0 ⟨Fs.flatten ++ rest, true⟩ = ms) ∧
      ∀ Fs ms, Frames env key n0 Fs ms → ∀ i j (hi : i < Fs.length) (hj : j < Fs.length),
        i < j → j - i < 2 ^ 32 → Fs[i].take 4 ≠ Fs[j].take 4 := by
  refine ⟨fun ms => ⟨?_, ?_⟩, ?_, ?_, ?_⟩
  · intro hms
    subst hms
    exact exists_split env key n0 s
  · intro ⟨Fs, rest, h⟩
    exact h.readLoop_eq
  · intro Fs rest ms h
    exact h.read_error
  · -- after whole frames the loop reads what an unreadable rest gives: nothing
    intro Fs rest ms hFs ⟨e, s', herr⟩
    have hstop : readLoop env key (n0 + UInt32.ofNat Fs.length) ⟨rest, true⟩ = [] := by
      apply readLoop_of_not_ok
      intro m nonce' s'' hok
      rw [herr] at hok
      exact nomatch hok
    rw [hFs.readLoop, hstop, List.append_nil]
  · -- two nonces less than `2 ^ 32` apart differ, and a frame begins with its nonce
    intro Fs ms hFs i j hi hj hij hdist
    rw [hFs.take_four hi, hFs.take_four hj]
    exact fun he => frameNonce_ne n0 hij hdist (be32_inj he)

end Devicectrl.Simple
