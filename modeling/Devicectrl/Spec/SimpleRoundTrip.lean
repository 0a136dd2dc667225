import Devicectrl.ForStd.FrameStream
import Devicectrl.Spec.SimpleFraming
import Devicectrl.Spec.SimpleRuns

/-!
# Round trip of the Simple frames

`create_signed_message` and `read_signed_message` are written apart, each with a nonce of its
own. On whole streams the one undoes the other, also where the nonces wrap.

## Key results

- `readSignedMessages_createSignedMessages`: successive reads get exactly the payloads that were
  sent, consume exactly their frames and end at the sender's nonce.
-/

namespace Devicectrl.Simple

/-- `create_signed_message` for one message after the other, on one nonce. -/
def createSignedMessages (env : Env) (serverPrivateKey : SigningKey) :
    List DeviceBoundSimpleMessage → UInt32 → Except Error (List (List UInt8)) × UInt32 :=
  FrameWriter.writeAll fun message sendNonce =>
    createSignedMessage env message sendNonce serverPrivateKey

/-- That many calls of `read_signed_message` in turn, on one nonce. -/
def readSignedMessages (env : Env) (publicKey : VerifyingKey) :
    Nat → UInt32 → AsyncRead Error (List ServerBoundSimpleMessage × UInt32) :=
  FrameReader.readMany fun expectedRecvNonce => readSignedMessage env expectedRecvNonce publicKey

/-- A signature takes `SIGNATURE_LEN` bytes, and is read back from them. -/
structure SignatureBytes (env : Env) (privateKey : SigningKey) : Prop where
  length : ∀ data sig, env.trySign privateKey data = .ok sig →
    sig.bytes.length = env.SIGNATURE_LEN
  fromSlice : ∀ data sig, env.trySign privateKey data = .ok sig →
    env.signatureFromSlice sig.bytes = .ok sig

/-- What is signed with the private key verifies under the public key. -/
def KeyPair (env : Env) (privateKey : SigningKey) (publicKey : VerifyingKey) : Prop :=
  ∀ data sig, env.trySign privateKey data = .ok sig → env.verify publicKey data sig = .ok ()

section Frames

variable {env : Env} {privateKey : SigningKey} {publicKey : VerifyingKey}

/-- A created frame of a payload that fits is one that `read_signed_message` accepts under the
same nonce. -/
theorem IsSentFrame.isFrame (hbytes : SignatureBytes env privateKey)
    (hkeys : KeyPair env privateKey publicKey) {nonce : UInt32} {F : List UInt8}
    {m : DeviceBoundSimpleMessage} {r : ServerBoundSimpleMessage} {p : List UInt8}
    (h : IsSentFrame env privateKey nonce m F) (hp : env.toVec m = .ok p)
    (hlen : p.length < 2 ^ 32) (hr : env.fromSlice p = .ok r) :
    IsFrame env publicKey nonce F r := by
  obtain ⟨payload, sig, hpayload, hsig, hF⟩ := h
  have heq : payload = p := Except.ok.inj (hpayload.symm.trans hp)
  subst heq
  exact ⟨payload, sig.bytes, sig, hlen, hbytes.length _ _ hsig, hF, hbytes.fromSlice _ _ hsig,
    hkeys _ _ hsig, hr⟩

/-- One read undoes one creation, and leaves the nonce that the creation leaves. -/
theorem readSignedMessage_createSignedMessage (hbytes : SignatureBytes env privateKey)
    (hkeys : KeyPair env privateKey publicKey) {m : DeviceBoundSimpleMessage}
    {r : ServerBoundSimpleMessage} {p F : List UInt8} {nonce nonce' : UInt32}
    (hp : env.toVec m = .ok p) (hlen : p.length < 2 ^ 32) (hr : env.fromSlice p = .ok r)
    (hcreate : createSignedMessage env m nonce privateKey = (.ok F, nonce'))
    (rest : List UInt8) (eof : Bool) :
    readSignedMessage env nonce publicKey ⟨F ++ rest, eof⟩ =
      some (.ok (r, nonce'), ⟨rest, eof⟩) := by
  obtain ⟨rfl, hF⟩ := createSignedMessage_ok hcreate
  rw [readSignedMessage_ok_iff]
  exact ⟨rfl, rfl, F, rfl, hF.isFrame hbytes hkeys hp hlen hr⟩

/-- A message that can be encoded is created if anything can be signed. -/
theorem exists_createSignedMessage (hsign : ∀ data, ∃ sig, env.trySign privateKey data = .ok sig)
    {m : DeviceBoundSimpleMessage} {p : List UInt8} (hp : env.toVec m = .ok p) (nonce : UInt32) :
    ∃ F nonce', createSignedMessage env m nonce privateKey = (.ok F, nonce') := by
  obtain ⟨sig, hsig⟩ :=
    hsign (be32 (nonce + 1) ++ be32 (UInt32.ofNat p.length) ++ p)
  refine ⟨be32 (nonce + 1) ++ be32 (UInt32.ofNat p.length) ++ p ++ sig.bytes, nonce + 1, ?_⟩
  simp only [createSignedMessage, hp, hsig]

/-- The nonce after `k` frames, modulo 2³². -/
theorem iterate_add_one (n : UInt32) (k : Nat) :
    (fun n : UInt32 => n + 1)^[k] n = n + UInt32.ofNat k := by
  induction k generalizing n with
  | zero => simp
  | succ k ih =>
    rw [Function.iterate_succ_apply, ih]
    apply UInt32.toNat_inj.mp
    simp only [UInt32.toNat_add, UInt32.toNat_ofNat', UInt32.toNat_one]
    omega

/-- The frames created for a list of payloads, followed by anything, are read as those payloads
in order. The reads consume the frames only, and both nonces end at one value. Such frames are
created whenever signing does not fail. -/
theorem readSignedMessages_createSignedMessages (env : Env) {privateKey : SigningKey}
    {publicKey : VerifyingKey} (hbytes : SignatureBytes env privateKey)
    (hkeys : KeyPair env privateKey publicKey) (n0 : UInt32) (payloads : List (List UInt8))
    (encode : List UInt8 → DeviceBoundSimpleMessage)
    (decode : ServerBoundSimpleMessage → List UInt8)
    (hlen : ∀ p ∈ payloads, p.length < 2 ^ 32)
    (hencode : ∀ p ∈ payloads, env.toVec (encode p) = .ok p)
    (hdecode : ∀ p ∈ payloads, ∃ m, env.fromSlice p = .ok m ∧ decode m = p) :
    (∀ Fs n, createSignedMessages env privateKey (payloads.map encode) n0 = (.ok Fs, n) →
      n = n0 + UInt32.ofNat payloads.length ∧
      ∀ rest eof, ∃ ms, ms.map decode = payloads ∧
        readSignedMessages env publicKey payloads.length n0 ⟨Fs.flatten ++ rest, eof⟩ =
          some (.ok (ms, n), ⟨rest, eof⟩)) ∧
    ((∀ data, ∃ sig, env.trySign privateKey data = .ok sig) →
      ∃ Fs n, createSignedMessages env privateKey (payloads.map encode) n0 = (.ok Fs, n)) := by
  constructor
  · intro Fs n hcreate
    unfold createSignedMessages at hcreate
    rw [FrameStream.writeAll_map] at hcreate
    have hnext : n = n0 + UInt32.ofNat payloads.length := by
      rw [← iterate_add_one]
      refine FrameStream.writeAll_state ?_ hcreate
      intro p nonce F nonce' h
      exact (createSignedMessage_ok h).1
    -- A frame is read back as the payload it was made of
    have hinverts : ∀ p ∈ payloads, FrameStream.Inverts
        (fun nonce => readSignedMessage env nonce publicKey)
        (fun p nonce => createSignedMessage env (encode p) nonce privateKey)
        (fun p m => p = decode m) p := by
      intro p hp nonce F nonce' hF
      obtain ⟨m, hm, hdec⟩ := hdecode p hp
      exact ⟨m, hdec.symm, readSignedMessage_createSignedMessage hbytes hkeys (hencode p hp)
        (hlen p hp) hm hF⟩
    obtain ⟨ms, hms, hread⟩ := FrameStream.readMany_writeAll hinverts hcreate
    have hpayloads : payloads = ms.map decode := by
      rw [← List.forall₂_eq_eq_eq, List.forall₂_map_right_iff]
      exact hms
    exact ⟨hnext, fun rest eof => ⟨ms, hpayloads.symm, hread rest eof⟩⟩
  · intro hsign
    apply FrameStream.exists_writeAll
    intro m hm nonce
    obtain ⟨p, hp, rfl⟩ := List.mem_map.mp hm
    exact exists_createSignedMessage hsign (hencode p hp) nonce

end Frames

/-! ## A key pair whose signatures depend on what is signed -/

namespace Demo

/-- The first byte of the key added to every byte that is signed. -/
def digest (key data : List UInt8) : List UInt8 :=
  List.replicate 64 (data.foldl (fun sum b => sum + b) (key.headD 0))

/-- Signatures of 64 bytes that verify under their own key. -/
def signingEnv : Env where
  SIGNATURE_LEN := 64
  signatureFromSlice bytes :=
    if bytes.length = 64 then .ok ⟨bytes⟩ else .error ["signature error"]
  verify publicKey data signature :=
    if signature.bytes = digest publicKey.bytes data then .ok () else .error ["signature error"]
  trySign privateKey data := .ok ⟨digest privateKey.bytes data⟩
  fromSlice
    | [1] => .ok (.updateNotification report)
    | [2] => .ok (.identify lamp)
    | _ => .error ["expected value"]
  toVec
    | .updateCommand _ => .ok [1]
    | .stateQuery _ => .ok [2]
    | .failure _ => .ok [3]
    | .other _ => .ok [4]

/-- Two payloads, as the messages that are sent for them. -/
def encodePayload (payload : List UInt8) : DeviceBoundSimpleMessage :=
  if payload = [1] then .updateCommand ⟨lamp, .power .on⟩ else .stateQuery lamp

/-- The payloads of the messages that come back. -/
def decodePayload : ServerBoundSimpleMessage → List UInt8
  | .updateNotification _ => [1]
  | _ => [2]

/-- Three payloads from the last nonce but one, so that the nonces wrap among them. -/
theorem readSignedMessages_wrap : ∃ Fs,
    createSignedMessages signingEnv privateKey ([[1], [2], [1]].map encodePayload) 0xFFFFFFFE =
      (.ok Fs, 1) ∧
    ∀ rest eof, ∃ ms, ms.map decodePayload = [[1], [2], [1]] ∧
      readSignedMessages signingEnv ⟨[9]⟩ 3 0xFFFFFFFE ⟨Fs.flatten ++ rest, eof⟩ =
        some (.ok (ms, 1), ⟨rest, eof⟩) := by
  -- The signatures of this environment are 64 bytes long
  have hbytes : SignatureBytes signingEnv privateKey := by
    constructor
    · intro data sig h
      cases h
      exact List.length_replicate
    · intro data sig h
      cases h
      simp [signingEnv, digest]
  -- They are verified by the key pair
  have hkeys : KeyPair signingEnv privateKey ⟨[9]⟩ := by
    intro data sig h
    cases h
    simp [signingEnv, privateKey]
  -- The theorem at three payloads, with a nonce that wraps round
  obtain ⟨hread, hcreate⟩ := readSignedMessages_createSignedMessages signingEnv hbytes hkeys
    0xFFFFFFFE [[1], [2], [1]] encodePayload decodePayload (by decide)
    (by simp [encodePayload, signingEnv]) (by simp [decodePayload, signingEnv])
  obtain ⟨Fs, n, hFs⟩ := hcreate fun data => ⟨_, rfl⟩
  obtain ⟨rfl, h⟩ := hread Fs n hFs
  exact ⟨Fs, hFs, h⟩

end Demo

end Devicectrl.Simple
