import Devicectrl.ForStd.AsyncRead
import Devicectrl.Native.Dispatch

/-!
# Simple controller: messages

The functions of `controllers/simple.rs` that read and write one message:
`read_signed_message`, `create_signed_message`, the identify phase of `handle_conn` and
`handle_message`. The connection as a whole is in `SimpleConn.lean`.

A word is four bytes, so `size_of_val` of a nonce or of a length is 4, and a frame length
fits a 64-bit `usize`.
-/

namespace Devicectrl.Simple

/-- A `p256::ecdsa::Signature`, by its encoding (`to_bytes`). -/
structure Signature where
  bytes : List UInt8
  deriving DecidableEq, Repr

/-- What the controller calls of `p256` and `serde_json`, and the length of a signature on
the wire. -/
structure Env where
  SIGNATURE_LEN : Nat
  signatureFromSlice : List UInt8 → Except Error Signature
  verify : VerifyingKey → List UInt8 → Signature → Except Error Unit
  trySign : SigningKey → List UInt8 → Except Error Signature
  fromSlice : List UInt8 → Except Error ServerBoundSimpleMessage
  toVec : DeviceBoundSimpleMessage → Except Error (List UInt8)

/-- The error of `read_u32` at the end of the stream, an `io::ErrorKind::UnexpectedEof`. That of
`read_exact` has a text of its own. -/
def unexpectedEof : String := "unexpected end of file"

/-- `read_signed_message`, with the nonce it leaves behind. After an error the read loop
makes no further call, so the nonce is returned with a message only. -/
def readSignedMessage (env : Env) (expectedRecvNonce : UInt32) (publicKey : VerifyingKey) :
    AsyncRead Error (ServerBoundSimpleMessage × UInt32) := do
  -- `wrapping_add`; the nonce advances even if nothing can be read
  let expectedRecvNonce := expectedRecvNonce + 1
  let recvNonce ← AsyncRead.readU32 ["Client nonce is not 4 bytes", unexpectedEof]
  AsyncRead.bailIf (expectedRecvNonce ≠ recvNonce)
    [s!"Client nonce mismatch: expected {expectedRecvNonce}, got {recvNonce}"]
  let dataLen ← AsyncRead.readU32 ["Data length is not 4 bytes", unexpectedEof]
  let nonceLen := (be32 recvNonce).length
  let lengthLen := (be32 dataLen).length
  let totalLen := nonceLen + lengthLen + dataLen.toNat + env.SIGNATURE_LEN
  -- The first two slices of the buffer are copied, the rest is read from the socket
  let rest ← AsyncRead.readExact ["Failed to read message", "early eof"]
    (totalLen - (nonceLen + lengthLen))
  let buf := be32 recvNonce ++ be32 dataLen ++ rest
  -- The signature covers the nonce and the length as well as the payload
  let dataEnd := nonceLen + lengthLen + dataLen.toNat
  let data := buf.take dataEnd
  let sig := buf.drop dataEnd
  -- An argument of `verify`, so its error comes first
  let signature ← AsyncRead.ofExcept (env.signatureFromSlice sig)
  AsyncRead.ofExcept (env.verify publicKey data signature)
  -- Only what has been verified is parsed
  let message ← AsyncRead.ofExcept (env.fromSlice ((buf.take dataEnd).drop (nonceLen + lengthLen)))
  return (message, expectedRecvNonce)

/-- `create_signed_message`, with the nonce it leaves behind. -/
def createSignedMessage (env : Env) (message : DeviceBoundSimpleMessage) (sendNonce : UInt32)
    (serverPrivateKey : SigningKey) : Except Error (List UInt8) × UInt32 :=
  match env.toVec message with
  | .error e => (.error e, sendNonce)
  | .ok messageData =>
    -- `as u32` keeps the low half of the length
    let dataLen := UInt32.ofNat messageData.length
    -- A message that cannot be signed has used up its nonce, one that cannot be encoded has not
    let sendNonce := sendNonce + 1
    let data := be32 sendNonce ++ be32 dataLen ++ messageData
    match env.trySign serverPrivateKey data with
    | .error e => (.error e, sendNonce)
    | .ok sig => (.ok (data ++ sig.bytes), sendNonce)

/-- The unsigned start of `handle_conn`, up to the device id: the nonce the client chose
and the device it says it is. -/
def readIdentify (env : Env) : AsyncRead Error (UInt32 × DeviceId) := do
  let sendNonce ← AsyncRead.readU32 ["Client nonce is not 4 bytes", unexpectedEof]
  -- This frame has a length but neither nonce nor signature
  let identifyMessageLen ←
    AsyncRead.readU32 ["Identify message length is not 4 bytes", unexpectedEof]
  let identifyBuf ← AsyncRead.readExact ["Failed to read identify message", "early eof"]
    identifyMessageLen.toNat
  let message ← AsyncRead.ofExcept (env.fromSlice identifyBuf)
  match message with
  | .identify deviceId => return (sendNonce, deviceId)
  | _ => AsyncRead.ofExcept (.error ["Device did not identify itself!"])

/-- The public key `handle_conn` verifies a device's messages with. -/
def lookupPublicKey (devices : Devices) (deviceId : DeviceId) : Except Error VerifyingKey :=
  match devices.lookup deviceId with
  | none => .error ["Message received from unknown device"]
  | some device =>
    match device.controller with
    | .simple config => .ok config.publicKey
    | _ => .error ["Device is not a simple device"]

/-- `handle_message` up to the call of `process_update_notification`. -/
def handleMessage (message : ServerBoundSimpleMessage) (deviceId : DeviceId) :
    Except Error (Option UpdateNotification) :=
  message.handle deviceId

/-! ## One message on the wire -/

/-- `F` is the frame of message `m` under `nonce`: nonce, length, payload and a signature
that verifies over the three. -/
def IsFrame (env : Env) (publicKey : VerifyingKey) (nonce : UInt32) (F : List UInt8)
    (m : ServerBoundSimpleMessage) : Prop :=
  ∃ data sig signature, data.length < 2 ^ 32 ∧ sig.length = env.SIGNATURE_LEN ∧
    F = be32 nonce ++ be32 (UInt32.ofNat data.length) ++ data ++ sig ∧
    env.signatureFromSlice sig = .ok signature ∧
    env.verify publicKey (be32 nonce ++ be32 (UInt32.ofNat data.length) ++ data) signature =
      .ok () ∧
    env.fromSlice data = .ok m

/-- `F` is what `create_signed_message` makes of message `m` under `nonce`. -/
def IsSentFrame (env : Env) (serverPrivateKey : SigningKey) (nonce : UInt32)
    (m : DeviceBoundSimpleMessage) (F : List UInt8) : Prop :=
  ∃ payload sig, env.toVec m = .ok payload ∧
    env.trySign serverPrivateKey (be32 nonce ++ be32 (UInt32.ofNat payload.length) ++ payload)
      = .ok sig ∧
    F = be32 nonce ++ be32 (UInt32.ofNat payload.length) ++ payload ++ sig.bytes

variable {env : Env}

/-- A frame starts with its eight bytes of nonce and length. -/
theorem IsFrame.length_le {key : VerifyingKey} {nonce : UInt32} {F : List UInt8}
    {m : ServerBoundSimpleMessage} (h : IsFrame env key nonce F m) : 8 ≤ F.length := by
  obtain ⟨data, sig, -, -, -, rfl, -⟩ := h
  simp only [List.length_append, length_be32]
  omega

/-! The buffer of `read_signed_message` is the nonce, the length and `rest`. -/

private theorem length_header (nonce dataLen : UInt32) :
    4 + 4 = (be32 nonce ++ be32 dataLen).length := rfl

/-- The buffer up to the end of the payload. -/
private theorem take_buffer (nonce dataLen : UInt32) (rest : List UInt8) (n : Nat) :
    (be32 nonce ++ be32 dataLen ++ rest).take (4 + 4 + n) =
      be32 nonce ++ be32 dataLen ++ rest.take n := by
  rw [length_header nonce dataLen]
  exact List.take_length_add_append n

/-- The buffer from the end of the payload on. -/
private theorem drop_buffer (nonce dataLen : UInt32) (rest : List UInt8) (n : Nat) :
    (be32 nonce ++ be32 dataLen ++ rest).drop (4 + 4 + n) = rest.drop n := by
  rw [length_header nonce dataLen]
  exact List.drop_length_add_append n

/-- The payload is what comes after the header. -/
private theorem drop_header (nonce dataLen : UInt32) (data : List UInt8) :
    (be32 nonce ++ be32 dataLen ++ data).drop (4 + 4) = data := by
  rw [length_header nonce dataLen]
  exact List.drop_left

/-- Reading a message succeeds exactly when the stream starts with its frame under the
next nonce; exactly the frame is consumed. -/
theorem readSignedMessage_ok_iff {nonce nonce' : UInt32} {key : VerifyingKey}
    {m : ServerBoundSimpleMessage} {s s' : Socket} :
    readSignedMessage env nonce key s = some (.ok (m, nonce'), s') ↔
      nonce' = nonce + 1 ∧ s'.eof = s.eof ∧
        ∃ F, s.input = F ++ s'.input ∧ IsFrame env key (nonce + 1) F m := by
  simp only [readSignedMessage, AsyncRead.bind_ok_iff, AsyncRead.pure_ok_iff,
    AsyncRead.ofExcept_ok_iff, AsyncRead.bailIf_ok_iff, AsyncRead.readU32_ok_iff,
    AsyncRead.readExact_ok_iff, length_be32, not_not]
  constructor
  · rintro ⟨recvNonce, s₁, ⟨hin₁, heof₁⟩, -, s₂, ⟨rfl, rfl⟩, dataLen, s₃, ⟨hin₃, heof₃⟩, rest, s₄,
      ⟨hin₄, hlen, heof₄⟩, signature, s₅, ⟨hsig, rfl⟩, _, s₆, ⟨hver, rfl⟩, m', s₇, ⟨hdec, rfl⟩,
      he, rfl⟩
    obtain ⟨rfl, rfl⟩ := Prod.mk.inj he
    rw [drop_buffer] at hsig
    rw [take_buffer] at hver hdec
    rw [drop_header] at hdec
    -- The payload is what the length says, the signature is what is left of `rest`
    have hlen : rest.length = dataLen.toNat + env.SIGNATURE_LEN := by omega
    have hpayload : (rest.take dataLen.toNat).length = dataLen.toNat :=
      List.length_take_of_le (by omega)
    have hword : UInt32.ofNat (rest.take dataLen.toNat).length = dataLen := by
      rw [hpayload, UInt32.ofNat_toNat]
    refine ⟨rfl, by rw [heof₄, heof₃, heof₁], be32 (nonce + 1) ++ be32 dataLen ++ rest, ?_,
      rest.take dataLen.toNat, rest.drop dataLen.toNat, signature, ?_, ?_, ?_, hsig, ?_, hdec⟩
    · rw [hin₁, hin₃, hin₄]
      simp only [List.append_assoc]
    · rw [hpayload]; exact dataLen.toNat_lt
    · rw [List.length_drop, hlen]; omega
    · rw [hword, List.append_assoc _ (rest.take _), List.take_append_drop]
    · rw [hword]; exact hver
  · rintro ⟨rfl, heof, F, hin, data, sig, signature, hdata, hsig, rfl, hfrom, hver, hdec⟩
    have hword : (UInt32.ofNat data.length).toNat = data.length := UInt32.toNat_ofNat_of_lt' hdata
    -- The reads hand over the nonce, the length, and the payload with its signature
    refine ⟨nonce + 1, ⟨be32 (UInt32.ofNat data.length) ++ (data ++ sig ++ s'.input), s.eof⟩,
      ⟨?_, rfl⟩, (), _, ⟨rfl, rfl⟩, UInt32.ofNat data.length, ⟨data ++ sig ++ s'.input, s.eof⟩,
      ⟨rfl, rfl⟩, data ++ sig, s', ⟨rfl, ?_, heof⟩, signature, s', ⟨?_, rfl⟩, (), s', ⟨?_, rfl⟩,
      m, s', ⟨?_, rfl⟩, rfl, rfl⟩
    · rw [hin]; simp only [List.append_assoc]
    · rw [List.length_append, hword, hsig]; omega
    · rw [drop_buffer, hword, List.drop_left]; exact hfrom
    · rw [take_buffer, hword, List.take_left]; exact hver
    · rw [take_buffer, hword, List.take_left, drop_header]; exact hdec

/-- A message that was read took at least its nonce and length off the stream. -/
theorem readSignedMessage_length_lt {nonce nonce' : UInt32} {key : VerifyingKey}
    {m : ServerBoundSimpleMessage} {s s' : Socket}
    (h : readSignedMessage env nonce key s = some (.ok (m, nonce'), s')) :
    s'.input.length < s.input.length := by
  obtain ⟨-, -, F, hin, hF⟩ := readSignedMessage_ok_iff.mp h
  have := hF.length_le
  rw [hin, List.length_append]
  omega

/-- At the end of the stream every read ends. -/
theorem readSignedMessage_settles (env : Env) (nonce : UInt32) (key : VerifyingKey) :
    (readSignedMessage env nonce key).Settles := by
  -- One read after the other, and none of them comes back to what it has read
  apply AsyncRead.settles_bind (AsyncRead.settles_readU32 _)
  intro _
  apply AsyncRead.settles_bind (AsyncRead.settles_ofExcept _)
  intro _
  apply AsyncRead.settles_bind (AsyncRead.settles_readU32 _)
  intro _
  apply AsyncRead.settles_bind (AsyncRead.settles_readExact _ _)
  intro _
  apply AsyncRead.settles_bind (AsyncRead.settles_ofExcept _)
  intro _
  apply AsyncRead.settles_bind (AsyncRead.settles_ofExcept _)
  intro _
  exact AsyncRead.settles_bind (AsyncRead.settles_ofExcept _) fun _ => AsyncRead.settles_pure _

/-- What `create_signed_message` returns when it succeeds. -/
theorem createSignedMessage_ok {m : DeviceBoundSimpleMessage} {nonce nonce' : UInt32}
    {key : SigningKey} {F : List UInt8}
    (h : createSignedMessage env m nonce key = (.ok F, nonce')) :
    nonce' = nonce + 1 ∧ IsSentFrame env key (nonce + 1) m F := by
  simp only [createSignedMessage] at h
  split at h
  · exact nomatch h
  · rename_i payload hp
    split at h
    · exact nomatch h
    · rename_i sig hs
      cases h
      exact ⟨rfl, payload, sig, hp, hs, rfl⟩

/-! ## The read loop -/

/-- The read loop of `handle_conn` on what has arrived so far: the messages it hands on,
until a read fails or is pending. -/
def readLoop (env : Env) (key : VerifyingKey) (expectedRecvNonce : UInt32) (s : Socket) :
    List ServerBoundSimpleMessage :=
  match _h : readSignedMessage env expectedRecvNonce key s with
  | some (.ok (message, nonce), s') => message :: readLoop env key nonce s'
  -- `break`, or the loop waits for more bytes
  | _ => []
termination_by s.input.length
decreasing_by exact readSignedMessage_length_lt _h

/-- A message that is accepted is followed by those read after it. -/
theorem readLoop_of_ok {nonce nonce' : UInt32} {key : VerifyingKey} {s s' : Socket}
    {m : ServerBoundSimpleMessage}
    (h : readSignedMessage env nonce key s = some (.ok (m, nonce'), s')) :
    readLoop env key nonce s = m :: readLoop env key nonce' s' := by
  rw [readLoop]
  split
  · rename_i m₁ n₁ s₁ h₁
    rw [h] at h₁
    cases h₁
    rfl
  · rename_i hne
    exact absurd h (hne m nonce' s')

/-- The first read that does not yield a message is the last. -/
theorem readLoop_of_not_ok {nonce : UInt32} {key : VerifyingKey} {s : Socket}
    (h : ∀ m nonce' s', readSignedMessage env nonce key s ≠ some (.ok (m, nonce'), s')) :
    readLoop env key nonce s = [] := by
  rw [readLoop]
  split
  · rename_i m₁ n₁ s₁ h₁
    exact absurd h₁ (h m₁ n₁ s₁)
  · rfl

end Devicectrl.Simple
