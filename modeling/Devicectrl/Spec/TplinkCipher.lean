import Devicectrl.ForStd.ChainedCipher
import Devicectrl.Native.Tplink

/-!
# The TP-Link cipher

The cipher of `controllers/tplink.rs` is a chained cipher on bytes, so `encrypt` and `decrypt`
are inverse, and the 1500 bytes that a buffer holds of a datagram are those of its text.

## Key results

- `cipher_bijective`: `encrypt` and `decrypt` are inverse bijections that keep lengths, and cutting
  a ciphertext off cuts its text off at the same place.
-/

namespace Devicectrl.Tplink

/-- Each byte is xored with the byte of the ciphertext before it. -/
def cipher : ChainedCipher UInt8 UInt8 where
  mix key b := key ^^^ b
  unmix key b := b ^^^ key
  unmix_mix key b := by
    rw [UInt8.xor_comm (key ^^^ b), ← UInt8.xor_assoc, UInt8.xor_self, UInt8.zero_xor]
  mix_unmix key b := by
    rw [UInt8.xor_comm b, ← UInt8.xor_assoc, UInt8.xor_self, UInt8.zero_xor]

/-- The encryption is that of the autokey cipher, with any key. -/
theorem encryptWith_eq (key : UInt8) (message : List UInt8) :
    encryptWith key message = cipher.encrypt key message := by
  induction message generalizing key with
  | nil => rfl
  | cons b message ih => exact congrArg _ (ih _)

/-- The decryption is that of the autokey cipher, with any key. -/
theorem decryptWith_eq (key : UInt8) (message : List UInt8) :
    decryptWith key message = cipher.decrypt key message := by
  induction message generalizing key with
  | nil => rfl
  | cons b message ih => exact congrArg _ (ih _)

/-- The encryption of a payload, as a cipher. -/
theorem encrypt_eq (message : List UInt8) :
    encrypt message = cipher.encrypt ENCRYPTION_KEY message :=
  encryptWith_eq _ _

/-- The decryption of a payload, as a cipher. -/
theorem decrypt_eq (message : List UInt8) :
    decrypt message = cipher.decrypt ENCRYPTION_KEY message :=
  decryptWith_eq _ _

/-- Each byte is decrypted on its own. -/
@[simp]
theorem length_decrypt (message : List UInt8) : (decrypt message).length = message.length := by
  rw [decrypt_eq, ChainedCipher.length_decrypt]

/-- What was encrypted is decrypted to itself. -/
@[simp]
theorem decrypt_encrypt (message : List UInt8) : decrypt (encrypt message) = message := by
  rw [decrypt_eq, encrypt_eq, ChainedCipher.decrypt_encrypt]

/-- What was decrypted is encrypted to itself. -/
@[simp]
theorem encrypt_decrypt (message : List UInt8) : encrypt (decrypt message) = message := by
  rw [decrypt_eq, encrypt_eq, ChainedCipher.encrypt_decrypt]

/-- The beginning of a cipher text decrypts to the beginning of the text. -/
theorem decrypt_take_encrypt (message : List UInt8) (n : Nat) :
    decrypt ((encrypt message).take n) = message.take n := by
  rw [decrypt_eq, encrypt_eq, ChainedCipher.decrypt_take_encrypt]

/-- `encrypt` and `decrypt` are inverse bijections on byte vectors that keep lengths, and a
ciphertext that is cut off decrypts to the text up to there. -/
theorem cipher_bijective :
    (∀ m, decrypt (encrypt m) = m) ∧ (∀ m, encrypt (decrypt m) = m) ∧
    (∀ m, (encrypt m).length = m.length) ∧ (∀ m, (decrypt m).length = m.length) ∧
    Function.Bijective encrypt ∧ Function.Bijective decrypt ∧
    ∀ m n, decrypt ((encrypt m).take n) = m.take n := by
  -- Both directions are those of one permutation of the byte lists
  have hencrypt : encrypt = cipher.equiv ENCRYPTION_KEY := funext encrypt_eq
  have hdecrypt : decrypt = (cipher.equiv ENCRYPTION_KEY).symm := funext decrypt_eq
  refine ⟨decrypt_encrypt, encrypt_decrypt, ?_, length_decrypt, ?_, ?_, decrypt_take_encrypt⟩
  · intro m
    rw [encrypt_eq, ChainedCipher.length_encrypt]
  · rw [hencrypt]
    exact Equiv.bijective _
  · rw [hdecrypt]
    exact Equiv.bijective _

end Devicectrl.Tplink
