import Mathlib.Logic.Equiv.Defs

/-!
# Chained ciphers

Ciphers that combine each unit of a text with the unit of the ciphertext before it, the first one
with a key. Encryption chains on what it writes and decryption on what it reads, so the two
agree on the chain although neither knows the other's.

## Key results

- `decrypt_encrypt`, `encrypt_decrypt`: they are inverse, from every key.
- `decrypt_take_encrypt`: a ciphertext that is cut off still decrypts to the text up to there.
-/

/-- How a unit of text in `α` and the unit of ciphertext in `γ` before it give the next one. For
every key that is a bijection. -/
structure ChainedCipher (α γ : Type*) where
  mix : γ → α → γ
  unmix : γ → γ → α
  unmix_mix : ∀ key a, unmix key (mix key a) = a
  mix_unmix : ∀ key c, mix key (unmix key c) = c

namespace ChainedCipher

variable {α γ : Type*} (C : ChainedCipher α γ) (key : γ)

/-- Each unit is mixed with the key, and its cipher is the key of the next. -/
def encrypt (key : γ) : List α → List γ
  | [] => []
  | a :: text => C.mix key a :: encrypt (C.mix key a) text

/-- Each cipher unit is unmixed with the key, and is itself the key of the next. -/
def decrypt (key : γ) : List γ → List α
  | [] => []
  | c :: cipher => C.unmix key c :: decrypt c cipher

/-- A cipher is as long as its text. -/
@[simp]
theorem length_encrypt (text : List α) : (C.encrypt key text).length = text.length := by
  induction text generalizing key with
  | nil => rfl
  | cons a text ih => simp [encrypt, ih]

/-- A text is as long as its cipher. -/
@[simp]
theorem length_decrypt (cipher : List γ) : (C.decrypt key cipher).length = cipher.length := by
  induction cipher generalizing key with
  | nil => rfl
  | cons c cipher ih => simp [decrypt, ih]

/-- What is encrypted decrypts to itself. -/
@[simp]
theorem decrypt_encrypt (text : List α) : C.decrypt key (C.encrypt key text) = text := by
  induction text generalizing key with
  | nil => rfl
  | cons a text ih =>
    -- The unit written last is the unit read last
    show C.unmix key (C.mix key a) :: C.decrypt (C.mix key a) (C.encrypt (C.mix key a) text) =
      a :: text
    rw [C.unmix_mix, ih]

/-- What is decrypted encrypts to itself. -/
@[simp]
theorem encrypt_decrypt (cipher : List γ) : C.encrypt key (C.decrypt key cipher) = cipher := by
  induction cipher generalizing key with
  | nil => rfl
  | cons c cipher ih =>
    show C.mix key (C.unmix key c) ::
      C.encrypt (C.mix key (C.unmix key c)) (C.decrypt c cipher) = c :: cipher
    rw [C.mix_unmix, ih]

/-- No unit depends on one that comes after it. -/
theorem encrypt_take (text : List α) (n : Nat) :
    (C.encrypt key text).take n = C.encrypt key (text.take n) := by
  induction text generalizing key n with
  | nil => simp [encrypt]
  | cons a text ih =>
    cases n with
    | zero => rfl
    | succ n => simp [encrypt, ih]

/-- A ciphertext that is cut off decrypts to the text up to there. -/
theorem decrypt_take_encrypt (text : List α) (n : Nat) :
    C.decrypt key ((C.encrypt key text).take n) = text.take n := by
  rw [encrypt_take, decrypt_encrypt]

/-- Texts and ciphertexts correspond one to one under every key. -/
def equiv : List α ≃ List γ where
  toFun := C.encrypt key
  invFun := C.decrypt key
  left_inv := C.decrypt_encrypt key
  right_inv := C.encrypt_decrypt key

end ChainedCipher
