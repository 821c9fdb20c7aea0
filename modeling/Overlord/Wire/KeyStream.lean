import Mathlib

/-!
# Stream ciphers

A stream cipher hands out the bytes of its key one after the other, and a text is encrypted by
adding the key to it.  What matters to a protocol is that the position in the key is the only state:
encrypting a text in pieces is encrypting it in one go (`crypt_append`), and who is at the same
position undoes it and arrives at the same position again (`crypt_crypt`).

A channel may also be in the clear; then there is no key (`none`).
-/

set_option autoImplicit false

namespace Wire

/-- The next byte of the key, and the state after it. -/
structure KeyStream (κ : Type) where
  next : κ → UInt8 × κ

namespace KeyStream

variable {κ : Type} (cipher : KeyStream κ)

/-- Add the key to some bytes. -/
def apply : κ → List UInt8 → List UInt8 × κ
  | key, [] => ([], key)
  | key, b :: bs =>
    let rest := apply (cipher.next key).2 bs
    ((b ^^^ (cipher.next key).1) :: rest.1, rest.2)

/-- Add the key, if there is one. -/
def crypt : Option κ → List UInt8 → List UInt8 × Option κ
  | none, bs => (bs, none)
  | some key, bs => ((cipher.apply key bs).1, some (cipher.apply key bs).2)

variable {cipher} {key : κ} {channel : Option κ}

theorem length_apply (bs : List UInt8) : (cipher.apply key bs).1.length = bs.length := by
  induction bs generalizing key with
  | nil => rfl
  | cons b bs ih => simp [apply, ih]

theorem apply_append (bs cs : List UInt8) :
    cipher.apply key (bs ++ cs) =
      ((cipher.apply key bs).1 ++ (cipher.apply (cipher.apply key bs).2 cs).1,
        (cipher.apply (cipher.apply key bs).2 cs).2) := by
  induction bs generalizing key with
  | nil => rfl
  | cons b bs ih => simp [apply, ih]

theorem apply_apply (bs : List UInt8) :
    cipher.apply key (cipher.apply key bs).1 = (bs, (cipher.apply key bs).2) := by
  induction bs generalizing key with
  | nil => rfl
  | cons b bs ih => simp [apply, ih]

@[simp] theorem length_crypt (bs : List UInt8) : (cipher.crypt channel bs).1.length =
    bs.length := by
  cases channel with
  | none => rfl
  | some key => simp [crypt, length_apply]

@[simp] theorem crypt_nil : cipher.crypt channel [] = ([], channel) := by
  cases channel <;> rfl

/-- **In pieces.** -/
theorem crypt_append (bs cs : List UInt8) :
    cipher.crypt channel (bs ++ cs) =
      ((cipher.crypt channel bs).1 ++ (cipher.crypt (cipher.crypt channel bs).2 cs).1,
        (cipher.crypt (cipher.crypt channel bs).2 cs).2) := by
  cases channel with
  | none => rfl
  | some key => simp [crypt, apply_append]

/-- **At the same position.** -/
theorem crypt_crypt (bs : List UInt8) :
    cipher.crypt channel (cipher.crypt channel bs).1 = (bs, (cipher.crypt channel bs).2) := by
  cases channel with
  | none => rfl
  | some key => simp [crypt, apply_apply]

/-- What several writers leave on the channel, one after the other. -/
def cryptAll : Option κ → List (List UInt8) → List UInt8 × Option κ
  | channel, [] => ([], channel)
  | channel, chunk :: chunks =>
    let rest := cryptAll (cipher.crypt channel chunk).2 chunks
    ((cipher.crypt channel chunk).1 ++ rest.1, rest.2)

/-- Where a text is cut does not show. -/
theorem cryptAll_eq (chunks : List (List UInt8)) :
    cipher.cryptAll channel chunks = cipher.crypt channel chunks.flatten := by
  induction chunks generalizing channel with
  | nil => simp [cryptAll]
  | cons chunk chunks ih => simp [cryptAll, ih, crypt_append]

end KeyStream

end Wire
