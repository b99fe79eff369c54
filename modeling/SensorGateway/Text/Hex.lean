/-!
Hexadecimal digits and bytes written with two of them. Digits of either case are read and
lower-case digits are written; `decode_encode` says that written bytes are read back.
-/

namespace SensorGateway.Text.Hex

/-- The value of a hexadecimal digit of either case. -/
def digit? (c : Char) : Option Nat :=
  if '0' ≤ c ∧ c ≤ '9' then some (c.toNat - 48)
  else if 'a' ≤ c ∧ c ≤ 'f' then some (c.toNat - 87)
  else if 'A' ≤ c ∧ c ≤ 'F' then some (c.toNat - 55)
  else none

def digit (n : Nat) : Char :=
  if n < 10 then Char.ofNat (48 + n) else Char.ofNat (87 + n)

/-- Two digits for each byte, the high half first. -/
def encode : List UInt8 → List Char
  | [] => []
  | b :: bs => digit (b.toNat / 16) :: digit (b.toNat % 16) :: encode bs

/-- A character that is no hexadecimal digit and the place where it stands. -/
structure BadDigit where
  found : Char
  place : Nat
  deriving DecidableEq, Repr

/-- The bytes written by pairs of digits, where the first digit stands at `place`. The
first character that is no digit is refused; a digit without a partner is left out. -/
def decode (place : Nat) : List Char → Except BadDigit (List UInt8)
  | high :: low :: rest =>
    match digit? high, digit? low with
    | none, _ => .error ⟨high, place⟩
    | some _, none => .error ⟨low, place + 1⟩
    | some h, some l => (decode (place + 2) rest).map (UInt8.ofNat (16 * h + l) :: ·)
  | _ => .ok []

@[simp] theorem length_encode (bytes : List UInt8) :
    (encode bytes).length = 2 * bytes.length := by
  induction bytes with
  | nil => rfl
  | cons b bs ih => simp [encode, ih]; omega

theorem length_of_decode {place : Nat} {cs : List Char} {bytes : List UInt8}
    (h : decode place cs = .ok bytes) : bytes.length = cs.length / 2 := by
  fun_induction decode place cs generalizing bytes with
  | case1 => cases h
  | case2 => cases h
  | case3 place high low rest h' l hl hh ih =>
    cases hd : decode (place + 2) rest with
    | error e => rw [hd] at h; cases h
    | ok bs =>
      rw [hd] at h
      cases h
      simp [ih hd]
      omega
  | case4 cs place hcs =>
    cases h
    cases cs with
    | nil => rfl
    | cons a r =>
      cases r with
      | nil => simp
      | cons b r => exact absurd rfl (hcs a b r)

theorem digit?_digit : ∀ n : Fin 16, digit? (digit n) = some n.val := by
  decide

theorem decode_encode (place : Nat) (bytes : List UInt8) :
    decode place (encode bytes) = .ok bytes := by
  induction bytes generalizing place with
  | nil => rfl
  | cons b bs ih =>
    have hb : b.toNat < 256 := UInt8.toNat_lt b
    have hh := digit?_digit ⟨b.toNat / 16, by omega⟩
    have hl := digit?_digit ⟨b.toNat % 16, by omega⟩
    simp only at hh hl
    have hbyte : UInt8.ofNat (16 * (b.toNat / 16) + b.toNat % 16) = b := by
      rw [Nat.div_add_mod]
      simp
    simp only [encode, decode, hh, hl, ih, hbyte]
    rfl

end SensorGateway.Text.Hex
