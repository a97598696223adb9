import Mathlib.Tactic.IntervalCases

/-!
# Hexadecimal text

Bytes are written with two lower-case digits each and read in either case.
-/

namespace CheetahDex.Lib.Hex

/-- The digit for a number below sixteen. -/
def digit (n : ℕ) : Char := if n < 10 then Char.ofNat (48 + n) else Char.ofNat (87 + n)

/-- What a digit stands for; the three ranges are `0` to `9`, `a` to `f` and `A` to `F`. -/
def value (c : Char) : Option ℕ :=
  if 48 ≤ c.toNat ∧ c.toNat ≤ 57 then some (c.toNat - 48)
  else if 97 ≤ c.toNat ∧ c.toNat ≤ 102 then some (c.toNat - 87)
  else if 65 ≤ c.toNat ∧ c.toNat ≤ 70 then some (c.toNat - 55)
  else none

def encode (bytes : List UInt8) : List Char :=
  bytes.flatMap fun b => [digit (b.toNat / 16), digit (b.toNat % 16)]

def decode : List Char → Option (List UInt8)
  | [] => some []
  | [_] => none
  | high :: low :: rest => do
    let h ← value high
    let l ← value low
    return UInt8.ofNat (16 * h + l) :: (← decode rest)

theorem value_digit {n : ℕ} (h : n < 16) : value (digit n) = some n := by interval_cases n <;> rfl

theorem decode_encode (bytes : List UInt8) : decode (encode bytes) = some bytes := by
  induction bytes with
  | nil => rfl
  | cons b rest ih =>
    have hb := b.toNat_lt
    have hsum : 16 * (b.toNat / 16) + b.toNat % 16 = b.toNat := by omega
    have hr : decode (rest.flatMap fun b => [digit (b.toNat / 16), digit (b.toNat % 16)]) =
        some rest := ih
    have hby : UInt8.ofNat (16 * (b.toNat / 16) + b.toNat % 16) = b := by
      rw [hsum, UInt8.ofNat_toNat]
    simp only [encode, List.flatMap_cons, List.cons_append, List.nil_append, decode, hr,
      value_digit (show b.toNat / 16 < 16 by omega), value_digit (show b.toNat % 16 < 16 by omega),
      Option.bind_eq_bind, Option.bind_some, hby, Option.pure_def]

/-- Only digits have a value. -/
theorem lt_of_value {c : Char} {n : ℕ} (h : value c = some n) : c.toNat < 128 := by
  unfold value at h
  split_ifs at h <;> omega

/-- Text that can be read has no character outside of ASCII. -/
theorem lt_of_decode {text : List Char} {bytes : List UInt8} (h : decode text = some bytes) :
    ∀ c ∈ text, c.toNat < 128 := by
  induction text using decode.induct generalizing bytes with
  | case1 => simp
  | case2 => cases h
  | case3 high low rest ih =>
    simp only [decode, Option.bind_eq_bind, Option.bind_eq_some_iff] at h
    obtain ⟨_, hhg, _, hlow, _, hr, -⟩ := h
    simp only [List.mem_cons, forall_eq_or_imp]
    exact ⟨lt_of_value hhg, lt_of_value hlow, ih hr⟩

theorem toNat_toUpper (c : Char) :
    c.toUpper.toNat = if 97 ≤ c.toNat ∧ c.toNat ≤ 122 then c.toNat - 32 else c.toNat := by
  have hsh : ('A'.val - 'a'.val).toNat = 4294967264 := by decide
  unfold Char.toUpper
  split_ifs with hch hnat hnat
  · obtain ⟨hge, hle⟩ : 97 ≤ c.val.toNat ∧ c.val.toNat ≤ 122 := hnat
    simp only [Char.toNat, UInt32.toNat_add, hsh]
    omega
  · exact absurd hch hnat
  · exact absurd hnat hch
  · rfl

/-- The case of a digit does not matter. -/
theorem value_toUpper (c : Char) : value c.toUpper = value c := by
  unfold value
  rw [toNat_toUpper]
  split_ifs <;> first | (exfalso; omega) | congr 1

theorem decode_map_toUpper (text : List Char) : decode (text.map Char.toUpper) = decode text := by
  induction text using decode.induct with
  | case1 => rfl
  | case2 => rfl
  | case3 high low rest ih => simp only [List.map_cons, decode, value_toUpper, ih]

theorem decode_of_upper {text : List Char} {bytes : List UInt8}
    (h : text.map Char.toUpper = (encode bytes).map Char.toUpper) : decode text = some bytes := by
  rw [← decode_map_toUpper, h, decode_map_toUpper, decode_encode]

end CheetahDex.Lib.Hex
