import Mathlib.Data.List.Basic
import Mathlib.Logic.Equiv.Basic

/-!
# Cipher block chaining

A block cipher under one key is a permutation of blocks of sixteen bytes. Text is padded to whole
blocks, and each block is combined with the ciphertext of the one before.
-/

namespace CheetahDex.Lib.Cbc

abbrev Bytes := List UInt8

abbrev Block := Vector UInt8 16

/-! ## Blocks -/

def xor (a b : Block) : Block := .ofFn fun i => a[i] ^^^ b[i]

@[simp] theorem getElem_xor (a b : Block) (i : ℕ) (h : i < 16) : (xor a b)[i] = a[i] ^^^ b[i] := by
  simp [xor]

theorem xor_xor_cancel (a b : Block) : xor (xor a b) b = a := by
  ext i h
  rw [getElem_xor, getElem_xor, UInt8.xor_assoc, UInt8.xor_self, UInt8.xor_zero]

theorem xor_right_comm (a b d : Block) : xor (xor a b) d = xor (xor a d) b := by
  ext i h
  simp [UInt8.xor_assoc, UInt8.xor_comm b[i]]

/-- Combining with a block permutes the blocks. -/
def xorEquiv (delta : Block) : Equiv.Perm Block where
  toFun a := xor a delta
  invFun a := xor a delta
  left_inv a := xor_xor_cancel a delta
  right_inv a := xor_xor_cancel a delta

variable (bs : List Block)

def flatten : Bytes := bs.flatMap Vector.toList

def blocksOf : ℕ → Bytes → Option (List Block)
  | 0, bytes => if bytes = [] then some [] else none
  | n + 1, bytes =>
    if h : (bytes.take 16).length = 16 then
      (blocksOf n (bytes.drop 16)).map (⟨(bytes.take 16).toArray, by simpa using h⟩ :: ·)
    else none

/-- The blocks of a text, if it is made of whole blocks. -/
def blocks (bytes : Bytes) : Option (List Block) := blocksOf (bytes.length / 16) bytes

theorem length_flatten : (flatten bs).length = 16 * bs.length := by
  induction bs with
  | nil => rfl
  | cons b bs ih =>
    have hco : flatten (b :: bs) = b.toList ++ flatten bs := rfl
    rw [hco, List.length_append, ih, Vector.length_toList, List.length_cons]
    omega

theorem blocks_flatten : blocks (flatten bs) = some bs := by
  rw [blocks, length_flatten, Nat.mul_div_cancel_left _ (by decide)]
  induction bs with
  | nil => rfl
  | cons b bs ih =>
    have htk : (flatten (b :: bs)).take 16 = b.toList := by simp [flatten]
    have hdr : (flatten (b :: bs)).drop 16 = flatten bs := by simp [flatten]
    simp only [List.length_cons, blocksOf, htk, hdr, ih, Vector.length_toList, dite_true]
    rfl

theorem exists_flatten_eq (n : ℕ) (bytes : Bytes) (h : bytes.length = 16 * n) :
    ∃ bs, flatten bs = bytes := by
  induction n generalizing bytes with
  | zero => exact ⟨[], (List.eq_nil_of_length_eq_zero h).symm⟩
  | succ n ih =>
    obtain ⟨bs, hbs⟩ := ih (bytes.drop 16) (by rw [List.length_drop, h]; omega)
    refine ⟨⟨(bytes.take 16).toArray, by rw [List.size_toArray, List.length_take, h]; omega⟩ :: bs,
      ?_⟩
    change bytes.take 16 ++ flatten bs = bytes
    rw [hbs, List.take_append_drop]

/-! ## Padding -/

def padding (text : Bytes) : ℕ := 16 - text.length % 16

def pad (text : Bytes) : Bytes := text ++ .replicate (padding text) (UInt8.ofNat (padding text))

def unpad (bytes : Bytes) : Option Bytes :=
  match bytes.getLast? with
  | none => none
  | some n =>
    if n = 0 ∨ 16 < n then none
    else if (bytes.drop (bytes.length - n.toNat)).all (· == n) then
      some (bytes.take (bytes.length - n.toNat))
    else none

variable (perm : Equiv.Perm Block) (text : Bytes)

theorem padding_bounds : 1 ≤ padding text ∧ padding text ≤ 16 := by
  unfold padding
  omega

theorem toNat_padding : (UInt8.ofNat (padding text)).toNat = padding text := by
  have := padding_bounds text
  rw [UInt8.toNat_ofNat']
  omega

theorem getLast?_pad : (pad text).getLast? = some (UInt8.ofNat (padding text)) := by
  have hpos : padding text ≠ 0 := by have := padding_bounds text; omega
  simp [pad, List.getLast?_append, List.getLast?_replicate, hpos]

theorem unpad_pad : unpad (pad text) = some text := by
  have hbn := padding_bounds text
  have hnat := toNat_padding text
  have hlen : (pad text).length - padding text = text.length := by simp [pad]
  have hrn : ¬(UInt8.ofNat (padding text) = 0 ∨ 16 < UInt8.ofNat (padding text)) := by
    rw [← UInt8.toNat_inj, UInt8.lt_iff_toNat_lt, hnat]
    simp only [UInt8.toNat_zero, UInt8.reduceToNat]
    omega
  simp only [unpad, getLast?_pad, if_neg hrn, hnat, hlen]
  simp [pad]

theorem unpad_of_getLast_one {bytes : Bytes} (h : bytes.getLast? = some 1) :
    unpad bytes = some bytes.dropLast := by
  obtain ⟨front, rfl⟩ := List.getLast?_eq_some_iff.mp h
  simp [unpad]

/-! ## Chaining -/

def encrypt (perm : Equiv.Perm Block) : Block → List Block → List Block
  | _, [] => []
  | previous, p :: ps => perm (xor p previous) :: encrypt perm (perm (xor p previous)) ps

def decrypt (perm : Equiv.Perm Block) : Block → List Block → List Block
  | _, [] => []
  | previous, c :: cs => xor (perm.symm c) previous :: decrypt perm c cs

theorem decrypt_encrypt (iv : Block) (ps : List Block) :
    decrypt perm iv (encrypt perm iv ps) = ps := by
  induction ps generalizing iv with
  | nil => rfl
  | cons p ps ih => simp [encrypt, decrypt, ih, xor_xor_cancel]

/-- A permutation that differs by a block changes every block of the text by it. -/
theorem decrypt_xorEquiv (delta iv : Block) (cs : List Block) :
    decrypt ((xorEquiv delta).trans perm) iv cs = (decrypt perm iv cs).map (xor · delta) := by
  induction cs generalizing iv with
  | nil => rfl
  | cons c cs ih =>
    have hhd : ((xorEquiv delta).trans perm).symm c = xor (perm.symm c) delta := rfl
    rw [decrypt, decrypt, List.map_cons, ih, hhd, xor_right_comm]

variable (perm : Equiv.Perm Block) (iv : Block)

/-- The encryption of a padded text. -/
def encryptPadded (text : Bytes) : Bytes := flatten (encrypt perm iv ((blocks (pad text)).getD []))

def decryptPadded (bytes : Bytes) : Option Bytes := do
  unpad (flatten (decrypt perm iv (← blocks bytes)))

theorem exists_blocks_pad : ∃ ps, flatten ps = pad text := by
  refine exists_flatten_eq (text.length / 16 + 1) _ ?_
  have hlen : (pad text).length = text.length + padding text := by simp [pad]
  rw [hlen, padding]
  omega

theorem decryptPadded_encryptPadded (iv : Block) (text : Bytes) :
    decryptPadded perm iv (encryptPadded perm iv text) = some text := by
  obtain ⟨ps, hps⟩ := exists_blocks_pad text
  rw [decryptPadded, encryptPadded, ← hps, blocks_flatten, blocks_flatten]
  simp only [Option.bind_eq_bind, Option.bind_some, Option.getD_some, decrypt_encrypt, hps,
    unpad_pad]

/-! ## Another permutation -/

/-- The block with one byte that is not zero. -/
def single (i : ℕ) (byte : UInt8) : Block := .ofFn fun j => if j = i then byte else 0

theorem lt_of_mem_single (i : ℕ) {byte : UInt8} (h : byte < 128) :
    ∀ b ∈ (single i byte).toList, b < 128 := by
  intro b hb
  obtain ⟨j, hj, rfl⟩ := List.mem_iff_getElem.mp hb
  simp only [single, Vector.getElem_toList, Vector.getElem_ofFn]
  split
  · exact h
  · decide

theorem xor_lt {a b : UInt8} (ha : a < 128) (hb : b < 128) : a ^^^ b < 128 := by
  rw [UInt8.lt_iff_toNat_lt, UInt8.toNat_xor]
  exact Nat.xor_lt_two_pow (n := 7) (UInt8.lt_iff_toNat_lt.mp ha) (UInt8.lt_iff_toNat_lt.mp hb)

theorem lt_of_mem_pad {text : Bytes} (h : ∀ b ∈ text, b < 128) : ∀ b ∈ pad text, b < 128 := by
  intro b hb
  rcases List.mem_append.mp hb with hb | hb
  · exact h b hb
  · rw [List.eq_of_mem_replicate hb, UInt8.lt_iff_toNat_lt, toNat_padding]
    exact Nat.lt_of_le_of_lt (padding_bounds text).2 (by decide)

theorem lt_of_mem_flatten_xor {ps : List Block} {delta : Block} (h : ∀ b ∈ flatten ps, b < 128)
    (hdel : ∀ b ∈ delta.toList, b < 128) :
    ∀ b ∈ flatten (ps.map (xor · delta)), b < 128 := by
  intro b hb
  obtain ⟨_, hmem, hb⟩ := List.mem_flatMap.mp hb
  obtain ⟨p, hp, rfl⟩ := List.mem_map.mp hmem
  obtain ⟨i, hi, rfl⟩ := List.mem_iff_getElem.mp hb
  simp only [Vector.getElem_toList, getElem_xor]
  exact xor_lt (h _ (List.mem_flatMap.mpr ⟨p, hp, by simp⟩)) (hdel _ (by simp))

theorem getLast?_flatten_concat (qs : List Block) (q : Block) :
    (flatten (qs ++ [q])).getLast? = some q[15] := by
  simp [flatten, List.getLast?_eq_getElem?]

/-- Some permutation decrypts the ciphertext of an ASCII text to another ASCII text. -/
theorem exists_decryptPadded_ne (iv : Block) {text : Bytes} (h : ∀ b ∈ text, b < 128) :
    ∃ perm' other, decryptPadded perm' iv (encryptPadded perm iv text) = some other ∧
      other ≠ text ∧ ∀ b ∈ other, b < 128 := by
  obtain ⟨ps, hps⟩ := exists_blocks_pad text
  obtain ⟨qs, q, rfl⟩ : ∃ qs q, ps = qs ++ [q] := by
    rcases List.eq_nil_or_concat' ps with rfl | hcn
    · have hl := getLast?_pad text
      rw [← hps] at hl
      cases hl
    · exact hcn
  have hq : q[15] = UInt8.ofNat (padding text) := by
    have hl := getLast?_flatten_concat qs q
    rw [hps, getLast?_pad] at hl
    exact (Option.some.inj hl).symm
  -- A block that turns the last byte into a padding of one byte, and that changes the text.
  obtain ⟨delta, hone, hsm, hne⟩ : ∃ delta : Block, q[15] ^^^ delta[15] = 1 ∧
      (∀ b ∈ delta.toList, b < 128) ∧
      (flatten ((qs ++ [q]).map (xor · delta))).dropLast ≠ text := by
    by_cases hpad : padding text = 1
    · refine ⟨single 0 1, by rw [hq, hpad]; decide, by decide +kernel, fun heq => ?_⟩
      have hl : (flatten ((qs ++ [q]).map (xor · (single 0 1)))).getLast? = some 1 := by
        rw [List.map_append, List.map_singleton, getLast?_flatten_concat, getElem_xor, hq, hpad]
        decide
      have he : flatten ((qs ++ [q]).map (xor · (single 0 1))) = flatten (qs ++ [q]) := by
        rw [← List.dropLast_append_getLast? 1 hl, heq, hps, pad, hpad]
        rfl
      have hblk := congrArg blocks he
      rw [blocks_flatten, blocks_flatten] at hblk
      have hqs := Option.some.inj hblk
      rw [List.map_append] at hqs
      have hbl : xor q (single 0 1) = q := by simpa using (List.append_inj' hqs rfl).2
      have hby := congrArg (fun b : Block => q[0] ^^^ b[0]) hbl
      rw [getElem_xor, ← UInt8.xor_assoc, UInt8.xor_self, UInt8.zero_xor] at hby
      simp [single] at hby
    · refine ⟨single 15 (q[15] ^^^ 1), ?_, lt_of_mem_single 15 (xor_lt ?_ (by decide)),
        fun heq => ?_⟩
      · rw [show (single 15 (q[15] ^^^ 1))[15] = q[15] ^^^ 1 by simp [single], ← UInt8.xor_assoc,
          UInt8.xor_self, UInt8.zero_xor]
      · refine lt_of_mem_pad h _ ?_
        rw [hq]
        exact List.mem_of_getLast? (getLast?_pad text)
      · have hlen := congrArg List.length heq
        have hlen' := congrArg List.length hps
        have hpd : (pad text).length = text.length + padding text := by simp [pad]
        rw [List.length_dropLast, length_flatten, List.length_map] at hlen
        rw [length_flatten] at hlen'
        have := padding_bounds text
        omega
  refine ⟨(xorEquiv delta).trans perm, _, ?_, hne, fun b hb => ?_⟩
  · rw [decryptPadded, encryptPadded, ← hps, blocks_flatten, blocks_flatten]
    simp only [Option.bind_eq_bind, Option.bind_some, Option.getD_some, decrypt_xorEquiv,
      decrypt_encrypt]
    refine unpad_of_getLast_one ?_
    rw [List.map_append, List.map_singleton, getLast?_flatten_concat, getElem_xor, hone]
  · refine lt_of_mem_flatten_xor ?_ hsm b (List.dropLast_subset _ hb)
    rw [hps]
    exact lt_of_mem_pad h

end CheetahDex.Lib.Cbc
