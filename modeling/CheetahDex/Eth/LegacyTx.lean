import CheetahDex.Swap.Types

/-!
# Ethereum transactions on the wire

A signed transaction is an RLP list of nine items. The primitives of the RLP crate and the curve are
given; the former are canonical: what is read is what would be written.
-/

namespace CheetahDex.Eth

open Lib List
open Swap (Bytes Hash hashOfBytes)

abbrev U256 := BitVec 256

abbrev H256 := Hash 32

abbrev Address := Hash 20

/-- A canonical way to write values, which can be read back from the front of a buffer. -/
structure Codec (α : Type) where
  encode : α → Bytes
  decode : Bytes → Except String (α × Bytes)
  decode_encode (a : α) (rest : Bytes) : decode (encode a ++ rest) = .ok (a, rest)
  eq_of_decode {buf rest : Bytes} {a : α} (h : decode buf = .ok (a, rest)) : buf = encode a ++ rest

/-- One item after the other. -/
def Codec.prod {α β : Type} (c : Codec α) (d : Codec β) : Codec (α × β) where
  encode p := c.encode p.1 ++ d.encode p.2
  decode buf := do
    let (a, buf) ← c.decode buf
    let (b, buf) ← d.decode buf
    return ((a, b), buf)
  decode_encode p rest := by
    rw [append_assoc]
    exact ok_bind_ok (c.decode_encode _ _) (ok_bind_ok (d.decode_encode _ _) rfl)
  eq_of_decode h := by
    obtain ⟨⟨a, buf₁⟩, h₁, h⟩ := of_bind_ok h
    obtain ⟨⟨b, buf₂⟩, h₂, h⟩ := of_bind_ok h
    cases h
    rw [c.eq_of_decode h₁, d.eq_of_decode h₂, append_assoc]

structure Header where
  list : Bool
  payloadLength : ℕ

def emptyStringCode : UInt8 := 0x80

/-- The crate. A string of one byte may be its own header. -/
structure Rlp where
  u256 : Codec U256
  u64 : Codec (BitVec 64)
  bytes : Codec Bytes
  header : Header → Bytes
  decodeHeader : Bytes → Except String (Header × Bytes)
  decode_header {h : Header} {rest : Bytes} (hne : h.list ∨ h.payloadLength ≠ 1)
    (hle : h.payloadLength ≤ rest.length) : decodeHeader (header h ++ rest) = .ok (h, rest)
  eq_of_decodeHeader {buf rest : Bytes} {h : Header} (hdcd : decodeHeader buf = .ok (h, rest))
    (hne : h.list ∨ h.payloadLength ≠ 1) :
    buf = header h ++ rest ∧ h.payloadLength ≤ rest.length
  bytes_eq {bytes' : Bytes} (h : bytes'.length ≠ 1) :
    bytes.encode bytes' = header ⟨false, bytes'.length⟩ ++ bytes'
  bytes_nil : bytes.encode [] = [emptyStringCode]
  length_header : (header ⟨false, 20⟩).length = 1

/-! ## Actions -/

inductive Action where
  | create
  | call (addr : Address)

namespace Action

variable (rlp : Rlp)

def encode : Action → Bytes
  | create => [emptyStringCode]
  | call addr => rlp.bytes.encode addr.toList

def length : Action → ℕ
  | create => 1
  | call _ => 21

def decode (buf : Bytes) : Except String (Action × Bytes) := do
  check (buf = []) "input too short"
  if buf.head? = some emptyStringCode then return (create, buf.tail)
  let (header, buf) ← rlp.decodeHeader buf
  check (header.list ∨ header.payloadLength ≠ 20) "invalid Action: expected 20-byte address"
  let addr ← orError (hashOfBytes 20 buf) "out of range"
  return (call addr, buf.drop 20)

variable {rlp}

theorem encode_call (addr : Address) :
    (call addr).encode rlp = rlp.header ⟨false, 20⟩ ++ addr.toList := by
  have hlen : addr.toList.length = 20 := addr.length_toList
  rw [encode, rlp.bytes_eq (by omega), hlen]

theorem length_encode (a : Action) : (a.encode rlp).length = a.length := by
  cases a with
  | create => rfl
  | call addr => rw [encode_call, length_append, rlp.length_header, addr.length_toList, length]

theorem head?_call (addr : Address) (rest : Bytes) :
    ((call addr).encode rlp ++ rest).head? ≠ some emptyStringCode := by
  intro h
  obtain ⟨tail, htl⟩ := head?_eq_some_iff.mp h
  have hemp := rlp.bytes.decode_encode [] tail
  rw [rlp.bytes_nil, singleton_append, ← htl, encode, rlp.bytes.decode_encode] at hemp
  have hlen : addr.toList.length = 20 := addr.length_toList
  rw [(Prod.mk.inj (Except.ok.inj hemp)).1] at hlen
  cases hlen

theorem decode_encode (a : Action) (rest : Bytes) :
    decode rlp (a.encode rlp ++ rest) = .ok (a, rest) := by
  cases a with
  | create => rfl
  | call addr =>
    have hlen : addr.toList.length = 20 := addr.length_toList
    have hle : 20 ≤ (addr.toList ++ rest).length := by
      rw [length_append]
      omega
    have hne : (call addr).encode rlp ++ rest ≠ [] := by
      rw [← length_pos_iff, length_append, length_encode, length]
      omega
    unfold decode
    rw [check_bind_iff, if_neg (head?_call addr rest), encode_call, append_assoc]
    refine ⟨by rwa [encode_call, append_assoc] at hne, ?_⟩
    refine ok_bind_ok (rlp.decode_header (.inr (by decide)) hle) (check_bind_iff.mpr ⟨by simp, ?_⟩)
    rw [hashOfBytes, dif_pos hle, drop_left' hlen]
    refine congrArg (fun a => Except.ok (call a, rest)) (Vector.toList_inj.mp ?_)
    simp [take_left' hlen]

theorem eq_of_decode {buf rest : Bytes} {a : Action} (h : decode rlp buf = .ok (a, rest)) :
    buf = a.encode rlp ++ rest := by
  obtain ⟨-, h⟩ := check_bind_iff.mp h
  split at h
  · rename_i hhd
    obtain ⟨tail, rfl⟩ := head?_eq_some_iff.mp hhd
    cases h
    rfl
  · obtain ⟨⟨⟨list, n⟩, buf'⟩, hhdr, h⟩ := of_bind_ok h
    obtain ⟨hchk, h⟩ := check_bind_iff.mp h
    obtain ⟨addr, had, h⟩ := of_bind_ok h
    cases h
    simp only [not_or, ne_eq, not_not, Bool.not_eq_true] at hchk
    obtain ⟨rfl, rfl⟩ := hchk
    obtain ⟨rfl, hle⟩ := rlp.eq_of_decodeHeader hhdr (.inr (by decide))
    rw [orError_ok_iff, hashOfBytes, dif_pos hle, Option.some_inj] at had
    rw [encode_call, append_assoc, ← had]
    simp

variable (rlp) in
def codec : Codec Action := ⟨encode rlp, decode rlp, decode_encode, eq_of_decode⟩

end Action

/-! ## Transactions -/

variable (rlp : Rlp)

structure Transaction where
  nonce : U256
  gasPrice : U256
  gas : U256
  action : Action
  value : U256
  data : Bytes

/-- The items of `Transaction`. -/
def unsignedItems : Codec (U256 × U256 × U256 × Action × U256 × Bytes) :=
  rlp.u256.prod (rlp.u256.prod (rlp.u256.prod ((Action.codec rlp).prod (rlp.u256.prod rlp.bytes))))

def Transaction.fields (tx : Transaction) : Bytes :=
  (unsignedItems rlp).encode (tx.nonce, tx.gasPrice, tx.gas, tx.action, tx.value, tx.data)

/-- The sum of the lengths, of which that of an action is stated by hand. -/
def Transaction.fieldsLen (tx : Transaction) : ℕ :=
  (rlp.u256.encode tx.nonce).length + (rlp.u256.encode tx.gasPrice).length +
    (rlp.u256.encode tx.gas).length + tx.action.length + (rlp.u256.encode tx.value).length +
    (rlp.bytes.encode tx.data).length

/-- The items that bind a signature to a chain; zero is written alike in every width. -/
def chainItems : Option (BitVec 64) → Bytes
  | some n => rlp.u64.encode n ++ rlp.u64.encode 0 ++ rlp.u64.encode 0
  | none => []

def Transaction.hash (keccak256 : Bytes → H256) (tx : Transaction) (chainId : Option (BitVec 64)) :
    H256 :=
  keccak256 (rlp.header ⟨true, tx.fieldsLen rlp + (chainItems rlp chainId).length⟩ ++
    (tx.fields rlp ++ chainItems rlp chainId))

structure UnverifiedTransaction where
  unsigned : Transaction
  v : BitVec 64
  r : U256
  s : U256
  hash : H256

namespace UnverifiedTransaction

variable (keccak256 : Bytes → H256) (t : UnverifiedTransaction)

def signatureItems : Codec (BitVec 64 × U256 × U256) := rlp.u64.prod (rlp.u256.prod rlp.u256)

def payload : Bytes := t.unsigned.fields rlp ++ (signatureItems rlp).encode (t.v, t.r, t.s)

def sealedPayloadLen : ℕ :=
  t.unsigned.fieldsLen rlp + (rlp.u64.encode t.v).length + (rlp.u256.encode t.r).length +
    (rlp.u256.encode t.s).length

def rlpAppendSealed : Bytes := rlp.header ⟨true, t.sealedPayloadLen rlp⟩ ++ t.payload rlp

def decode (raw : Bytes) : Except String (UnverifiedTransaction × Bytes) := do
  let (header, buf) ← rlp.decodeHeader raw
  check (header.list = false) "unexpected string"
  let payloadStartOffset := raw.length - buf.length
  let consumedTotal := payloadStartOffset + header.payloadLength
  let rawTx := raw.take consumedTotal
  -- each item is read from what the one before has left of the whole buffer
  let ((nonce, gasPrice, gas, action, value, data), buf) ← (unsignedItems rlp).decode buf
  let ((v, r, s), buf) ← (signatureItems rlp).decode buf
  -- the source subtracts machine words, which wrap around; the lengths are below half their range
  let consumed : ℤ := rawTx.length - payloadStartOffset - buf.length + payloadStartOffset
  check (consumed ≠ consumedTotal) "trailing bytes in transaction"
  return (⟨⟨nonce, gasPrice, gas, action, value, data⟩, v, r, s, keccak256 rawTx⟩, buf)

def isUnsigned : Bool := t.r = 0 && t.s = 0

def chainId : Option (BitVec 64) :=
  if t.isUnsigned then some t.v else if t.v > 36 then some ((t.v - 35) / 2) else none

end UnverifiedTransaction

def addChainReplayProtection (v : BitVec 64) : Option (BitVec 64) → BitVec 64
  | some n => v + (35 + n * 2)
  | none => v + 27

def checkReplayProtection (v : BitVec 64) : ℕ :=
  if v = 27 then 0 else if v = 28 then 1 else if v > 36 then ((v - 1) % 2).toNat else 4

structure Signature where
  r : U256
  s : U256
  v : ℕ

/-- The hash function and the curve. `recover` has recovery ids up to three. -/
structure Keys (Secret Public : Type) where
  keccak256 : Bytes → H256
  sign : Secret → H256 → Option Signature
  recover : ℕ → H256 → U256 → U256 → Option Public
  publicToAddress : Public → Address

structure SignedTransaction (Public : Type) where
  transaction : UnverifiedTransaction
  sender : Address
  publicKey : Option Public

section keys

variable {Secret Public : Type} (keys : Keys Secret Public)

def recoverPublicKey (messageHash : H256) (sig : Signature) : Except String Public := do
  let v := if sig.v ≥ 27 then sig.v - 27 else sig.v
  check (v > 3) "invalid recovery id"
  orError (keys.recover v messageHash sig.r sig.s) "invalid signature"

def SignedTransaction.new (t : UnverifiedTransaction) : Except String (SignedTransaction Public) :=
  if t.isUnsigned then .ok ⟨t, Vector.replicate 20 0xff, none⟩
  else do
    let key ← recoverPublicKey keys (t.unsigned.hash rlp keys.keccak256 t.chainId)
      ⟨t.r, t.s, checkReplayProtection t.v⟩
    return ⟨t, keys.publicToAddress key, some key⟩

/-- `signed_eth_tx_from_bytes`, which does not look at what is left of the buffer. -/
def signedEthTxFromBytes (bytes : Bytes) : Except String (SignedTransaction Public) := do
  let (tx, _) ← UnverifiedTransaction.decode rlp keys.keccak256 bytes
  SignedTransaction.new rlp keys tx

def Transaction.withSignature (tx : Transaction) (sig : Signature) (chainId : Option (BitVec 64)) :
    UnverifiedTransaction :=
  let t : UnverifiedTransaction :=
    ⟨tx, addChainReplayProtection (.ofNat 64 sig.v) chainId, sig.r, sig.s, Vector.replicate 32 0⟩
  { t with hash := keys.keccak256 (t.rlpAppendSealed rlp) }

/-- `Transaction::sign`; `none` where it panics. -/
def Transaction.sign (tx : Transaction) (secret : Secret) (chainId : Option (BitVec 64)) :
    Option (SignedTransaction Public) := do
  let sig ← keys.sign secret (tx.hash rlp keys.keccak256 chainId)
  (SignedTransaction.new rlp keys (tx.withSignature rlp keys sig chainId)).toOption

end keys

end CheetahDex.Eth
