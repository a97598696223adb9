import CheetahDex.Eth.LegacyTx
import CheetahDex.Lib.LeBytes

/-!
# What the Ethereum codec reads is what it writes, if the list header is right

The fields are read from the whole buffer and the check at the end only says that nothing is left,
so a header may declare less than there is. A chain id of zero is lost when it is put into `v`.
-/

namespace CheetahDex.Eth

open Lib List Except SignedTransaction UnverifiedTransaction
open Swap (Bytes)

variable {rlp : Rlp}

namespace UnverifiedTransaction

variable {keccak256 : Bytes → H256} (t : UnverifiedTransaction)

theorem length_payload : (t.payload rlp).length = t.sealedPayloadLen rlp := by
  simp only [payload, Transaction.fields, unsignedItems, signatureItems, Codec.prod, Action.codec,
    length_append, Action.length_encode, sealedPayloadLen, Transaction.fieldsLen]
  omega

/-- A header that declares no more than follows it is accepted. -/
theorem decode_header_payload {n : ℕ} (hle : n ≤ (t.payload rlp).length) :
    decode rlp keccak256 (rlp.header ⟨true, n⟩ ++ t.payload rlp) =
      .ok ({ t with hash := keccak256 (rlp.header ⟨true, n⟩ ++ (t.payload rlp).take n) }, []) := by
  have htk : (rlp.header ⟨true, n⟩ ++ t.payload rlp).take ((rlp.header ⟨true, n⟩ ++
      t.payload rlp).length - (t.payload rlp).length + n) =
      rlp.header ⟨true, n⟩ ++ (t.payload rlp).take n := by
    rw [length_append, Nat.add_sub_cancel, take_length_add_append]
  have hsi := (signatureItems rlp).decode_encode (t.v, t.r, t.s) []
  rw [append_nil] at hsi
  refine ok_bind_ok (rlp.decode_header (.inl rfl) hle) (check_bind_iff.mpr ⟨by simp, ?_⟩)
  simp only [htk]
  refine ok_bind_ok ((unsignedItems rlp).decode_encode _ _) (ok_bind_ok hsi ?_)
  refine check_bind_iff.mpr ⟨?_, rfl⟩
  simp only [length_nil, length_append, length_take]
  omega

theorem decode_rlpAppendSealed :
    decode rlp keccak256 (t.rlpAppendSealed rlp) =
      .ok ({ t with hash := keccak256 (t.rlpAppendSealed rlp) }, []) := by
  rw [rlpAppendSealed, ← length_payload, decode_header_payload t le_rfl, take_length]

variable {t}

/-- What was read: a header that declares at most what follows, and all of what follows. -/
theorem eq_of_decode {raw rest : Bytes} (h : decode rlp keccak256 raw = .ok (t, rest)) :
    ∃ n, rlp.decodeHeader raw = .ok (⟨true, n⟩, t.payload rlp) ∧
      t.hash = keccak256 (raw.take (raw.length - (t.payload rlp).length + n)) := by
  obtain ⟨⟨⟨list, n⟩, buf⟩, hhdr, h⟩ := of_bind_ok h
  obtain ⟨hls, h⟩ := check_bind_iff.mp h
  obtain rfl : list = true := by simpa using hls
  obtain ⟨⟨⟨nonce, gasPrice, gas, action, value, data⟩, buf₁⟩, h₁, h⟩ := of_bind_ok h
  obtain ⟨⟨⟨v, r, s⟩, buf₂⟩, h₂, h⟩ := of_bind_ok h
  obtain ⟨hcn, h⟩ := check_bind_iff.mp h
  cases h
  obtain ⟨hraw, hle⟩ := rlp.eq_of_decodeHeader hhdr (.inl rfl)
  -- nothing is left, so the items are all of the buffer
  have hnil : rest = [] := by
    refine eq_nil_of_length_eq_zero ?_
    rw [not_not, length_take] at hcn
    omega
  obtain rfl := (unsignedItems rlp).eq_of_decode h₁
  obtain rfl := (signatureItems rlp).eq_of_decode h₂
  rw [hnil, append_nil] at hhdr ⊢
  exact ⟨n, hhdr, rfl⟩

end UnverifiedTransaction

/-! ## Signatures -/

/-- A signature that carries the chain id other than zero gives both back. -/
theorem replayProtection_eq {t : UnverifiedTransaction} {v : ℕ} {chainId : Option (BitVec 64)}
    (hv : v ≤ 1) (hft : ∀ n ∈ chainId, 35 + 2 * n.toNat + 1 < 2 ^ 64) (hz : chainId ≠ some 0)
    (ht : t.v = addChainReplayProtection (.ofNat 64 v) chainId) (hsg : t.isUnsigned = false) :
    t.chainId = chainId ∧ checkReplayProtection t.v = v := by
  rw [UnverifiedTransaction.chainId, hsg, if_neg (by decide), ht]
  cases chainId with
  | none =>
    obtain rfl | rfl : v = 0 ∨ v = 1 := by omega
    · decide
    · decide
  | some n =>
    have hn := hft n rfl
    have hpos : n.toNat ≠ 0 := fun h => hz (congrArg some (BitVec.eq_of_toNat_eq h))
    have hnat : (addChainReplayProtection (.ofNat 64 v) (some n)).toNat = v + 35 + 2 * n.toNat := by
      simp only [addChainReplayProtection]
      bv_omega
    generalize addChainReplayProtection (.ofNat 64 v) (some n) = w at hnat
    have hw : w > 36 := by bv_omega
    have hdiv : (w - 35) / 2 = n := BitVec.eq_of_toNat_eq (by
      rw [BitVec.toNat_udiv, BitVec.toNat_sub_of_le (by bv_omega), hnat]
      change (v + 35 + 2 * n.toNat - 35) / 2 = n.toNat
      omega)
    have hmod : ((w - 1) % 2).toNat = v := by
      rw [BitVec.toNat_umod, BitVec.toNat_sub_of_le (by bv_omega), hnat]
      change (v + 35 + 2 * n.toNat - 1) % 2 = v
      omega
    refine ⟨by rw [if_pos hw, hdiv], ?_⟩
    rw [checkReplayProtection, if_neg (by bv_omega), if_neg (by bv_omega), if_pos hw, hmod]

variable {Secret Public : Type}

/-- Recovery inverts what the secret signs. -/
def Keys.Signs (keys : Keys Secret Public) (secret : Secret) (key : Public) : Prop :=
  ∀ hash, ∃ sig, keys.sign secret hash = some sig ∧ sig.v ≤ 1 ∧ ¬(sig.r = 0 ∧ sig.s = 0) ∧
    keys.recover sig.v hash sig.r sig.s = some key

/-- The list header declares as many bytes as follow it. -/
def DeclaresRest (rlp : Rlp) (buf : Bytes) : Prop :=
  ∃ header rest, rlp.decodeHeader buf = .ok (header, rest) ∧ header.payloadLength = rest.length

theorem declaresRest_rlpAppendSealed (t : UnverifiedTransaction) :
    DeclaresRest rlp (t.rlpAppendSealed rlp) :=
  ⟨_, _, rlp.decode_header (.inl rfl) t.length_payload.ge, t.length_payload.symm⟩

variable {keys : Keys Secret Public}

theorem SignedTransaction.transaction_eq {t : UnverifiedTransaction}
    {signed : SignedTransaction Public} (h : new rlp keys t = .ok signed) :
    signed.transaction = t := by
  unfold new at h
  split at h
  · cases h
    rfl
  · obtain ⟨key, -, h⟩ := of_bind_ok h
    cases h
    rfl

/-- What decodes is encoded again to the same bytes if its header declares them. -/
theorem decoded_canonical_iff {buf : Bytes} {t : SignedTransaction Public}
    (h : signedEthTxFromBytes rlp keys buf = .ok t) :
    (t.transaction.rlpAppendSealed rlp = buf ∧ t.transaction.hash = keys.keccak256 buf) ↔
      DeclaresRest rlp buf := by
  obtain ⟨⟨t', rest⟩, hdcd, hnew⟩ := of_bind_ok h
  obtain ⟨n, hhdr, hhs⟩ := eq_of_decode hdcd
  rw [transaction_eq hnew]
  obtain ⟨hbuf, -⟩ := rlp.eq_of_decodeHeader hhdr (.inl rfl)
  constructor
  · rintro ⟨rfl, -⟩
    exact declaresRest_rlpAppendSealed t'
  · rintro ⟨header, rest', hhdr', hlen⟩
    obtain ⟨rfl, rfl⟩ := Prod.mk.inj (ok.inj (hhdr'.symm.trans hhdr))
    have hn : n = (t'.payload rlp).length := hlen
    refine ⟨by rw [rlpAppendSealed, ← t'.length_payload, ← hn, ← hbuf], ?_⟩
    have hle' : (t'.payload rlp).length ≤ buf.length := by
      rw [hbuf, length_append]
      omega
    rw [hhs, hn, Nat.sub_add_cancel hle', take_length]

/-- The chain id zero is signed but not written. -/
theorem signed_decodes_iff {secret : Secret} {key : Public} (tx : Transaction)
    {chainId : Option (BitVec 64)} (hkey : keys.Signs secret key)
    (hft : ∀ n ∈ chainId, 35 + 2 * n.toNat + 1 < 2 ^ 64) :
    (∃ signed, tx.sign rlp keys secret chainId = some signed ∧ signed.transaction.unsigned = tx ∧
        signed.sender = keys.publicToAddress key ∧
        signedEthTxFromBytes rlp keys (signed.transaction.rlpAppendSealed rlp) = .ok signed) ↔
      chainId ≠ some 0 := by
  obtain ⟨sig, hsig, hv, hne, hrc⟩ := hkey (tx.hash rlp keys.keccak256 chainId)
  set t := tx.withSignature rlp keys sig chainId with ht
  have hsg : t.isUnsigned = false := by
    simp only [isUnsigned, Bool.and_eq_false_iff, decide_eq_false_iff_not]
    exact not_and_or.mp hne
  have hsn : tx.sign rlp keys secret chainId = (new rlp keys t).toOption := by
    rw [Transaction.sign, hsig]
    rfl
  constructor
  · -- with a chain id of zero the recovery id is lost
    rintro ⟨signed, hs, -⟩ rfl
    have hfr : checkReplayProtection t.v = 4 := by
      change checkReplayProtection (addChainReplayProtection (.ofNat 64 sig.v) (some 0)) = 4
      obtain hv | hv : sig.v = 0 ∨ sig.v = 1 := by omega
      · rw [hv]
        decide
      · rw [hv]
        decide
    rw [hsn, new, if_neg (by rw [hsg]; decide), hfr] at hs
    cases hs
  · intro hz
    obtain ⟨hch, hrp⟩ := replayProtection_eq hv hft hz rfl hsg
    have hnew : new rlp keys t = .ok ⟨t, keys.publicToAddress key, some key⟩ := by
      have hv' : ¬sig.v ≥ 27 := by omega
      have hv'' : ¬sig.v > 3 := by omega
      have hrc' : keys.recover sig.v (t.unsigned.hash rlp keys.keccak256 chainId) t.r t.s =
          some key := hrc
      rw [new, if_neg (by rw [hsg]; decide), hch, hrp,
        recoverPublicKey, if_neg hv', check, if_neg hv'', hrc']
      rfl
    refine ⟨_, by rw [hsn, hnew]; rfl, rfl, rfl, ?_⟩
    exact ok_bind_ok (t.decode_rlpAppendSealed) hnew

/-- What decodes is written back as it was, with its hash, exactly if the list header declares what
follows it; what is signed decodes to itself exactly if the chain id is not zero. -/
theorem codec_canonical_iff (rlp : Rlp) (keys : Keys Secret Public) :
    (∀ (buf : Bytes) (t : SignedTransaction Public), signedEthTxFromBytes rlp keys buf = .ok t →
      ((t.transaction.rlpAppendSealed rlp = buf ∧ t.transaction.hash = keys.keccak256 buf) ↔
        DeclaresRest rlp buf)) ∧
    ∀ (tx : Transaction) (secret : Secret) (key : Public) (chainId : Option (BitVec 64)),
      keys.Signs secret key → (∀ n ∈ chainId, 35 + 2 * n.toNat + 1 < 2 ^ 64) →
      ((∃ signed, tx.sign rlp keys secret chainId = some signed ∧
          signed.transaction.unsigned = tx ∧ signed.sender = keys.publicToAddress key ∧
          signedEthTxFromBytes rlp keys (signed.transaction.rlpAppendSealed rlp) = .ok signed) ↔
        chainId ≠ some 0) :=
  ⟨fun _ _ h => decoded_canonical_iff h, fun tx _ _ _ hkey hft => signed_decodes_iff tx hkey hft⟩

/-! ## A crate that is canonical -/

/-- A way to write values that `read` undoes is canonical if only what was written is accepted. -/
def Codec.ofRead {α : Type} (encode : α → Bytes) (read : Bytes → α × Bytes)
    (h : ∀ a rest, read (encode a ++ rest) = (a, rest)) : Codec α where
  encode
  decode buf := if encode (read buf).1 ++ (read buf).2 = buf then .ok (read buf) else .error ""
  decode_encode a rest := by rw [h, if_pos rfl]
  eq_of_decode hdcd := by
    split at hdcd
    · rename_i hbuf
      rw [← hbuf, ok.inj hdcd]
    · cases hdcd

/-- A number in `k` bytes. -/
def wordCodec (k : ℕ) : Codec (BitVec (8 * k)) :=
  .ofRead (fun a => leBytes k a.toNat) (fun buf => (.ofNat _ (ofLeBytes (buf.take k)), buf.drop k))
    fun a rest => by
      have hlt : a.toNat < (2 ^ 8) ^ k := by
        rw [← Nat.pow_mul]
        exact a.isLt
      rw [take_left' (length_leBytes k _), drop_left' (length_leBytes k _),
        ofLeBytes_leBytes_of_lt hlt, BitVec.ofNat_toNat, BitVec.setWidth_eq]

def sampleHeader : Header → Bytes
  | ⟨false, 0⟩ => [emptyStringCode]
  | ⟨false, 20⟩ => [0x94]
  | ⟨list, n⟩ => (if list then 0xc0 else 0x81) :: (List.replicate n 1 ++ [0])

def readHeader : Bytes → Header × Bytes
  | [] => (⟨false, 0⟩, [])
  | b :: buf =>
    if b = emptyStringCode then (⟨false, 0⟩, buf)
    else if b = 0x94 then (⟨false, 20⟩, buf)
    else (⟨b = 0xc0, (buf.takeWhile (· = 1)).length⟩, (buf.dropWhile (· = 1)).tail)

theorem readHeader_sampleHeader (h : Header) (buf : Bytes) :
    readHeader (sampleHeader h ++ buf) = (h, buf) := by
  unfold sampleHeader
  split
  · rfl
  · rfl
  · rename_i list n _ _
    have hon : ∀ b ∈ List.replicate n (1 : UInt8), decide (b = 1) = true := by simp
    cases list
    all_goals simp [readHeader, emptyStringCode, takeWhile_append_of_pos hon,
      dropWhile_append_of_pos hon]

def headerCodec : Codec Header := .ofRead sampleHeader readHeader readHeader_sampleHeader

/-- The crate but for its codes: a number has a fixed width here, a length is counted in ones. -/
def sampleRlp : Rlp where
  u256 := wordCodec 32
  u64 := wordCodec 8
  bytes := .ofRead (fun b => sampleHeader ⟨false, b.length⟩ ++ b)
    (fun buf =>
      let (h, buf) := readHeader buf
      (buf.take h.payloadLength, buf.drop h.payloadLength))
    fun b rest => by simp [readHeader_sampleHeader]
  header := sampleHeader
  decodeHeader buf := do
    let (h, rest) ← headerCodec.decode buf
    check (rest.length < h.payloadLength) "input too short"
    return (h, rest)
  decode_header _ hle := ok_bind_ok (headerCodec.decode_encode _ _)
    (check_bind_iff.mpr ⟨not_lt.mpr hle, rfl⟩)
  eq_of_decodeHeader hdcd _ := by
    obtain ⟨⟨h', rest'⟩, hdec, hdcd⟩ := of_bind_ok hdcd
    obtain ⟨hle, hdcd⟩ := check_bind_iff.mp hdcd
    cases hdcd
    exact ⟨headerCodec.eq_of_decode hdec, not_lt.mp hle⟩
  bytes_eq _ := rfl
  bytes_nil := rfl
  length_header := rfl

/-- One key pair and one hash: of the real crate only that what is signed is recovered. -/
def sampleKeys : Keys Unit Unit where
  keccak256 _ := Vector.replicate 32 0
  sign _ _ := some ⟨1, 1, 0⟩
  recover _ _ _ _ := some ()
  publicToAddress _ := Vector.replicate 20 0

theorem sampleKeys_signs : sampleKeys.Signs () () :=
  fun _ => ⟨⟨1, 1, 0⟩, rfl, by decide, by decide, rfl⟩

def sampleTx : Transaction := ⟨0, 0, 0, .create, 0, []⟩

theorem chainOne_canonical : ∃ signed,
    sampleTx.sign sampleRlp sampleKeys () (some 1) = some signed ∧ signed.transaction.hash =
      sampleKeys.keccak256 (signed.transaction.rlpAppendSealed sampleRlp) := by
  obtain ⟨hdc, hsg⟩ := codec_canonical_iff sampleRlp sampleKeys
  obtain ⟨signed, hsn, -, -, hdcd⟩ :=
    (hsg sampleTx () () (some 1) sampleKeys_signs (by simp)).mpr (by decide)
  exact ⟨signed, hsn, ((hdc _ _ hdcd).mpr (declaresRest_rlpAppendSealed _)).2⟩

/-- The header of an empty list before nine items is accepted, and the hash is that of the header
alone; and signing for the chain zero panics. -/
theorem shortHeader_accepted : Nonempty Rlp ∧ ∀ rlp : Rlp,
    (∃ buf t, signedEthTxFromBytes rlp sampleKeys buf = .ok t ∧
      t.transaction.hash = sampleKeys.keccak256 (rlp.header ⟨true, 0⟩) ∧
      t.transaction.rlpAppendSealed rlp ≠ buf) ∧
    sampleTx.sign rlp sampleKeys () (some 0) = none := by
  refine ⟨⟨sampleRlp⟩, fun rlp => ⟨?_, rfl⟩⟩
  let t : UnverifiedTransaction := ⟨sampleTx, 27, 1, 1, Vector.replicate 32 0⟩
  have hdcd := @decode_header_payload rlp sampleKeys.keccak256 t 0 (Nat.zero_le _)
  refine ⟨_, ⟨t, Vector.replicate 20 0, some ()⟩, ok_bind_ok hdcd rfl, rfl, fun heq => ?_⟩
  obtain ⟨header, rest, hhdr, hlen⟩ := heq ▸ declaresRest_rlpAppendSealed t
  obtain ⟨rfl, rfl⟩ := Prod.mk.inj (ok.inj
    (hhdr.symm.trans (rlp.decode_header (.inl rfl) (Nat.zero_le _))))
  have hpos := @length_payload rlp t
  rw [← hlen, sealedPayloadLen, Transaction.fieldsLen] at hpos
  simp only [t, sampleTx, Action.length] at hpos
  omega

end CheetahDex.Eth
