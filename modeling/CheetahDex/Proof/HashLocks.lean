import CheetahDex.Proof.SecretExtraction

/-!
# Hash locks of the second protocol

A state machine hashes its secret with one of two algorithms, the script builders hash that hash
once more, and the extraction compares with the hash of the first kind only.
-/

namespace CheetahDex.Utxo

open Chain (Bytes H256 Transaction)
open Script Lib Lib.BitcoinScript Option Spend
open Builder (assigned_dataItem dataItem pushData_data dataItem_fits dataItem_code_le)

variable (h : Hashes) {clock : ChainClock}

/-! ## The secret in an input -/

/-- The secret that an input reveals and the hash that was computed for it. -/
def Spend.revealed (x : Terms) : Spend → Option (H256 × Bytes)
  | makerPaymentSpend | takerPaymentCooperative => some (x.makerSecret, x.makerSecretHash)
  | makerPaymentSecret | takerFundingSecret => some (x.takerSecret, x.takerSecretHash)
  | _ => none

/-- The signatures that stand before the secret. -/
def Spend.signaturePushes (sigs : Signatures) : Spend → List Bytes
  | makerPaymentSecret => [sigs.maker ++ [1 ||| sigs.forkId.toUInt8]]
  | makerPaymentSpend | takerFundingSecret => [sigs.taker ++ [1 ||| sigs.forkId.toUInt8]]
  | takerPaymentCooperative => [sigs.maker ++ [sigs.sighashByte], sigs.taker ++ [sigs.sighashByte]]
  | _ => []

theorem dataItem_secret (secret : H256) : dataItem secret.toList = ⟨0x20, secret.toList⟩ := by
  rw [dataItem, length_h256]
  rfl

theorem length_h256_le (secret : H256) : secret.toList.length ≤ 0xffffffff := by
  rw [length_h256]
  decide

theorem spendsWithSecret_some (r : Bytes) (secret : H256) (inner : Opcode) :
    spendsWithSecret (some r) secret inner =
      some ⟨r, (dataItem secret.toList).encode ++ [inner.byte, 0], sequenceFinal, 0⟩ := by
  simp [spendsWithSecret, Builder.intoScript, Builder.pushOpcode,
    pushData_data (length_h256_le secret), Builder.default, Opcode.op0]

variable {secret : H256} {hash : Bytes} {s : Spend} {sigs : Signatures} {x : Terms}

/-- The bytes of an input with one signature that reveals a secret. -/
theorem IsRedeem.scriptSig_of_signed {redeem : Option Bytes} {t : Tree}
    (hrd : IsRedeem redeem t) {inner : Opcode} {forkId : UInt32} {signature : Bytes}
    {a : Assembled} (hsig : signature.length ≤ 72)
    (ha : signed clock forkId signature (spendsWithSecret redeem secret inner) = some a) :
    ∃ rest, a.scriptSig = ([signature ++ [1 ||| forkId.toUInt8]].map dataItem ++
      [Item.mk 0x20 secret.toList]).flatMap Item.encode ++ rest := by
  obtain ⟨r, rfl, hlen, -⟩ := hrd
  have hsg := length_signed (1 ||| forkId.toUInt8) hsig
  rw [spendsWithSecret_some] at ha
  simp only [signed, HtlcInput.p2shSpendWithSignature, Builder.intoScript, Builder.default,
    pushData_data (Nat.le_trans hsg (by decide)),
    pushData_data (Nat.le_trans hlen (by decide)), map_some, bind_eq_bind,
    bind_some, Option.pure_def, some.injEq, List.nil_append] at ha
  subst ha
  refine ⟨[inner.byte, 0] ++ (dataItem r).encode, ?_⟩
  simp [dataItem_secret]

/-- An input that reveals a secret pushes it directly, after the signatures. -/
theorem Spend.scriptSig_of_revealed (hsigs : sigs.Short) (hs : s.revealed x = some (secret, hash))
    {a : Assembled} (ha : s.assemble h clock x sigs = some a) :
    ∃ rest, a.scriptSig = ((s.signaturePushes sigs).map dataItem ++
      [Item.mk 0x20 secret.toList]).flatMap Item.encode ++ rest := by
  obtain ⟨hmaker, htaker⟩ := hsigs
  cases s with
  | makerPaymentSecret =>
    obtain ⟨rfl, rfl⟩ := Prod.mk.inj (some.inj hs)
    exact (isRedeem_makerPaymentScript h _ _ _ _ _).scriptSig_of_signed hmaker ha
  | makerPaymentSpend =>
    obtain ⟨rfl, rfl⟩ := Prod.mk.inj (some.inj hs)
    exact (isRedeem_makerPaymentScript h _ _ _ _ _).scriptSig_of_signed htaker ha
  | takerFundingSecret =>
    obtain ⟨rfl, rfl⟩ := Prod.mk.inj (some.inj hs)
    exact (isRedeem_takerFundingScript h _ _ _ _).scriptSig_of_signed htaker ha
  | takerPaymentCooperative =>
    obtain ⟨rfl, rfl⟩ := Prod.mk.inj (some.inj hs)
    obtain ⟨r, hr, hlen, -⟩ := isRedeem_takerPaymentScript h x.timeLock.toUInt32
      x.makerSecretHash x.takerPub x.makerPub
    have hfst := length_signed sigs.sighashByte hmaker
    have hsc := length_signed sigs.sighashByte htaker
    simp only [assemble, hr, buildTakerPaymentSpendCooperativeScriptSig, Builder.intoScript,
      Builder.default, Builder.pushOpcode, pushData_data (Nat.le_trans hfst (by decide)),
      pushData_data (Nat.le_trans hsc (by decide)), pushData_data (length_h256_le x.makerSecret),
      pushData_data (Nat.le_trans hlen (by decide)), map_some, bind_eq_bind,
      bind_some, Option.pure_def, some.injEq, List.nil_append] at ha
    subst ha
    refine ⟨[0] ++ (dataItem r).encode, ?_⟩
    simp [dataItem_secret, signaturePushes, Opcode.op0]
  | _ => exact absurd hs (by simp [revealed])

/-! ## What the extraction finds -/

theorem dataItem_code_eq {p : Bytes} : (dataItem p).code = 0x20 ↔ p.length = 32 := by
  have hcd : (0x20 : UInt8) = .ofNat 32 := rfl
  simp only [dataItem]
  split_ifs with hdir hby hwr
  · rw [hcd, ← UInt8.toNat_inj, UInt8.toNat_ofNat', UInt8.toNat_ofNat']
    omega
  all_goals
    refine iff_of_false (by decide) ?_
    omega

theorem secretInInstruction_dataItem {hash p : Bytes} :
    secretInInstruction h hash (readItem (dataItem p)) =
      if p.length = 32 ∧ (h.dhash160 p).toList = hash then some p else none := by
  have hdt : (instructionOf (dataItem p) (assigned_dataItem p)).data = some p :=
    if_pos (dataItem_code_le p)
  have hop : (instructionOf (dataItem p) (assigned_dataItem p)).opcode = .opPushBytes32 ↔
      p.length = 32 := by
    rw [← dataItem_code_eq, instructionOf, Opcode.opPushBytes32, Opcode.mk.injEq]
  rw [readItem, dif_pos (assigned_dataItem p), secretInInstruction, hdt, bind_some]
  by_cases hlen : p.length = 32
  · rw [if_neg (not_not.mpr (hop.mpr hlen))]
  · rw [if_pos (mt hop.mp hlen), if_neg fun hbt => hlen hbt.1]

theorem findSome?_dataItem (ps : List Bytes) :
    ((ps.map dataItem).map readItem).findSome? (secretInInstruction h hash) =
      ps.find? fun p => p.length = 32 ∧ (h.dhash160 p).toList = hash := by
  induction ps with
  | nil => rfl
  | cons p ps ih =>
    rw [List.map_cons, List.map_cons, List.findSome?_cons, secretInInstruction_dataItem,
      List.find?_cons, ih]
    by_cases hp : p.length = 32 ∧ (h.dhash160 p).toList = hash
    · simp [hp]
    · simp [hp]

/-- The secret is found, unless an earlier push of 32 bytes has its hash. -/
theorem extractSecretV2_eq_ok {tx : Transaction} {input : Chain.TransactionInput}
    (hinp : tx.inputs.head? = some input) {ps : List Bytes}
    (hps : ∀ p ∈ ps, p.length ≤ 0xffffffff) {rest hash : Bytes}
    (hsig : input.scriptSig = (ps.map dataItem ++
      [Item.mk 0x20 secret.toList]).flatMap Item.encode ++ rest)
    (hhs : (h.dhash160 secret.toList).toList = hash) :
    extractSecretV2 h hash tx = .ok ((ps.find? fun p =>
      p.length = 32 ∧ (h.dhash160 p).toList = hash).getD secret.toList) := by
  rw [← dataItem_secret] at hsig
  have hit : ps.map dataItem ++ [dataItem secret.toList] =
      (ps ++ [secret.toList]).map dataItem := by
    rw [List.map_append, List.map_singleton]
  rw [hit] at hsig
  have hall : ∀ p ∈ ps ++ [secret.toList], p.length ≤ 0xffffffff := by
    intro p hp
    rcases List.mem_append.mp hp with hp | hp
    · exact hps p hp
    · rw [List.mem_singleton.mp hp]
      exact length_h256_le secret
  obtain ⟨tail, -, htl⟩ := @iter_items rest ((ps ++ [secret.toList]).map dataItem)
    (by
      intro i hi
      obtain ⟨p, hp, rfl⟩ := List.mem_map.mp hi
      exact dataItem_fits (hall p hp))
    (by
      intro i hi
      obtain ⟨p, -, rfl⟩ := List.mem_map.mp hi
      exact assigned_dataItem p)
  have hl : [secret.toList].find? (fun p =>
      decide (p.length = 32 ∧ (h.dhash160 p).toList = hash)) = some secret.toList := by
    rw [List.find?_cons_of_pos]
    simp [hhs]
  have hfnd : (iter input.scriptSig).findSome? (secretInInstruction h hash) =
      some ((ps.find? fun p => p.length = 32 ∧ (h.dhash160 p).toList = hash).getD
        secret.toList) := by
    rw [hsig, htl, List.findSome?_append, findSome?_dataItem, List.find?_append, hl]
    cases ps.find? fun p => decide (p.length = 32 ∧ (h.dhash160 p).toList = hash) <;> rfl
  simp only [extractSecretV2, hinp, hfnd]

theorem length_of_secretInInstruction {hash secret : Bytes} {r : Except Error Instruction}
    (hr : secretInInstruction h hash r = some secret) : hash.length = 20 := by
  unfold secretInInstruction at hr
  split at hr
  · cases hr
  · split_ifs at hr
    obtain ⟨push, -, hpu⟩ := bind_eq_some_iff.mp hr
    rw [ite_none_right_eq_some] at hpu
    rw [← hpu.1.2, Vector.length_toList]

/-- A hash of another length than the one that is compared with is never found. -/
theorem extractSecretV2_ne_ok {tx : Transaction} {hash secret : Bytes}
    (hlen : hash.length ≠ 20) : extractSecretV2 h hash tx ≠ .ok secret := by
  unfold extractSecretV2
  split
  · simp
  · split
    next input hinp found hfnd =>
      obtain ⟨r, -, hr⟩ := List.exists_of_findSome?_eq_some hfnd
      exact absurd (length_of_secretInInstruction h hr) hlen
    next => simp

/-! ## Both together -/

variable {h}

/-- With good signatures the script is unlocked exactly if the two ways to hash agree. -/
theorem Spend.through_of_revealed {c : Context} (hs : s.revealed x = some (secret, hash))
    (hsigs : sigs.Short) (hc : ∀ b, c.hash160 b = (h.dhash160 b).toList)
    (hgood : ∀ p ∈ (s.requirement h x sigs).signatures, c.checkSig p.1 p.2.bytes = true) :
    s.Through h clock x sigs c ↔ h.ripemd160 hash = h.dhash160 secret.toList := by
  obtain ⟨hne, hun, hsec⟩ : s ≠ takerFundingTimelock ∧ s.timeLocked = false ∧
      (s.requirement h x sigs).secret = some (secret, h160Of h hash) := by
    cases s with
    | makerPaymentSecret | makerPaymentSpend | takerFundingSecret | takerPaymentCooperative =>
      obtain ⟨rfl, rfl⟩ := Prod.mk.inj (some.inj hs)
      exact ⟨by decide, rfl, rfl⟩
    | _ => exact absurd hs (by simp [revealed])
  have hlc : (s.requirement h x sigs).lock = none := by rw [requirement_lock, hun]; rfl
  rw [through_iff_accepts h hsigs, accepts_iff h x sigs hne fun ht => absurd ht
    (by simp [hun]),
    Requirement.Met, hsec, hlc]
  simp only [Option.mem_def, some.injEq, forall_eq', hc, h160Of, reduceCtorEq,
    IsEmpty.forall_iff, implies_true, and_true, true_and]
  rw [and_iff_right hgood, Vector.toList_inj, eq_comm]

theorem Spend.length_signaturePushes (hsigs : sigs.Short) {p : Bytes}
    (hp : p ∈ s.signaturePushes sigs) : p.length ≤ 0xffffffff := by
  have hln {signature : Bytes} (byte : UInt8) (hsh : signature.length ≤ 72) :
      (signature ++ [byte]).length ≤ 0xffffffff :=
    Nat.le_trans (length_signed byte hsh) (by decide)
  cases s with
  | makerPaymentSecret =>
    rw [List.mem_singleton.mp hp]
    exact hln _ hsigs.1
  | makerPaymentSpend | takerFundingSecret =>
    rw [List.mem_singleton.mp hp]
    exact hln _ hsigs.2
  | takerPaymentCooperative =>
    rcases List.mem_cons.mp hp with rfl | hp
    · exact hln _ hsigs.1
    · rw [List.mem_singleton.mp hp]
      exact hln _ hsigs.2
  | _ => exact absurd hp (by simp [signaturePushes])

/-- A hash lock of the second protocol can be opened with the secret, and the secret is found again,
exactly if the secret is hashed with `DHASH160` and hashing that hash once more changes nothing (and
no signature that is as long as the secret is mistaken for it). -/
theorem hashLock_works_iff {x : Terms} {algo : SecretHashAlgo}
    (hmaker : x.makerSecretHash = algo.hashSecret h x.makerSecret.toList)
    (htaker : x.takerSecretHash = algo.hashSecret h x.takerSecret.toList) {sigs : Signatures}
    {c : Context} {s : Spend} {secret : H256} {hash : Bytes}
    (hs : s.revealed x = some (secret, hash)) (hsigs : sigs.Short)
    (hc : ∀ b, c.hash160 b = (h.dhash160 b).toList)
    (hgood : ∀ p ∈ (s.requirement h x sigs).signatures, c.checkSig p.1 p.2.bytes = true) :
    (s.Through h clock x sigs c ∧ ∀ a tx input, s.assemble h clock x sigs = some a →
      tx.inputs.head? = some input → input.scriptSig = a.scriptSig →
        extractSecretV2 h hash tx = .ok secret.toList) ↔
    algo = .dhash160 ∧
      h.ripemd160 (h.dhash160 secret.toList).toList = h.dhash160 secret.toList ∧
      ∀ p, ((s.signaturePushes sigs).find? fun p => p.length = 32 ∧
        h.dhash160 p = h.dhash160 secret.toList) = some p → p = secret.toList := by
  have hhs : hash = algo.hashSecret h secret.toList := by
    cases s with
    | makerPaymentSecret | makerPaymentSpend | takerFundingSecret | takerPaymentCooperative =>
      obtain ⟨rfl, rfl⟩ := Prod.mk.inj (some.inj hs)
      assumption
    | _ => exact absurd hs (by simp [revealed])
  obtain ⟨a, ha⟩ := @assembles h clock x sigs hsigs s
  subst hhs
  cases algo with
  | sha256 =>
    -- a hash of 32 bytes is not one that the search for the secret accepts
    refine iff_of_false ?_ (by simp)
    rintro ⟨-, hextract⟩
    have hok := hextract a (oneInputTx a.scriptSig) _ ha.assembled rfl rfl
    refine extractSecretV2_ne_ok h ?_ hok
    rw [SecretHashAlgo.hashSecret, Vector.length_toList]
    decide
  | dhash160 =>
    have hfnd {tx : Transaction} {input : Chain.TransactionInput}
        (hinp : tx.inputs.head? = some input) (hsig : input.scriptSig = a.scriptSig) :
        extractSecretV2 h (h.dhash160 secret.toList).toList tx =
          .ok (((s.signaturePushes sigs).find? fun p => p.length = 32 ∧
            h.dhash160 p = h.dhash160 secret.toList).getD secret.toList) := by
      obtain ⟨rest, hre⟩ := scriptSig_of_revealed h hsigs hs ha.assembled
      have hok := extractSecretV2_eq_ok h hinp
        (fun p hp => length_signaturePushes hsigs hp) (hsig.trans hre) rfl
      simpa only [Vector.toList_inj] using hok
    rw [SecretHashAlgo.hashSecret, through_of_revealed hs hsigs hc hgood]
    simp only [true_and]
    -- the first push of 32 bytes with the right hash is found, signatures included
    refine and_congr_right fun _ => ⟨fun hextract p hp => ?_, fun hn b tx input hb hinp hsig => ?_⟩
    · have hok := hextract a (oneInputTx a.scriptSig) _ ha.assembled rfl rfl
      rw [hfnd rfl rfl, hp, getD_some] at hok
      exact Except.ok.inj hok
    · obtain rfl : a = b := some.inj (ha.assembled.symm.trans hb)
      rw [hfnd hinp hsig]
      cases hp : (s.signaturePushes sigs).find? fun p => decide (p.length = 32 ∧
          h.dhash160 p = h.dhash160 secret.toList) with
      | none => rfl
      | some p => rw [hn p hp, getD_some]

/-- Terms whose hashes are computed by the state machines. -/
def hashedTerms (h : Hashes) (algo : SecretHashAlgo) : Terms :=
  { plainTerms with
    makerSecretHash := algo.hashSecret h plainTerms.makerSecret.toList
    takerSecretHash := algo.hashSecret h plainTerms.takerSecret.toList }

/-- A context in which every signature is good. -/
def goodContext (h : Hashes) : Context := ⟨fun b => (h.dhash160 b).toList, fun _ _ => true, 0, 0⟩

/-- If hashing twice is hashing once, the taker's spend goes through and the secret is found. -/
theorem hashLock_works_plain :
    makerPaymentSpend.Through plainHashes plainClock (hashedTerms plainHashes .dhash160)
      plainSignatures (goodContext plainHashes) :=
  ((hashLock_works_iff (h := plainHashes) (x := hashedTerms plainHashes .dhash160) rfl rfl
    (s := .makerPaymentSpend) rfl ⟨by decide, by decide⟩ (fun _ => rfl) (fun _ _ => rfl)).mpr
      ⟨rfl, rfl, fun _ hp => absurd hp (by simp [signaturePushes, plainSignatures])⟩).1

/-- RIPEMD-160 of 20 bytes is not that of 32 bytes. -/
def skewHashes : Hashes :=
  ⟨fun _ => .replicate 32 0, fun b => if b.length = 32 then .replicate 20 1 else .replicate 20 2⟩

/-- With `DHASH160` the taker cannot spend the maker's payment with the secret; with `SHA256` the
secret is found in no transaction. -/
theorem hashLock_fails :
    ¬makerPaymentSpend.Through skewHashes plainClock (hashedTerms skewHashes .dhash160)
      plainSignatures (goodContext skewHashes) ∧
    ∀ tx secret, extractSecretV2 skewHashes
      (SecretHashAlgo.sha256.hashSecret skewHashes plainTerms.makerSecret.toList) tx ≠
        .ok secret := by
  refine ⟨?_, fun tx secret => extractSecretV2_ne_ok skewHashes (by decide)⟩
  rw [through_of_revealed (x := hashedTerms skewHashes .dhash160) rfl
    ⟨by decide, by decide⟩ (fun _ => rfl) fun _ _ => rfl]
  decide

end CheetahDex.Utxo
