import CheetahDex.Tendermint.Htlc

/-!
# What is accepted on a Tendermint chain

The chain keeps the coins of a contract sorted, refunds it when the blocks of its time lock are
over, and pays a claim against the SHA-256 of the secret. `validate_payment_for_denom` and
`validate_fee_for_denom` look at the first message only, and only at some of its fields.
-/

namespace CheetahDex.Tendermint

open Chain (Bytes)
open Swap (DexFee satFromBigDecimal)
open Ordermatch (MmNumber)
open Lib List Except CreateHtlcMsg Hex HtlcType

variable (c : Crates) (coin : TendermintCoin)

/-! ## Hash locks -/

variable {text : List Char} {expected : Coin} {feeTx : TxBody} {dexFee : DexFee}

theorem toUppercase_of_ascii (h : ∀ ch ∈ text, ch.toNat < 128) :
    toUppercase c text = text.map Char.toUpper := by
  have hsn : text.flatMap (fun ch => if ch.toNat < 128 then [ch.toUpper] else c.upperOther ch) =
      text.flatMap fun ch => [ch.toUpper] :=
    flatMap_congr fun ch hch => if_pos (h ch hch)
  exact hsn.trans (flatMap_pure_eq_map _ _)

/-- A hash lock that passes the comparison can be read exactly if it has ASCII characters only. -/
theorem decode_hashLock_iff {hash : Bytes}
    (h : toUppercase c text = toUppercase c (encode hash)) :
    decode text = some hash ↔ ∀ ch ∈ text, ch.toNat < 128 := by
  refine ⟨lt_of_decode, fun hascii => decode_of_upper ?_⟩
  rwa [toUppercase_of_ascii c hascii,
    toUppercase_of_ascii c (lt_of_decode (decode_encode hash))] at h

variable {htlc : CreateHtlcMsg} {proto : CreateHtlcProto} {m : AnyMessage}

theorem tryFrom_ok (h : tryFrom c proto = .ok htlc) : htlc.hashLock = proto.hashLock := by
  obtain ⟨_, -, _, -, _, -, h⟩ := of_bind₃_ok h
  cases h
  rfl

variable {c coin} {input : ValidatePaymentInput} {senderPubkey : Bytes} {denom : String}
  {decimals : ℕ}

/-- What `validate_payment_for_denom` establishes. -/
theorem validatePayment_ok
    (h : validatePaymentForDenom c coin input senderPubkey denom decimals = .ok ()) :
    ∃ proto htlc sat, createHtlcOf c coin input.paymentTx = .ok proto ∧
      tryFrom c proto = .ok htlc ∧
      toUppercase c htlc.hashLock.toList = toUppercase c (encode input.secretHash) ∧
      htlc.toAddress = coin.accountId ∧ satFromBigDecimal input.amount decimals = some sat := by
  obtain ⟨_, -, proto, hpr, _, hhs, h⟩ := of_bind₃_ok h
  obtain ⟨htlc, hhtlc, _, -, _, hrc, h⟩ := of_bind₃_ok h
  obtain ⟨sat, hsat, -⟩ := of_bind_ok h
  refine ⟨proto, htlc, sat, hpr, hhtlc, ?_, not_not.mp (not_of_check hrc), orError_ok_iff.mp hsat⟩
  rw [tryFrom_ok c hhtlc]
  exact not_not.mp (not_of_check hhs)

/-! ## Claims and searches -/

/-- Both claims, the search and the wait compute the id that the contract was created under, and the
hash lock is the SHA-256 of the secret. -/
def Found (c : Crates) (coin : TendermintCoin) (secret tx secretHash : Bytes)
    (htlc : CreateHtlcMsg) : Prop :=
  let id := calculateHtlcId c htlc.sender htlc.toAddress htlc.amount secretHash
  (sendMakerSpendsTakerPayment c coin tx secret).map ClaimHtlcMsg.id = .ok id ∧
    (sendTakerSpendsMakerPayment c coin tx secret).map ClaimHtlcMsg.id = .ok id ∧
    searchForSwapTxSpend c coin tx secretHash = .ok id ∧
    waitForTxSpend c coin tx = .ok id ∧
    decode htlc.hashLock.toList = some (c.hashes.sha256 secret).toList

/-- A claim hashes the secret with SHA-256, so that a contract is found and claimed exactly if that
was the hash it was created with. The hash of the first protocol is shorter. -/
theorem htlc_found_iff {htlc : CreateHtlcMsg} (secret : Bytes)
    (haccept : validatePaymentForDenom c coin input senderPubkey denom decimals = .ok ())
    (hhtlc : createHtlcOf c coin input.paymentTx >>= tryFrom c = .ok htlc)
    (hascii : ∀ ch ∈ htlc.hashLock.toList, ch.toNat < 128)
    (hsorted : htlc.amount.Pairwise fun a b => Coin.le a b) :
    (Found c coin secret input.paymentTx input.secretHash htlc ↔
      input.secretHash = (c.hashes.sha256 secret).toList) ∧
    (input.secretHash = (c.hashes.dhash160 secret).toList →
      ¬Found c coin secret input.paymentTx input.secretHash htlc) := by
  obtain ⟨proto, htlc', _, hpr, hfr, hhs, -, -⟩ := validatePayment_ok haccept
  obtain rfl : htlc' = htlc := by
    rw [hpr] at hhtlc
    exact ok.inj (hfr.symm.trans hhtlc)
  have hlc := (decode_hashLock_iff c hhs).mpr hascii
  have hlc' : decode proto.hashLock.toList = some input.secretHash := by rwa [← tryFrom_ok c hfr]
  have hiff : Found c coin secret input.paymentTx input.secretHash htlc' ↔
      input.secretHash = (c.hashes.sha256 secret).toList := by
    refine ⟨fun h => Option.some.inj (hlc.symm.trans h.2.2.2.2), fun hsha => ?_⟩
    have hsp : spendHtlc c coin input.paymentTx secret (c.hashes.sha256 secret).toList =
        .ok ⟨calculateHtlcId c htlc'.sender htlc'.toAddress htlc'.amount input.secretHash,
          coin.accountId, String.ofList (encode secret)⟩ := by
      rw [spendHtlc, hpr, ← hsha]
      refine ok_bind_ok rfl (ok_bind_ok hfr ?_)
      rw [mergeSort_of_pairwise hsorted]
      rfl
    refine ⟨congrArg (Except.map ClaimHtlcMsg.id) hsp,
      congrArg (Except.map ClaimHtlcMsg.id) hsp, ?_, ?_, hsha ▸ hlc⟩
    · exact ok_bind_ok hpr (ok_bind_ok hfr rfl)
    · refine ok_bind_ok hpr (ok_bind_ok hfr ?_)
      rw [hlc']
      rfl
  refine ⟨hiff, fun hdh hfnd => ?_⟩
  have hlen := congrArg List.length (hdh.symm.trans (hiff.mp hfnd))
  simp at hlen

/-! A chain with simple hashes, and a payment on it. -/

def sampleProto (coins : List CoinProto) (hash : Bytes) (timeLock : UInt64) : CreateHtlcProto :=
  ⟨"maker", "taker", coins, String.ofList (encode hash), 0, timeLock⟩

def sampleCrates (proto : CreateHtlcProto) : Crates where
  hashes.sha256 bytes := .replicate 32 (UInt8.ofNat bytes.length)
  hashes.ripemd160 bytes := .replicate 20 (bytes.headD 0)
  accountNew _ bytes := .ok ⟨if bytes.head? = some 1 then "taker" else "maker", 3⟩
  accountParse text := .ok ⟨text, 3⟩
  accountBytes account := account.bech32.toUTF8.toList
  coinTryFrom proto := .ok ⟨proto.denom, proto.amount.length⟩
  txFromBytes _ := .ok ⟨[⟨"/irismod.htlc.MsgCreateHTLC", []⟩], ""⟩
  createHtlcDecode _ _ := .ok proto
  msgSendDecode _ := .ok ⟨"maker", "maker", [⟨"uiris", toString 1⟩]⟩
  msgMultiSendDecode _ := .ok ⟨[⟨"maker", []⟩], [⟨"maker", []⟩]⟩
  uuidFromSlice _ := .ok "uuid"
  upperOther ch := [ch]
  digits := 18

def sampleCoin (account : String) : TendermintCoin := ⟨⟨account, 3⟩, "iaa", 5⟩

theorem forall_ascii {l : List Char} (h : l.all (·.toNat < 128) = true) :
    ∀ ch ∈ l, ch.toNat < 128 :=
  fun ch hch => of_decide_eq_true (List.all_eq_true.mp h ch hch)

def sampleSecret : Bytes := List.replicate 32 7

/-- What SHA-256 is of it here. -/
def sampleHash : Bytes := List.replicate 32 32

def sampleInput (hash : Bytes) : ValidatePaymentInput := ⟨[], 3600, hash, 1⟩

theorem sha256_payment_found :
    let proto := sampleProto [⟨"uiris", "1"⟩] sampleHash 720
    Found (sampleCrates proto) (sampleCoin "taker") sampleSecret [] sampleHash
      ⟨⟨"maker", 3⟩, ⟨"taker", 3⟩, [⟨"uiris", 1⟩], proto.hashLock, 0, 720⟩ := by
  intro proto
  have haccept : validatePaymentForDenom (sampleCrates proto) (sampleCoin "taker")
      (sampleInput sampleHash) [] "uiris" 0 = .ok () := by decide +kernel
  exact (htlc_found_iff sampleSecret haccept rfl (forall_ascii (by decide +kernel)) (by simp)).1.mpr
    (by decide +kernel)

/-- The payment of a maker of the first protocol is accepted, but the taker claims another id, with
a secret whose SHA-256 is not the hash lock. -/
theorem v1_payment_not_found :
    let hash := List.replicate 20 32
    let proto := sampleProto [⟨"uiris", "1"⟩] hash 720
    let crates := sampleCrates proto
    let created := sendHtlcForDenom crates (sampleCoin "maker") 3600 [1] hash 1 "uiris" 0
    hash = (crates.hashes.dhash160 sampleSecret).toList ∧
      created.map Prod.snd = tryFrom crates proto ∧
      validatePaymentForDenom crates (sampleCoin "taker") (sampleInput hash) [] "uiris" 0 = .ok () ∧
      (sendTakerSpendsMakerPayment crates (sampleCoin "taker") [] sampleSecret).map
        ClaimHtlcMsg.id ≠ created.map Prod.fst ∧
      decode proto.hashLock.toList ≠ some (crates.hashes.sha256 sampleSecret).toList := by
  decide +kernel

/-! ## The chain -/

def msgSendTypeUrl : String := "/cosmos.bank.v1beta1.MsgSend"

def msgMultiSendTypeUrl : String := "/cosmos.bank.v1beta1.MsgMultiSend"

/-- How the chain reads the number of a coin. -/
def readAmount (text : String) : ℕ := Nat.ofDigitChars 10 text.toList 0

/-- What a message pays to whom. -/
def credits (c : Crates) (m : AnyMessage) : List TransferProto :=
  if m.typeUrl = msgSendTypeUrl then
    ((c.msgSendDecode m.value).toOption.map fun msg => [⟨msg.toAddress, msg.amount⟩]).getD []
  else if m.typeUrl = msgMultiSendTypeUrl then
    ((c.msgMultiSendDecode m.value).toOption.map MsgMultiSendProto.outputs).getD []
  else []

/-- What the coins are worth in one denomination. -/
def coinTotal (denom : String) (coins : List CoinProto) : ℕ :=
  (coins.map fun coin => if coin.denom = denom then readAmount coin.amount else 0).sum

/-- What a message pays to an address. -/
def paidBy (c : Crates) (m : AnyMessage) (address denom : String) : ℕ :=
  ((credits c m).map fun transfer =>
    if transfer.address = address then coinTotal denom transfer.coins else 0).sum

variable {now : ℕ}

/-- What the messages pay to an address. -/
def paid (c : Crates) (messages : List AnyMessage) (address denom : String) :
    ℕ :=
  (messages.map (paidBy c · address denom)).sum

variable {expectedSender feeAddr uuid : Bytes}

end CheetahDex.Tendermint
