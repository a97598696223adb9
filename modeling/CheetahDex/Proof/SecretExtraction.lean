import CheetahDex.Proof.ScriptSpends
import CheetahDex.Proof.TransactionRoundTrip

/-!
# Finding the revealed secret

Whoever spends a payment by its hash lock must push the secret, but consensus leaves open how it is
pushed and what else lies below it. The extraction looks at one place and for one opcode, and so
does the search that tells a claim from a refund.
-/

namespace CheetahDex.Utxo

open Chain (Bytes H256 Transaction)
open Script Lib Lib.BitcoinScript List Option Builder

variable (h : Hashes) {timeLock : UInt32} {secretHash : Bytes} {pub0 pub1 : Public}

/-! ## One input -/

/-- The first instruction of the input is followed by a direct push of 32 bytes that have the
hash. -/
def RevealsSecond (secretHash scriptSig secret : Bytes) : Prop :=
  ∃ first rest, Item.Fits first ∧ Assigned first.code ∧
    scriptSig = first.encode ++ (0x20 :: (secret ++ rest)) ∧ secret.length = 32 ∧
      (h.dhash160 secret).toList = secretHash

theorem fits_push32 {secret : Bytes} : Item.Fits ⟨0x20, secret⟩ ↔ secret.length = 32 := by
  rw [Item.Fits, if_pos (show (0x20 : UInt8) < 0x4c by decide)]
  rfl

theorem assigned_push32 : Assigned 0x20 := by decide

theorem secretInInput_eq_some {scriptSig secret : Bytes} :
    secretInInput h secretHash scriptSig = some secret ↔
      RevealsSecond h secretHash scriptSig secret := by
  have hget : secretInInput h secretHash scriptSig = some secret ↔ ∃ instr,
      getInstruction scriptSig 1 = some (.ok instr) ∧ instr.opcode = .opPushBytes32 ∧
        instr.data = some secret ∧ (h.dhash160 secret).toList = secretHash := by
    unfold secretInInput
    split
    next instr hin =>
      simp only [hin, some.injEq, Except.ok.injEq, exists_eq_left', ne_eq, ite_not,
        Option.ite_none_right_eq_some, Option.bind_eq_some_iff]
      refine and_congr_right fun _ => ?_
      constructor
      · rintro ⟨_, hdt, hhs, rfl⟩
        exact ⟨hdt, hhs⟩
      · rintro ⟨hdt, hhs⟩
        exact ⟨secret, hdt, hhs, rfl⟩
    next hoth =>
      simp only [reduceCtorEq, false_iff, not_exists, not_and]
      intro instr hin
      exact absurd hin (hoth instr)
  rw [hget]
  constructor
  · rintro ⟨instr, hin, hop, hdt, hhs⟩
    obtain ⟨is, ⟨code, data⟩, rest, _, hone, his, hft', rfl, rfl⟩ := getInstruction_eq_ok.mp hin
    obtain ⟨first, rfl⟩ := length_eq_one_iff.mp hone
    obtain ⟨hft, hfst⟩ := his first mem_cons_self
    obtain rfl : code = 0x20 := congrArg Opcode.byte hop
    obtain rfl : data = secret := some.inj hdt
    exact ⟨first, rest, hft, hfst, by rw [flatMap_singleton]; rfl, fits_push32.mp hft', hhs⟩
  · rintro ⟨first, rest, hft, hfst, rfl, hlen, hhs⟩
    exact ⟨instructionOf ⟨0x20, secret⟩ assigned_push32, getInstruction_eq_ok.mpr
      ⟨[first], _, rest, assigned_push32, rfl, by simp [hft, hfst], fits_push32.mpr hlen,
        by rw [flatMap_singleton]; rfl, rfl⟩, rfl, rfl, hhs⟩

/-- So many instructions can be read, and then comes the opcode. -/
def OpcodeAt (scriptSig : Bytes) (n : ℕ) (op : Opcode) : Prop :=
  ∃ (is : List Item) (rest : Bytes), is.length = n ∧ (∀ i ∈ is, i.Fits ∧ Assigned i.code) ∧
    scriptSig = is.flatMap Item.encode ++ op.byte :: rest

theorem hasOpcode_iff {scriptSig : Bytes} {n : ℕ} {op : Opcode} {t : Token}
    (hop : Builder.Means op t) : hasOpcode scriptSig n op = true ↔ OpcodeAt scriptSig n op := by
  have hget : hasOpcode scriptSig n op = true ↔
      ∃ instr, getInstruction scriptSig n = some (.ok instr) ∧ instr.opcode = op := by
    unfold hasOpcode
    split
    next instr hin => simp [hin]
    next hoth => simpa using fun instr hin => absurd hin (hoth instr)
  rw [hget]
  constructor
  · rintro ⟨instr, hin, rfl⟩
    obtain ⟨is, i, rest, _, hlen, his, -, rfl, rfl⟩ := getInstruction_eq_ok.mp hin
    exact ⟨is, _, hlen, his, rfl⟩
  · rintro ⟨is, rest, hlen, his, rfl⟩
    refine ⟨instructionOf ⟨op.byte, []⟩ op.assigned, getInstruction_eq_ok.mpr
      ⟨is, _, rest, op.assigned, hlen, his, hop.2.1, ?_, rfl⟩, rfl⟩
    rw [Item.encode, hop.1]
    rfl

/-! ## What the wallet writes -/

/-- The wallet's own input: a claim with a secret, or a refund. -/
def walletInput (timeLock : UInt32) (secretHash : Bytes) (pub0 pub1 : Public) :
    Option H256 → Option HtlcInput
  | some secret => spendsPayment h timeLock pub0 pub1 secret.toList
  | none => refundsPayment (paymentScript timeLock secretHash pub0 pub1) timeLock

/-- The items that stand between the signature and the script. -/
def walletItems : Option H256 → List Item
  | some secret => [⟨0x20, secret.toList⟩, ⟨0, []⟩]
  | none => [⟨0x51, []⟩]

section wallet

variable {redeem : Bytes} {clock : ChainClock} {forkId : UInt32} {signature : Bytes}
  {secret : Option H256} {a : Assembled}

theorem spells_of_paymentScript
    (hsc : paymentScript timeLock secretHash pub0 pub1 = some redeem) :
    (redeem.length ≤ 0xffffffff ∧ redeem ≠ []) ∧
      IsRedeem (some redeem) (paymentTree timeLock secretHash pub0 pub1) := by
  have hhs : 1 ≤ secretHash.length ∧ secretHash.length ≤ 75 := by
    by_contra hlen
    simp [paymentScript, pushBytes, pushOpcode, intoScript, hlen] at hsc
  have hrd := isRedeem_paymentScript timeLock pub0 pub1 hhs
  rw [hsc] at hrd
  refine ⟨?_, hrd⟩
  obtain ⟨_, ⟨⟩, hlen, is, his, -, htok⟩ := hrd
  refine ⟨Nat.le_trans hlen (by decide), ?_⟩
  rintro rfl
  cases his
  cases htok

variable {h} (hsc : paymentScript timeLock secretHash pub0 pub1 = some redeem)
  (hsig : signature.length ≤ 72)
  (ha : signed clock forkId signature (walletInput h timeLock secretHash pub0 pub1 secret) = some a)

include hsc hsig ha

/-- The signature comes first, and the script last. -/
theorem wallet_scriptSig : ∃ (first : Item) (hash : Bytes), (first.Fits ∧ Assigned first.code) ∧
    paymentScript timeLock hash pub0 pub1 = some a.redeem ∧ a.scriptSig =
      (first :: walletItems secret ++ [dataItem a.redeem]).flatMap Item.encode := by
  have hinp : ∃ i hash, walletInput h timeLock secretHash pub0 pub1 secret = some i ∧
      paymentScript timeLock hash pub0 pub1 = some i.redeemScript ∧
      i.scriptData = (walletItems secret).flatMap Item.encode := by
    cases secret with
    | some x =>
      obtain ⟨r, hr, -⟩ := isRedeem_paymentScript timeLock pub0 pub1
        (show _ ∧ (h.dhash160 x.toList).toList.length ≤ 75 by simp)
      have hdt : dataItem x.toList = ⟨0x20, x.toList⟩ := by simp [dataItem]
      refine ⟨⟨r, _, sequenceFinal, timeLock⟩, _, ?_, hr, rfl⟩
      simp only [walletInput, spendsPayment, hr, intoScript, pushOpcode,
        pushData_data (b := .default) (x := x.toList) (by simp), hdt]
      rfl
    | none => exact ⟨⟨redeem, _, _, _⟩, secretHash, by rw [walletInput, hsc]; rfl, hsc, rfl⟩
  obtain ⟨i, hash, hi, hr, hdt⟩ := hinp
  have hsg := Nat.le_trans (length_signed (1 ||| forkId.toUInt8) hsig)
    (show 520 ≤ 0xffffffff by decide)
  simp only [hi, signed, HtlcInput.p2shSpendWithSignature, intoScript,
    Option.bind_eq_bind, Option.bind_some, pushData_data hsg,
    pushData_data (spells_of_paymentScript hr).1.1] at ha
  cases ha
  refine ⟨_, hash, ⟨dataItem_fits hsg, assigned_dataItem _⟩, hr, ?_⟩
  simp [hdt]

/-- An input of the wallet that passes the script has claimed with the secret, or refunded. -/
theorem spends_of_wallet {c : Context} {branch : Bool}
    (hsps : Spends c a.scriptSig redeem [branch]) :
    branch = secret.isNone ∧ ∀ x ∈ secret, c.hash160 x.toList = secretHash := by
  obtain ⟨-, hrd⟩ := spells_of_paymentScript hsc
  obtain ⟨_, ⟨⟩, -, hsp⟩ := id hrd
  rw [← hsc] at hrd
  cases secret with
  | some x =>
    obtain ⟨a, ha', hps, -⟩ :=
      (isInput_spendsPayment h timeLock pub0 pub1 x).signed clock forkId hsig
    cases ha.symm.trans ha'
    obtain rfl := hsps.redeem_eq hps (by simp)
    obtain ⟨_, hb, hacc⟩ := accepts_branch_cons.mp ((spends_iff hps (by simp) hsp).mp hsps)
    cases hb
    obtain ⟨_, _, hx, -, -, hhs, -⟩ := Tree.accepts_lockedBy.mp hacc
    cases hx
    exact ⟨rfl, by simpa using hhs⟩
  | none =>
    obtain ⟨a, ha', hps, -⟩ :=
      (IsRedeem.isInput_refundsPayment timeLock hrd).signed clock forkId hsig
    cases ha.symm.trans ha'
    obtain rfl := hsps.redeem_eq hps (by simp)
    obtain ⟨_, hb, -⟩ := accepts_branch_cons.mp ((spends_iff hps (by simp) hsp).mp hsps)
    cases hb
    exact ⟨rfl, by simp⟩

/-- A claim of the wallet and a refund differ in the opcode after the pushes. -/
theorem wallet_opcodes : (OpcodeAt a.scriptSig 2 .op0 ↔ secret ≠ none) ∧
    (secret = none → OpcodeAt a.scriptSig 1 .op1) := by
  obtain ⟨first, hash, hfst, hr, hwr⟩ := wallet_scriptSig hsc hsig ha
  cases secret with
  | some x =>
    have hpu : Item.Fits ⟨0x20, x.toList⟩ ∧ Assigned 0x20 := ⟨fits_push32.mpr (by simp), by decide⟩
    refine ⟨iff_of_true ⟨[first, ⟨0x20, x.toList⟩], (dataItem a.redeem).encode, rfl,
      by simp [hfst, hpu], ?_⟩ (by simp), by simp⟩
    rw [hwr]
    simp [walletItems, Item.encode, lengthBytes, leBytes, Opcode.op0]
  | none =>
    have hfg : Item.Fits ⟨0x51, []⟩ ∧ Assigned 0x51 := by decide
    refine ⟨?_, fun _ => ⟨[first], (dataItem a.redeem).encode, rfl, by simp [hfst], ?_⟩⟩
    · rw [← hasOpcode_iff means_op0]
      refine iff_of_false (fun hop => ?_) (by simp)
      obtain ⟨⟨hlen, hne⟩, -⟩ := spells_of_paymentScript hr
      have hget : getInstruction a.scriptSig 2 = some (.ok (instructionOf _
          (assigned_dataItem a.redeem))) :=
        getInstruction_eq_ok.mpr ⟨[first, ⟨0x51, []⟩], _, [], assigned_dataItem _, rfl,
          by simp [hfst, hfg], dataItem_fits hlen, by simp [hwr, walletItems], rfl⟩
      rw [hasOpcode, hget] at hop
      exact dataItem_code_ne_zero hne (congrArg Opcode.byte (of_decide_eq_true hop))
    · rw [hwr]
      simp [walletItems, Item.encode, lengthBytes, leBytes, Opcode.op1]

end wallet

/-! ## A transaction -/

/-- The extraction succeeds if the bytes are read and one of the inputs shows the secret. -/
theorem extractSecret_eq_ok {raw : Bytes} :
    (∃ secret, extractSecret h secretHash raw = .ok secret ∧
      (h.dhash160 secret).toList = secretHash) ↔
    ∃ seen left, (Chain.deserialize Transaction.deserialize raw).outcome = .ok seen left ∧
      ∃ input ∈ seen.inputs, ∃ secret, RevealsSecond h secretHash input.scriptSig secret := by
  unfold extractSecret
  split
  next tx left hot =>
    have hsn : (∃ seen left', (Chain.deserialize Transaction.deserialize raw).outcome =
        .ok seen left' ∧ ∃ input ∈ seen.inputs, ∃ secret,
          RevealsSecond h secretHash input.scriptSig secret) ↔
        ∃ input ∈ tx.inputs, ∃ secret, RevealsSecond h secretHash input.scriptSig secret := by
      rw [hot]
      constructor
      · rintro ⟨_, _, he, hrev⟩
        cases he
        exact hrev
      · exact fun hrev => ⟨tx, left, rfl, hrev⟩
    rw [hsn]
    cases hfn : tx.inputs.findSome? fun input => secretInInput h secretHash input.scriptSig with
    | none =>
      simp only [reduceCtorEq, false_and, exists_false, false_iff]
      rintro ⟨input, hinp, secret, hrev⟩
      have hno := findSome?_eq_none_iff.mp hfn input hinp
      rw [(secretInInput_eq_some h).mpr hrev] at hno
      cases hno
    | some secret =>
      obtain ⟨input, hinp, hs⟩ := exists_of_findSome?_eq_some hfn
      have hrev := (secretInInput_eq_some h).mp hs
      simp only [Except.ok.injEq, exists_eq_left']
      obtain ⟨_, _, _, _, _, _, hhs⟩ := id hrev
      exact iff_of_true hhs ⟨input, hinp, secret, hrev⟩
  next hoth =>
    simp only [reduceCtorEq, false_and, exists_false, false_iff]
    rintro ⟨seen, left, hot, _⟩
    exact hoth seen left hot

/-- A transaction that spends a payment by its hash lock: one of its inputs passes the script with
the second branch chosen, whatever else it pushes and however. -/
structure HashLockSpend (timeLock : UInt32) (secretHash : Bytes) (pub0 pub1 : Public) where
  tx : Transaction
  input : Chain.TransactionInput
  mem : input ∈ tx.inputs
  context : Context
  hash : ∀ x, context.hash160 x = (h.dhash160 x).toList
  redeem : Bytes
  script : paymentScript timeLock secretHash pub0 pub1 = some redeem
  spends : Spends context input.scriptSig redeem [false]

/-- The secret is found exactly if the bytes of the transaction are read back and the scriptSig of
some input of it is one instruction and then a direct push of the secret. It is so if the wallet has
made the input. -/
theorem secret_extracted_iff
    (spend : HashLockSpend h timeLock secretHash pub0 pub1) :
    ((∃ secret, extractSecret h secretHash (spend.tx.serializeWith true) = .ok secret ∧
      (h.dhash160 secret).toList = secretHash) ↔
    ∃ seen left, (Chain.deserialize Transaction.deserialize
        (spend.tx.serializeWith true)).outcome = .ok seen left ∧
      ∃ input ∈ seen.inputs, ∃ secret, RevealsSecond h secretHash input.scriptSig secret) ∧
    ∀ clock forkId signature secret a, signature.length ≤ 72 →
      signed clock forkId signature (walletInput h timeLock secretHash pub0 pub1 (some secret)) =
        some a → spend.input.scriptSig = a.scriptSig →
      spend.tx.Supported → spend.tx.Recoverable →
      ∃ secret, extractSecret h secretHash (spend.tx.serializeWith true) = .ok secret ∧
        (h.dhash160 secret).toList = secretHash := by
  refine ⟨extractSecret_eq_ok h, fun clock forkId signature secret a hsig ha heq hsup hrec => ?_⟩
  obtain ⟨first, _, ⟨hft, hfst⟩, -, hwr⟩ := wallet_scriptSig spend.script hsig ha
  obtain ⟨-, hhs⟩ := spends_of_wallet spend.script hsig ha (heq ▸ spend.spends)
  refine (extractSecret_eq_ok h).mpr ⟨_, _,
    (Transaction.roundTrip_iff_recoverable hsup).mpr hrec, spend.input, spend.mem, secret.toList,
    first, 0 :: (dataItem a.redeem).encode, hft, hfst, ?_, by simp,
    (spend.hash _).symm.trans (hhs secret rfl)⟩
  rw [heq, hwr]
  simp [walletItems, Item.encode, lengthBytes, leBytes]

/-! ## Two ways to push the same secret -/

def plainSecret : Bytes := plainTerms.makerSecret.toList

def plainSecretHash : Bytes := (plainHashes.dhash160 plainSecret).toList

/-- The maker's payment. -/
def plainRedeem : Bytes :=
  (paymentScript 1700000000 plainSecretHash plainTerms.makerPub plainTerms.takerPub).getD []

/-- The flag that selects the branch, and the redeem script. -/
def plainChoice : Bytes := (default.pushOpcode .op0 |>.pushData plainRedeem).intoScript.getD []

/-- The taker's input: a signature, the secret after the bytes that push it, and the choice. -/
def plainScriptSig (lead : Bytes) : Bytes := [2, 49, 1] ++ (lead ++ plainSecret) ++ plainChoice

/-- The transaction of one input with the given scriptSig. -/
def oneInputTx (scriptSig : Bytes) : Transaction :=
  { Transaction.payment with inputs := [⟨⟨.replicate 32 7, 0⟩, scriptSig, 0xffffffff, []⟩] }

theorem paymentScript_plain : paymentScript 1700000000 plainSecretHash plainTerms.makerPub
    plainTerms.takerPub = some plainRedeem := rfl

theorem plainRedeem_isRedeem : IsRedeem (some plainRedeem)
    (paymentTree 1700000000 plainSecretHash plainTerms.makerPub plainTerms.takerPub) := by
  rw [← paymentScript_plain]
  exact isRedeem_paymentScript _ _ _ (by decide)

variable {lead : Bytes} {n : ℕ}

/-- However the secret is pushed, the input pushes the same bytes. -/
theorem plainScriptSig_writes
    (hld : Script.Writes (lead ++ plainSecret) [.op (.push plainSecret)] n) :
    Script.Writes (plainScriptSig lead)
      (Tree.pushing [[49, 1], plainSecret, [], plainRedeem]).flatten (n + 600) := by
  obtain ⟨_, hs, hlen, -⟩ := plainRedeem_isRedeem
  cases hs
  obtain ⟨flags, hfl, hws⟩ := Builder.Writes.default.pushOpcode means_op0 |>.pushData hlen
  have hall := (writes_direct (x := [49, 1]) (by decide)).append hld |>.append hws
  rw [plainScriptSig, plainChoice, intoScript, hfl, Option.getD_some]
  exact hall.mono (by simp only [length_cons, length_nil]; omega)

/-- The context of the taker's input: the signature is good. -/
def plainContext : Context := ⟨fun x => (plainHashes.dhash160 x).toList, fun _ _ => true, 0, 0⟩

theorem plainScriptSig_spends (hn : n ≤ 40)
    (hld : Script.Writes (lead ++ plainSecret) [.op (.push plainSecret)] n) :
    Spends plainContext (plainScriptSig lead) plainRedeem [false] := by
  obtain ⟨_, hs, -, hsps⟩ := plainRedeem_isRedeem
  cases hs
  have hps := (plainScriptSig_writes hld).pushes (by omega) (by decide +revert)
  refine (@spends_iff _ _ _ _ [[49, 1], plainSecret, []] _ hps (by decide) hsps).mpr ?_
  refine accepts_branch_cons.mpr ⟨[], rfl, Tree.accepts_lockedBy.mpr ⟨_, _, rfl, ?_⟩⟩
  exact ⟨by decide, rfl, rfl, Tree.accepts_signedBy.mpr ⟨_, _, rfl, by decide, rfl, rfl⟩⟩

/-- The taker's spend of the maker's payment. -/
def plainSpend (hn : n ≤ 40)
    (hld : Script.Writes (lead ++ plainSecret) [.op (.push plainSecret)] n) :
    HashLockSpend plainHashes 1700000000 plainSecretHash plainTerms.makerPub
      plainTerms.takerPub where
  tx := oneInputTx (plainScriptSig lead)
  input := ⟨⟨.replicate 32 7, 0⟩, plainScriptSig lead, 0xffffffff, []⟩
  mem := mem_singleton_self _
  context := plainContext
  hash _ := rfl
  redeem := plainRedeem
  script := paymentScript_plain
  spends := plainScriptSig_spends hn hld

theorem writes_push32 : Script.Writes ([0x20] ++ plainSecret) [.op (.push plainSecret)] 33 :=
  writes_direct (x := plainSecret) (by decide)

theorem writes_pushData1 : Script.Writes ([0x4c, 32] ++ plainSecret) [.op (.push plainSecret)] 34 :=
  .of_item (i := ⟨0x4c, plainSecret⟩) (by decide) (by decide) rfl

/-- Pushed directly, as the wallet does it, the secret is found. -/
theorem direct_secret_extracted :
    ∃ secret, extractSecret plainHashes plainSecretHash
      ((plainSpend (by decide) writes_push32).tx.serializeWith true) = .ok secret ∧
        (plainHashes.dhash160 secret).toList = plainSecretHash := by
  have hre : (Chain.deserialize Transaction.deserialize
      ((oneInputTx (plainScriptSig [0x20])).serializeWith true)).outcome =
        .ok (oneInputTx (plainScriptSig [0x20])).withDsha256 [] := by decide +kernel
  exact (secret_extracted_iff plainHashes (plainSpend (by decide) writes_push32)).1.mpr
    ⟨_, _, hre, _, mem_singleton_self _, plainSecret, ⟨2, [49, 1]⟩, plainChoice, by decide,
      by decide, by decide +kernel, by decide, rfl⟩

set_option maxRecDepth 8000 in
/-- Pushed with its length in a byte of its own, which consensus allows, the secret is not
found. -/
theorem lengthy_secret_lost :
    Spends plainContext (plainScriptSig [0x4c, 32]) plainRedeem [false] ∧
    ¬∃ secret, extractSecret plainHashes plainSecretHash
      ((plainSpend (by decide) writes_pushData1).tx.serializeWith true) = .ok secret ∧
        (plainHashes.dhash160 secret).toList = plainSecretHash := by
  refine ⟨plainScriptSig_spends (by decide) writes_pushData1, ?_⟩
  rintro ⟨secret, hfnd, -⟩
  cases hfnd

/-! ## Claims and refunds -/

/-- A payment, and a transaction of which an input passes its script with one of the branches. -/
structure PaymentSpend (timeLock : UInt32) (secretHash : Bytes) (pub0 pub1 : Public)
    (branch : Bool) where
  raw : Bytes
  payment : Transaction
  rest : Bytes
  read : (Chain.deserialize Transaction.deserialize raw).outcome = .ok payment rest
  output : Chain.TransactionOutput
  outputs : payment.outputs[0]? = some output
  redeem : Bytes
  script : paymentScript timeLock secretHash pub0 pub1 = some redeem
  pays : buildP2sh (h.dhash160 redeem).toList = some output.scriptPubkey
  tx : Transaction
  input : Chain.TransactionInput
  mem : input ∈ tx.inputs
  context : Context
  hash : ∀ x, context.hash160 x = (h.dhash160 x).toList
  spends : Spends context input.scriptSig redeem [branch]

/-- What should be found: the first branch is that of the time lock. -/
def FoundSwapTxSpend.of (branch : Bool) (tx : Transaction) : FoundSwapTxSpend :=
  if branch then .refunded tx else .spent tx

variable {h} in
/-- The search says which branch was taken exactly if the first input of the transaction, which may
be another one, has the flag of the branch as an opcode at the place where the wallet puts it. -/
theorem found_iff {branch : Bool} (spend : PaymentSpend h timeLock secretHash pub0 pub1 branch)
    (algo : Chain.TxHashAlgo) :
    let Found := searchForSwapOutputSpend h algo timeLock pub0 pub1 secretHash spend.raw 0
      (.ok spend.tx) = .ok (some (.of branch { spend.tx with txHashAlgo := algo }))
    (Found ↔ ∃ first, spend.tx.inputs[0]? = some first ∧
      (OpcodeAt first.scriptSig 2 .op0 ↔ branch = false) ∧
      (branch = true → OpcodeAt first.scriptSig 1 .op1)) ∧
    ∀ clock forkId signature secret a, spend.tx.inputs[0]? = some spend.input →
      signature.length ≤ 72 → signed clock forkId signature
        (walletInput h timeLock secretHash pub0 pub1 secret) = some a →
      spend.input.scriptSig = a.scriptSig → Found := by
  intro Found
  obtain ⟨first, hfst⟩ : ∃ first, spend.tx.inputs[0]? = some first :=
    Option.isSome_iff_exists.mp (by simpa using length_pos_of_mem spend.mem)
  have hsr : searchForSwapOutputSpend h algo timeLock pub0 pub1 secretHash spend.raw 0
      (.ok spend.tx) = if hasOpcode first.scriptSig 2 .op0 then
        .ok (some (.spent { spend.tx with txHashAlgo := algo }))
      else if hasOpcode first.scriptSig 1 .op1 then
        .ok (some (.refunded { spend.tx with txHashAlgo := algo }))
      else .error .noInstruction := by
    have hnm : (Except.ok (some spend.tx) : Except String _).mapError SearchError.rpc =
      .ok (some spend.tx) := rfl
    simp only [searchForSwapOutputSpend, spend.read, spend.script, spend.outputs, hnm, orError,
      bind, Except.bind]
    simp only [spend.pays, check, ne_eq, not_true_eq_false, if_false, hfst]
    rfl
  have hiff : Found ↔ ∃ first, spend.tx.inputs[0]? = some first ∧
      (OpcodeAt first.scriptSig 2 .op0 ↔ branch = false) ∧
      (branch = true → OpcodeAt first.scriptSig 1 .op1) := by
    simp only [Found, hsr, hfst, some.injEq, exists_eq_left',
      ← hasOpcode_iff means_op0, ← hasOpcode_iff means_op1]
    -- the hash lock is tested first, so where both opcodes stand it is reported
    cases branch <;> cases hasOpcode first.scriptSig 2 .op0 <;>
      cases hasOpcode first.scriptSig 1 .op1 <;> simp [FoundSwapTxSpend.of]
  refine ⟨hiff, fun clock forkId signature secret a hinp hsig ha heq => hiff.mpr ?_⟩
  obtain ⟨hbr, -⟩ := spends_of_wallet spend.script hsig ha (heq ▸ spend.spends)
  obtain ⟨hcl, hrf⟩ := wallet_opcodes spend.script hsig ha
  rw [← heq] at hcl hrf
  refine ⟨spend.input, hinp, ?_, ?_⟩
  · rw [hcl, hbr]
    cases secret <;> simp
  · exact fun hno => hrf (by simpa [hbr] using hno)

/-- A payment to the hash of the script. -/
def paidPlain : Transaction :=
  { Transaction.payment with outputs := [⟨1000, 0xa9 :: 20 :: (List.replicate 20 0 ++ [0x87])⟩] }

/-- A claim that has another input before the one that claims. -/
def secondInputClaim : PaymentSpend plainHashes 1700000000 plainSecretHash plainTerms.makerPub
    plainTerms.takerPub false where
  raw := paidPlain.serializeWith true
  payment := paidPlain
  rest := []
  read := by decide +kernel
  output := ⟨1000, 0xa9 :: 20 :: (List.replicate 20 0 ++ [0x87])⟩
  outputs := rfl
  redeem := plainRedeem
  script := paymentScript_plain
  pays := rfl
  tx := { Transaction.payment with inputs := Transaction.payment.inputs ++
    (plainSpend (by decide) writes_push32).tx.inputs }
  input := (plainSpend (by decide) writes_push32).input
  mem := by simp [plainSpend, oneInputTx]
  context := plainContext
  hash _ := rfl
  spends := plainScriptSig_spends (by decide) writes_push32

theorem secondInputClaim_not_found :
    searchForSwapOutputSpend plainHashes .dsha256 1700000000 plainTerms.makerPub
        plainTerms.takerPub plainSecretHash secondInputClaim.raw 0 (.ok secondInputClaim.tx) =
      .error .noInstruction := by
  decide +kernel

end CheetahDex.Utxo
