import CheetahDex.Proof.Negotiation
import CheetahDex.Proof.SwapLogs
import CheetahDex.Swap.Recreate

/-!
# Recreated swaps

What becomes of a log that is translated into one of the other side and loaded there. The
translation follows the payments and gives up where the other side did; it does not ask whether
there was a payment to get back. A party whose counterparty waited for its payment in vain resumes
with a refund of a payment that is not in its log, and the command panics.
-/

namespace CheetahDex.Proof.Recreated

open Lib Ordermatch Swap List Option TakerSwapEvent MakerSwap
open MakerRecovery (plainSwapCtx plainSwapCoin plainMakerSwap lostPaymentEnv)
open TakerRecovery (plainTakerEnv plainTakerSwap)

/-! ## What a resumed command needs -/

/-- The values the command unwraps are there. -/
def MakerUnwraps (swap : MakerSwap) : MakerSwapCommand → Prop
  | .waitForTakerPayment => swap.mutable.makerPayment.isSome
  | .validateTakerPayment => swap.mutable.takerPayment.isSome
  | .spendTakerPayment => swap.mutable.takerPayment.isSome
  | .confirmTakerPaymentSpend => swap.mutable.takerPaymentSpend.isSome
  | .refundMakerPayment => swap.mutable.makerPayment.isSome
  | .start | .negotiate | .waitForTakerFee | .sendPayment | .finish => True

@[inherit_doc MakerUnwraps]
def TakerUnwraps (swap : TakerSwap) : TakerSwapCommand → Prop
  | .waitForMakerPayment => swap.mutable.takerFee.isSome
  | .validateMakerPayment => swap.mutable.makerPayment.isSome
  | .waitForTakerPaymentSpend => swap.mutable.takerPayment.isSome
  | .spendMakerPayment => swap.mutable.makerPayment.isSome
  | .refundTakerPayment => swap.mutable.takerPayment.isSome
  | .start | .negotiate | .sendTakerFee | .sendTakerPayment | .finish => True

variable {events : List MakerSwapEvent}

variable {tx : TransactionIdentifier}

theorem makerPayment_isSome (h : .makerPaymentSent tx ∈ events) (now : UInt64) (swap : MakerSwap) :
    (events.foldl (applyEvent now) swap).mutable.makerPayment.isSome := by
  refine foldl_of_mem (P := fun (swap : MakerSwap) => swap.mutable.makerPayment.isSome)
    (fun _ => rfl) (fun swap event hsw => ?_) h swap
  cases event with
  | makerPaymentSent tx => rfl
  | _ => exact hsw

/-! ## A maker's swap from a taker's log -/

variable (log : List TakerSwapEvent)

/-- The log shows a payment of the maker. -/
def ShowsMakerPayment : Prop := ∃ tx, .makerPaymentReceived tx ∈ log

/-- Nobody is seen to spend the maker's payment. -/
def MakerPaymentUnspent : Prop :=
  ∀ tx, .makerPaymentSpent tx ∉ log ∧ .makerPaymentSpentByWatcher tx ∉ log

/-- The events with which a taker gives the maker's payment up. -/
def TakerGivesUp : TakerSwapEvent → Prop
  | .makerPaymentValidateFailed _ | .makerPaymentWaitConfirmFailed _
  | .takerPaymentTransactionFailed _ | .takerPaymentDataSendFailed _
  | .takerPaymentWaitConfirmFailed _ | .takerPaymentWaitForSpendFailed _ => True
  | _ => False

@[inherit_doc TakerGivesUp]
def GaveUp : Prop := ∃ event ∈ log, TakerGivesUp event

/-- The swap that a kick-start of the maker loads. -/
def resumedMaker (debug : TakerSwapEvent → String) (now : UInt64) (ctx : SwapCtx)
    (makerCoin takerCoin : SwapCoin) (myOrderUuid : Option Uuid) (saved : TakerSavedSwap) :
    Option (MakerSwap × Option MakerSwapCommand) :=
  match recreateMakerSwap debug myOrderUuid saved with
  | .ok recreated => (loadFromSaved now ctx makerCoin takerCoin recreated).toOption
  | .error _ => none

variable (resumed : Option (MakerSwap × Option MakerSwapCommand))

/-- A swap was loaded, and its next command finds what it unwraps. -/
def MakerRunnable : Prop :=
  ∃ swap next, resumed = some (swap, next) ∧ ∀ command, next = some command →
    MakerUnwraps swap command

/-- The swap that was loaded goes on with a refund. -/
def MakerRefunds : Prop := ∃ swap, resumed = some (swap, some .refundMakerPayment)

section maker

/-- Once the swap is over for the taker, its log has nothing new about the maker's payment. -/
def TakerClosed : TakerPhase → Prop
  | .spent | .spendFailed | .refunding | .ending | .ended => True
  | _ => False

variable {log : List TakerSwapEvent} {next : Option MakerSwapCommand} {swap : MakerSwap}

variable {event : TakerSwapEvent}

theorem gaveUp_cons : GaveUp (event :: log) ↔ TakerGivesUp event ∨ GaveUp log := by simp [GaveUp]

theorem gaveUp_cons_iff (h : ¬TakerGivesUp event) : GaveUp (event :: log) ↔ GaveUp log := by
  rw [gaveUp_cons, or_iff_right h]

theorem not_gaveUp_nil : ¬GaveUp [] := by simp [GaveUp]

theorem of_takerClosed {p q : TakerPhase} (hpt : Path TakerPhase.Emits p log q)
    (hcl : TakerClosed p) : ¬GaveUp log ∧ ¬ShowsMakerPayment log := by
  induction hpt with
  | nil p => simp [GaveUp, ShowsMakerPayment]
  | cons head tail ih =>
    cases head <;> first
      | exact absurd hcl id
      | (obtain ⟨hgv, hsh⟩ := ih trivial
         simpa [GaveUp, ShowsMakerPayment, TakerGivesUp] using And.intro hgv hsh)

/-- How the recreated events go on after the maker's payment, and whether the taker gave up. -/
inductive MakerEnds (gaveUp : Prop) : List MakerSwapEvent → Prop where
  | waiting (h : ¬gaveUp) : MakerEnds gaveUp []
  | paid (tx : TransactionIdentifier) (h : ¬gaveUp) :
    MakerEnds gaveUp [.takerPaymentReceived tx, .takerPaymentWaitConfirmStarted]
  | spent (events : List MakerSwapEvent) (h : ¬gaveUp) : MakerEnds gaveUp (events ++ [.finished])
  | refunds (events : List MakerSwapEvent) (waitUntil : UInt64) (h : gaveUp) :
    MakerEnds gaveUp (events ++ [.makerPaymentWaitRefundStarted waitUntil])

theorem MakerEnds.congr {gaveUp gaveUp' : Prop} (h : MakerEnds gaveUp events)
    (hiff : gaveUp' ↔ gaveUp) : MakerEnds gaveUp' events := by
  rwa [propext hiff]

variable {debug : TakerSwapEvent → String} {waitUntil : UInt64} {q : TakerPhase}

theorem makerEnds_paid (tx : TransactionIdentifier) (hpt : Path TakerPhase.Emits .paid log q) :
    MakerEnds (GaveUp log) (.takerPaymentReceived tx :: .takerPaymentWaitConfirmStarted ::
      convertTakerToMakerEvents debug waitUntil none log) := by
  cases hpt with
  | nil => exact .paid tx not_gaveUp_nil
  | cons head tail =>
    cases head with
    | spent data =>
      refine .spent [_, _, .takerPaymentValidatedAndConfirmed, .takerPaymentSpent data.transaction,
        .takerPaymentSpendConfirmStarted, .takerPaymentSpendConfirmed] ?_
      rw [gaveUp_cons_iff id]
      exact (of_takerClosed tail trivial).1
    | notConfirmed error | notSpent error =>
      exact .refunds [_, _, _] waitUntil (gaveUp_cons.2 (.inl trivial))
    | refunded h | refundFailed h | givenUp h => cases h

theorem makerEnds_validated (hpt : Path TakerPhase.Emits .validated log q) :
    MakerEnds (GaveUp log) (convertTakerToMakerEvents debug waitUntil none log) := by
  cases hpt with
  | nil => exact .waiting not_gaveUp_nil
  | cons head tail =>
    cases head with
    | paid tx => exact (makerEnds_paid tx tail).congr (gaveUp_cons_iff id)
    | notPaid error => exact .refunds [_] waitUntil (gaveUp_cons.2 (.inl trivial))
    | refunded h | refundFailed h | givenUp h => cases h

theorem makerEnds_received (hpt : Path TakerPhase.Emits .received log q) :
    MakerEnds (GaveUp log) (convertTakerToMakerEvents debug waitUntil none log) := by
  induction log with
  | nil => exact .waiting not_gaveUp_nil
  | cons event rest ih =>
    cases hpt with
    | cons head tail =>
      cases head with
      | waitConfirmStarted => exact (ih tail).congr (gaveUp_cons_iff id)
      | validated => exact (makerEnds_validated tail).congr (gaveUp_cons_iff id)
      | waitConfirmFailed error | validateFailed error =>
        exact .refunds [_] waitUntil (gaveUp_cons.2 (.inl trivial))
      | refunded h | refundFailed h | givenUp h => cases h

/-- What a log after the negotiation is recreated to. -/
inductive MakerRecreated (log : List TakerSwapEvent) : List MakerSwapEvent → Prop where
  /-- The taker has not come to see a payment yet. -/
  | unpaid (hsh : ¬ShowsMakerPayment log) (hgv : ¬GaveUp log) : MakerRecreated log []
  | feeFailed (error : SwapError) (hsh : ¬ShowsMakerPayment log) (hgv : ¬GaveUp log) :
    MakerRecreated log [.takerFeeValidateFailed error, .finished]
  /-- The taker has waited for the payment in vain. -/
  | missed (error : SwapError) (waitUntil : UInt64) (hsh : ¬ShowsMakerPayment log)
    (hms : ∃ error, .makerPaymentValidateFailed error ∈ log) :
    MakerRecreated log [.takerPaymentValidateFailed error, .makerPaymentWaitRefundStarted waitUntil]
  | seen (fee tx : TransactionIdentifier) (events : List MakerSwapEvent)
    (hsh : ShowsMakerPayment log) (hen : MakerEnds (GaveUp log) events) :
    MakerRecreated log (.takerFeeValidated fee :: .makerPaymentSent tx :: events)

/-- The events of the maker, phase by phase of the path of the taker. -/
theorem makerRecreated (hpt : Path TakerPhase.Emits .negotiated log q) :
    MakerRecreated log (convertTakerToMakerEvents debug waitUntil none log) := by
  cases hpt with
  | nil => exact .unpaid (by simp [ShowsMakerPayment]) not_gaveUp_nil
  | cons head tail =>
    cases head with
    | feeSendFailed error =>
      obtain ⟨hgv, hsh⟩ := of_takerClosed tail trivial
      exact .feeFailed _ (by simpa [ShowsMakerPayment] using hsh) (by rwa [gaveUp_cons_iff id])
    | refunded h | refundFailed h | givenUp h => cases h
    | feeSent fee =>
      cases tail with
      | nil => exact .unpaid (by simp [ShowsMakerPayment]) (by simp [GaveUp, TakerGivesUp])
      | cons head tail =>
        cases head with
        | received tx =>
          refine .seen fee tx _ ⟨tx, by simp⟩ ?_
          refine (makerEnds_received tail).congr ?_
          rw [gaveUp_cons_iff id, gaveUp_cons_iff id]
        | notReceived error =>
          obtain ⟨-, hsh⟩ := of_takerClosed tail trivial
          exact .missed _ waitUntil (by simpa [ShowsMakerPayment] using hsh) ⟨error, by simp⟩
        | refunded h | refundFailed h | givenUp h => cases h

theorem started_notMem_convert (fee : Option TransactionIdentifier) (data : MakerSwapData) :
    .started data ∉ convertTakerToMakerEvents debug waitUntil fee log := by
  induction log generalizing fee with
  | nil => exact not_mem_nil
  | cons event rest ih => cases event <;> simp [convertTakerToMakerEvents, ih]

variable (now : UInt64) (ctx : SwapCtx) (makerCoin takerCoin : SwapCoin) (uuid : Uuid)
  (myOrderUuid : Option Uuid)

/-- The state that a recreated log describes. -/
def recreatedMaker (started : TakerSwapData) (negotiated : MakerNegotiationData)
    (events : List MakerSwapEvent) : MakerSwap :=
  let data := (recreatedMakerData started negotiated).refreshContracts makerCoin takerCoin
  (.started data :: .negotiated (recreatedTakerNegotiation started negotiated) :: events).foldl
    (applyEvent now) (.ofData ctx makerCoin takerCoin ⟨uuid, myOrderUuid, []⟩ data)

variable {now ctx makerCoin takerCoin uuid myOrderUuid} {started : TakerSwapData}
  {negotiated : MakerNegotiationData} {rest : List TakerSwapEvent}

/-- A log that has come as far as the negotiation is accepted. -/
theorem resumedMaker_eq :
    resumedMaker debug now ctx makerCoin takerCoin myOrderUuid
        ⟨uuid, .started started :: .negotiated negotiated :: rest⟩ =
      some (recreatedMaker now ctx makerCoin takerCoin uuid myOrderUuid started negotiated
          (convertTakerToMakerEvents debug (negotiated.makerPaymentLocktime + 3700) none rest),
        commandAt .waitForTakerFee MakerSwapEvent.getCommand (convertTakerToMakerEvents debug
          (negotiated.makerPaymentLocktime + 3700) none rest)) := by
  have hcmd (events : List MakerSwapEvent) :
      commandAt .start MakerSwapEvent.getCommand
        (.started ((recreatedMakerData started negotiated).refreshContracts makerCoin takerCoin) ::
          .negotiated (recreatedTakerNegotiation started negotiated) :: events) =
        commandAt .waitForTakerFee MakerSwapEvent.getCommand events := by
    rw [commandAt_cons_eq _ MakerSwapEvent.getCommand (by rfl),
      commandAt_cons_eq _ MakerSwapEvent.getCommand (by rfl)]
  rw [← hcmd, commandAt_cons]
  rfl

/-- The secret is the one of the start, which is not known. -/
theorem secret_recreatedMaker (hevs : ∀ data, .started data ∉ events) :
    let swap := recreatedMaker now ctx makerCoin takerCoin uuid myOrderUuid started negotiated
      events
    swap.ctx = ctx ∧ swap.mutable.data.secret = default := by
  refine List.foldlRecOn events (applyEvent now) (motive := fun (swap : MakerSwap) =>
    swap.ctx = ctx ∧ swap.mutable.data.secret = default) ⟨rfl, rfl⟩ ?_
  intro swap hsw event hev
  cases event with
  | started data => exact absurd hev (hevs data)
  | _ => exact hsw

/-- After a payment was seen the next command has what it needs, and it is the refund exactly if the
taker gave up. -/
theorem next_of_makerEnds {gaveUp : Prop} (hen : MakerEnds gaveUp events)
    (fee tx : TransactionIdentifier) (fresh : MakerSwap) :
    let all : List MakerSwapEvent := .takerFeeValidated fee :: .makerPaymentSent tx :: events
    let next := commandAt .waitForTakerFee MakerSwapEvent.getCommand all
    (∀ command, next = some command → MakerUnwraps (all.foldl (applyEvent now) fresh) command) ∧
      (next = some .refundMakerPayment ↔ gaveUp) := by
  intro all next
  have hsn : .makerPaymentSent tx ∈ all := by simp [all]
  have hpay := makerPayment_isSome hsn now fresh
  cases hen with
  | waiting h =>
    have hx : next = some .waitForTakerPayment := rfl
    rw [hx]
    refine ⟨fun command heq => ?_, iff_of_false (by simp) h⟩
    cases heq
    exact hpay
  | paid tx' h =>
    have hx : next = some .validateTakerPayment := rfl
    rw [hx]
    refine ⟨fun command heq => ?_, iff_of_false (by simp) h⟩
    cases heq
    exact rfl
  | spent events h =>
    have hx : next = none := commandAt_concat _ _ (_ :: _ :: events) .finished
    rw [hx]
    exact ⟨fun _ hn => (by cases hn), iff_of_false (by simp) h⟩
  | refunds events waitUntil h =>
    have hx : next = some .refundMakerPayment :=
      commandAt_concat _ _ (_ :: _ :: events) (.makerPaymentWaitRefundStarted waitUntil)
    rw [hx]
    refine ⟨fun command heq => ?_, iff_of_true rfl h⟩
    cases heq
    exact hpay

/-- A log that shows a payment is resumed, with a refund exactly if the taker gave up; one that does
not show a payment is resumed unless the taker waited for one in vain. -/
theorem maker_resumes
    (hpt : Path TakerPhase.Emits .fresh (.started started :: .negotiated negotiated :: rest) q) :
    let log : List TakerSwapEvent := .started started :: .negotiated negotiated :: rest
    let resumed := resumedMaker debug now ctx makerCoin takerCoin myOrderUuid ⟨uuid, log⟩
    (MakerRunnable resumed ↔
        ((∃ error, .makerPaymentValidateFailed error ∈ log) → ShowsMakerPayment log)) ∧
      (ShowsMakerPayment log → (MakerRefunds resumed ↔ GaveUp log)) := by
  intro log resumed
  rcases hpt with _ | ⟨⟨⟩, _ | ⟨⟨⟩, hr⟩⟩
  have hrs : resumed = some (recreatedMaker now ctx makerCoin takerCoin uuid myOrderUuid
      started negotiated _, _) := resumedMaker_eq
  have hnot : ¬GaveUp rest → ¬∃ error, .makerPaymentValidateFailed error ∈ rest :=
    fun hgv ⟨error, her⟩ => hgv ⟨_, her, trivial⟩
  simp only [hrs, log, ShowsMakerPayment, GaveUp, mem_cons, exists_eq_or_imp, TakerGivesUp,
    reduceCtorEq, false_or, MakerRunnable, MakerRefunds, some.injEq, Prod.mk.injEq, and_assoc,
    exists_and_left, exists_eq_left']
  generalize hevs : convertTakerToMakerEvents debug (negotiated.makerPaymentLocktime + 3700) none
    rest = events
  have hrc : MakerRecreated rest events := hevs ▸ makerRecreated hr
  cases hrc with
  | unpaid hsh hgv =>
    refine ⟨iff_of_true ?_ fun her => absurd her (hnot hgv), fun h => absurd h hsh⟩
    intro command hcmd
    cases hcmd
    exact trivial
  | feeFailed error hsh hgv =>
    refine ⟨iff_of_true ?_ fun her => absurd her (hnot hgv), fun h => absurd h hsh⟩
    intro command hcmd
    cases hcmd
  | missed error waitUntil hsh her =>
    refine ⟨iff_of_false (fun hall => ?_) fun h => hsh (h her), fun h => absurd h hsh⟩
    -- no payment was put into the recreated state
    exact absurd (hall .refundMakerPayment rfl) Bool.false_ne_true
  | seen fee tx events hsh hen =>
    obtain ⟨hun, href⟩ := next_of_makerEnds hen fee tx
      (recreatedMaker now ctx makerCoin takerCoin uuid myOrderUuid started negotiated [])
    exact ⟨iff_of_true hun fun _ => hsh, fun _ => href⟩

end maker

/-! ## A taker's swap from a maker's log -/

variable (log : List MakerSwapEvent)

/-- The log shows a payment of the taker. -/
def ShowsTakerPayment : Prop := ∃ tx, .takerPaymentReceived tx ∈ log

/-- The maker is not seen to spend the taker's payment. -/
def TakerPaymentUnspent : Prop := ∀ tx, .takerPaymentSpent tx ∉ log

/-- The events with which a maker gives the taker's payment up. -/
def MakerGivesUp : MakerSwapEvent → Prop
  | .takerPaymentValidateFailed _ | .takerPaymentWaitConfirmFailed _
  | .takerPaymentSpendFailed _ => True
  | _ => False

@[inherit_doc MakerGivesUp]
def MakerGaveUp : Prop := ∃ event ∈ log, MakerGivesUp event

variable (coin : ExtractSecret) (secretHash : Hash 20)

/-- The secret that a coin finds in a transaction. -/
def secretOf (tx : TransactionIdentifier) : Option (Hash 32) :=
  (coin secretHash tx.txHex).toOption.bind (hashOfBytes 32)

/-- A coin takes the secret from every spend of the log, or finds none, without a panic. -/
def Extracts (log : List MakerSwapEvent) : Prop :=
  ∀ tx, .takerPaymentSpent tx ∈ log → ∀ bytes, coin secretHash tx.txHex = .ok bytes →
    32 ≤ bytes.length

/-- The swap that a kick-start of the taker loads. -/
def resumedTaker (debug : MakerSwapEvent → String)
    (coinfind : String → Except String (Option ExtractSecret)) (now : UInt64) (ctx : SwapCtx)
    (makerCoin takerCoin : SwapCoin) (saved : MakerSavedSwap) :
    Option (TakerSwap × Option TakerSwapCommand) :=
  match recreateTakerSwap debug coinfind saved with
  | .ok (some recreated) => (TakerSwap.loadFromSaved now ctx makerCoin takerCoin recreated).toOption
  | .ok none => none
  | .error _ => none

variable (resumed : Option (TakerSwap × Option TakerSwapCommand))

/-- A swap was loaded, and its next command finds what it unwraps. -/
def TakerRunnable : Prop :=
  ∃ swap next, resumed = some (swap, next) ∧ ∀ command, next = some command →
    TakerUnwraps swap command

/-- The swap that was loaded goes on with a refund. -/
def TakerRefunds : Prop := ∃ swap, resumed = some (swap, some .refundTakerPayment)

/-- The swap that was loaded goes on with a spend of the maker's payment, with the secret. -/
def Recovers (secret : Hash 32) : Prop :=
  ∃ swap, resumed = some (swap, some .spendMakerPayment) ∧ swap.mutable.secret = secret

section taker

/-- Once the swap is over for the maker, its log has nothing new about the taker's payment. -/
def MakerClosed : MakerPhase → Prop
  | .spent | .refunding | .ending | .ended => True
  | _ => False

/-- An event that is about the payment of the taker. -/
def AboutTakerPayment : MakerSwapEvent → Prop
  | .takerPaymentReceived _ | .takerPaymentSpent _ => True
  | event => MakerGivesUp event

/-- A log that says nothing about a payment of the taker. -/
def Silent : Prop := ∀ event ∈ log, ¬AboutTakerPayment event

variable {event : MakerSwapEvent} {log : List MakerSwapEvent}

theorem silent_nil : Silent [] := by simp [Silent]

section

variable (h : Silent log)

include h

theorem Silent.cons (hev : ¬AboutTakerPayment event) : Silent (event :: log) :=
  forall_mem_cons.2 ⟨hev, h⟩

theorem Silent.shows : ¬ShowsTakerPayment log := fun ⟨_, htx⟩ => h _ htx trivial

theorem Silent.unspent : TakerPaymentUnspent log := fun _ htx => h _ htx trivial

theorem Silent.gaveUp : ¬MakerGaveUp log := by
  rintro ⟨event, hmem, hgi⟩
  refine h event hmem ?_
  cases event <;> first | exact hgi | trivial

end

theorem silent_of_makerClosed {p q : MakerPhase} (hpt : Path MakerPhase.Emits p log q)
    (hcl : MakerClosed p) : Silent log := by
  induction hpt with
  | nil p => exact silent_nil
  | cons head tail ih =>
    cases head <;> first
      | exact absurd hcl id
      | exact (ih trivial).cons id

variable (coin : ExtractSecret) (secretHash : Hash 20) (waitUntil : UInt64)

/-- How the recreated events go on after the taker's payment. -/
inductive TakerEnds (log : List MakerSwapEvent) : Option (List TakerSwapEvent) → Prop where
  | waiting (hgv : ¬MakerGaveUp log) (huns : TakerPaymentUnspent log) : TakerEnds log (some [])
  | refunds (error : SwapError) (hgv : MakerGaveUp log) (huns : TakerPaymentUnspent log) :
    TakerEnds log (some [.takerPaymentWaitForSpendFailed error,
      .takerPaymentWaitRefundStarted waitUntil])
  | spent (tx : TransactionIdentifier) (hsp : ∀ tx', .takerPaymentSpent tx' ∈ log ↔ tx' = tx) :
    TakerEnds log (convertTakerPaymentSpent coin secretHash waitUntil tx)

variable {coin secretHash waitUntil} {debug : MakerSwapEvent → String} {q : MakerPhase}

theorem takerEnds_gaveUp (error : SwapError) (hev : MakerGivesUp event) (hsil : Silent log) :
    TakerEnds coin secretHash waitUntil (event :: log)
      (some [.takerPaymentWaitForSpendFailed error, .takerPaymentWaitRefundStarted waitUntil]) := by
  refine .refunds error ⟨event, mem_cons_self, hev⟩ fun tx htx => ?_
  rcases mem_cons.1 htx with rfl | htx
  · exact hev
  · exact hsil.unspent tx htx

theorem TakerEnds.cons {events : Option (List TakerSwapEvent)}
    (h : TakerEnds coin secretHash waitUntil log events)
    (hgi : ¬MakerGivesUp event) (hne : ∀ tx, event ≠ .takerPaymentSpent tx) :
    TakerEnds coin secretHash waitUntil (event :: log) events := by
  have hgv : MakerGaveUp (event :: log) ↔ MakerGaveUp log := by simp [MakerGaveUp, hgi]
  have hmem (tx : TransactionIdentifier) :
      .takerPaymentSpent tx ∈ event :: log ↔ .takerPaymentSpent tx ∈ log := by
    rw [mem_cons, or_iff_right (hne tx).symm]
  have huns : TakerPaymentUnspent (event :: log) ↔ TakerPaymentUnspent log :=
    forall_congr' fun tx => not_congr (hmem tx)
  cases h with
  | waiting hnot hlog => exact .waiting (hgv.not.2 hnot) (huns.2 hlog)
  | refunds error hgi hlog => exact .refunds error (hgv.2 hgi) (huns.2 hlog)
  | spent tx hsp => exact .spent tx fun tx' => (hmem tx').trans (hsp tx')

theorem takerEnds_validated (hpt : Path MakerPhase.Emits .validated log q) :
    TakerEnds coin secretHash waitUntil log
      (convertMakerToTakerEvents debug coin secretHash waitUntil log) := by
  cases hpt with
  | nil => exact .waiting silent_nil.gaveUp silent_nil.unspent
  | cons head tail =>
    cases head with
    | spent tx =>
      have hsil := silent_of_makerClosed tail trivial
      refine .spent tx fun tx' => ⟨fun hmem => ?_, fun heq => heq ▸ mem_cons_self⟩
      rcases mem_cons.1 hmem with heq | hmem
      · exact MakerSwapEvent.takerPaymentSpent.inj heq
      · exact absurd hmem (hsil.unspent tx')
    | spendFailed error => exact takerEnds_gaveUp _ trivial (silent_of_makerClosed tail trivial)

theorem takerEnds_received (hpt : Path MakerPhase.Emits .received log q) :
    TakerEnds coin secretHash waitUntil log
      (convertMakerToTakerEvents debug coin secretHash waitUntil log) := by
  induction log with
  | nil => exact .waiting silent_nil.gaveUp silent_nil.unspent
  | cons event rest ih =>
    cases hpt with
    | cons head tail =>
      cases head with
      | waitConfirmStarted => exact (ih tail).cons id (by simp)
      | validated => exact (takerEnds_validated tail).cons id (by simp)
      | waitConfirmFailed error | validateFailed error =>
        exact takerEnds_gaveUp _ trivial (silent_of_makerClosed tail trivial)

/-- The next command after the events finds what it unwraps. -/
def TakerGoesOn (events : List TakerSwapEvent) : Prop :=
  ∀ now fresh command, commandAt .sendTakerFee getCommand events = some command →
    TakerUnwraps (events.foldl (TakerSwap.applyEvent now) fresh) command

variable (coin secretHash waitUntil) in
/-- What a log after the negotiation is recreated to. -/
inductive TakerRecreated (log : List MakerSwapEvent) : Option (List TakerSwapEvent) → Prop where
  /-- The maker has not come to see a payment. -/
  | unpaid (events : List TakerSwapEvent) (hsil : Silent log) (hgs : TakerGoesOn events) :
    TakerRecreated log (some events)
  /-- The maker has waited for the payment in vain. -/
  | missed (fee tx : TransactionIdentifier) (error : SwapError) (hsh : ¬ShowsTakerPayment log)
    (huns : TakerPaymentUnspent log) (hms : ∃ error, .takerPaymentValidateFailed error ∈ log) :
    TakerRecreated log (some [.takerFeeSent fee, .makerPaymentReceived tx,
      .makerPaymentWaitConfirmStarted, .takerPaymentWaitForSpendFailed error,
      .takerPaymentWaitRefundStarted waitUntil])
  | seen (fee tx tx' : TransactionIdentifier) (events : Option (List TakerSwapEvent))
    (hsh : ShowsTakerPayment log) (hen : TakerEnds coin secretHash waitUntil log events) :
    TakerRecreated log (events.map ([.takerFeeSent fee, .makerPaymentReceived tx,
      .makerPaymentWaitConfirmStarted, .makerPaymentValidatedAndConfirmed, .takerPaymentSent tx'] ++
        ·))

theorem takerGoesOn_finished (events : List TakerSwapEvent) :
    TakerGoesOn (events ++ [.finished]) := by
  intro now fresh command hcmd
  rw [commandAt_concat] at hcmd
  cases hcmd

/-- The events after the maker's payment. -/
theorem takerRecreated_paid (fee tx : TransactionIdentifier)
    (hpt : Path MakerPhase.Emits .paid log q) :
    TakerRecreated coin secretHash waitUntil
      (.takerFeeValidated fee :: .makerPaymentSent tx :: log)
      ((convertMakerToTakerEvents debug coin secretHash waitUntil log).map
        ([.takerFeeSent fee, .makerPaymentReceived tx, .makerPaymentWaitConfirmStarted] ++ ·)) := by
  cases hpt with
  | nil =>
    refine .unpaid _ ((silent_nil.cons id).cons id) fun now fresh command hcmd => ?_
    cases hcmd
    exact rfl
  | cons head tail =>
    cases head with
    | notConfirmed error =>
      have hsil := silent_of_makerClosed tail trivial
      exact .unpaid _ (((hsil.cons id).cons id).cons id) (takerGoesOn_finished [_, _, _, _])
    | notReceived error =>
      have hsil := silent_of_makerClosed tail trivial
      refine .missed fee tx _ (fun ⟨tx, htx⟩ => hsil.shows ⟨tx, ?_⟩)
        (fun tx htx => hsil.unspent tx ?_) ⟨error, by simp⟩
      · simpa using htx
      · simpa using htx
    | received tx' =>
      rw [convertMakerToTakerEvents, Option.map_map]
      refine .seen fee tx tx' _ ⟨tx', by simp⟩ ?_
      exact (((takerEnds_received tail).cons id (by simp)).cons id (by simp)).cons id (by simp)

/-- The events of the taker, phase by phase of the path of the maker. -/
theorem takerRecreated (hpt : Path MakerPhase.Emits .negotiated log q) :
    TakerRecreated coin secretHash waitUntil log
      (convertMakerToTakerEvents debug coin secretHash waitUntil log) := by
  cases hpt with
  | nil =>
    refine .unpaid [] silent_nil fun now fresh command hcmd => ?_
    cases hcmd
    exact trivial
  | cons head tail =>
    cases head with
    | feeValidateFailed error =>
      exact .unpaid _ ((silent_of_makerClosed tail trivial).cons id) (takerGoesOn_finished [_])
    | feeValidated fee =>
      cases tail with
      | nil =>
        refine .unpaid [_] (silent_nil.cons id) fun now fresh command hcmd => ?_
        cases hcmd
        exact rfl
      | cons head tail =>
        cases head with
        | notPaid error =>
          have hsil := silent_of_makerClosed tail trivial
          exact .unpaid _ ((hsil.cons id).cons id) (takerGoesOn_finished [_, _])
        | paid tx =>
          rw [convertMakerToTakerEvents, convertMakerToTakerEvents, Option.map_map]
          exact takerRecreated_paid fee tx tail

variable (now : UInt64) (ctx : SwapCtx) (makerCoin takerCoin : SwapCoin) (uuid : Uuid)

variable (secretHash) in
/-- The state that a recreated log describes. -/
def recreatedTaker (started : MakerSwapData) (negotiated : TakerNegotiationData)
    (events : List TakerSwapEvent) : TakerSwap :=
  let data := (recreatedTakerData started negotiated).refreshContracts makerCoin takerCoin
  (.started data :: .negotiated (recreatedMakerNegotiation started negotiated secretHash) ::
    events).foldl (TakerSwap.applyEvent now) (.ofData ctx makerCoin takerCoin ⟨uuid, []⟩ data)

variable {now ctx makerCoin takerCoin uuid} {myOrderUuid : Option Uuid} {started : MakerSwapData}
  {coinfind : String → Except String (Option ExtractSecret)} {negotiated : TakerNegotiationData}
  {rest : List MakerSwapEvent}

/-- A log that has come as far as the negotiation is accepted, unless the secret is too short. -/
theorem resumedTaker_eq (hhs : started.secretHash = some secretHash)
    (hcn : coinfind started.makerCoin = .ok (some coin)) :
    resumedTaker debug coinfind now ctx makerCoin takerCoin
        ⟨uuid, myOrderUuid, .started started :: .negotiated negotiated :: rest⟩ =
      (convertMakerToTakerEvents debug coin secretHash (negotiated.takerPaymentLocktime + 3700)
        rest).map fun events =>
          (recreatedTaker secretHash now ctx makerCoin takerCoin uuid started negotiated events,
            commandAt .sendTakerFee getCommand events) := by
  have hcmd (events : List TakerSwapEvent) :
      commandAt .start getCommand
        (.started ((recreatedTakerData started negotiated).refreshContracts makerCoin takerCoin) ::
          .negotiated (recreatedMakerNegotiation started negotiated secretHash) :: events) =
        commandAt .sendTakerFee getCommand events := by
    rw [commandAt_cons_eq _ getCommand (by rfl), commandAt_cons_eq _ getCommand (by rfl)]
  have hrc : recreateTakerSwap debug coinfind
      ⟨uuid, myOrderUuid, .started started :: .negotiated negotiated :: rest⟩ =
      .ok ((convertMakerToTakerEvents debug coin secretHash
        (negotiated.takerPaymentLocktime + 3700) rest).map fun events =>
          ⟨uuid, .started (recreatedTakerData started negotiated) ::
            .negotiated (recreatedMakerNegotiation started negotiated secretHash) :: events⟩) := by
    rw [recreateTakerSwap]
    simp only [hhs, hcn]
    rfl
  rw [resumedTaker, hrc]
  cases convertMakerToTakerEvents debug coin secretHash (negotiated.takerPaymentLocktime + 3700)
      rest with
  | none => rfl
  | some events =>
    rw [map_some, map_some, ← hcmd, commandAt_cons]
    rfl

section next

variable {swap : TakerSwap} {next : Option TakerSwapCommand} {command : TakerSwapCommand}

theorem takerRunnable_some :
    TakerRunnable (some (swap, next)) ↔ ∀ command, next = some command →
      TakerUnwraps swap command := by
  simp [TakerRunnable]

theorem takerRunnable_next :
    TakerRunnable (some (swap, some command)) ↔ TakerUnwraps swap command := by
  simp [TakerRunnable]

theorem takerRefunds_next :
    TakerRefunds (some (swap, some command)) ↔ command = .refundTakerPayment := by
  simp [TakerRefunds]

theorem recovers_next {secret : Hash 32} : Recovers (some (swap, some command)) secret ↔
    command = .spendMakerPayment ∧ swap.mutable.secret = secret := by
  simp [Recovers, and_assoc]

end next

/-- What is resumed after a payment was seen. -/
theorem resumes_of_takerEnds {events : Option (List TakerSwapEvent)}
    (hen : TakerEnds coin secretHash waitUntil log events)
    (fee tx tx' : TransactionIdentifier) :
    let resumed := (events.map ([.takerFeeSent fee, .makerPaymentReceived tx,
      .makerPaymentWaitConfirmStarted, .makerPaymentValidatedAndConfirmed, .takerPaymentSent tx'] ++
        ·)).map fun events =>
          (recreatedTaker secretHash now ctx makerCoin takerCoin uuid started negotiated events,
            commandAt .sendTakerFee getCommand events)
    (TakerRunnable resumed ↔ Extracts coin secretHash log) ∧
      (TakerPaymentUnspent log → (TakerRefunds resumed ↔ MakerGaveUp log)) ∧
      ∀ tx, .takerPaymentSpent tx ∈ log →
        ∀ secret, Recovers resumed secret ↔ secretOf coin secretHash tx = some secret := by
  intro resumed
  cases hen with
  | waiting hgv huns =>
    have hrs : resumed = some (_, some .waitForTakerPaymentSpend) := rfl
    rw [hrs, takerRunnable_next, takerRefunds_next]
    exact ⟨iff_of_true rfl fun tx htx => absurd htx (huns tx),
      fun _ => iff_of_false (by simp) hgv, fun tx htx => absurd htx (huns tx)⟩
  | refunds error hgv huns =>
    have hrs : resumed = some (_, some .refundTakerPayment) := rfl
    rw [hrs, takerRunnable_next, takerRefunds_next]
    exact ⟨iff_of_true rfl fun tx htx => absurd htx (huns tx),
      fun _ => iff_of_true rfl hgv, fun tx htx => absurd htx (huns tx)⟩
  | spent spend hsp =>
    simp only [Extracts, hsp, forall_eq]
    refine and_left_comm.1 ⟨fun h => absurd ((hsp spend).2 rfl) (h spend), ?_⟩
    simp only [resumed, convertTakerPaymentSpent, secretOf]
    cases coin secretHash spend.txHex with
    | error e =>
      refine ⟨iff_of_true (takerRunnable_next.2 rfl) (by simp), fun secret => ?_⟩
      exact iff_of_false (fun h => absurd (recovers_next.1 h).1 (by simp))
        (by simp [Except.toOption])
    | ok bytes =>
      by_cases hlen : 32 ≤ bytes.length
      · simp only [Except.toOption, bind_some, hashOfBytes, dif_pos hlen, map_some]
        refine ⟨iff_of_true (takerRunnable_next.2 rfl) (by simpa using hlen), fun secret => ?_⟩
        exact recovers_next.trans ((and_iff_right rfl).trans some_inj.symm)
      · simp [hashOfBytes, hlen, TakerRunnable, Recovers, Except.toOption]

/-- A log that shows a payment is resumed, with a refund exactly if the maker gave up; one that does
not show a payment is resumed unless the maker waited for one in vain. -/
theorem taker_resumes
    (hpt : Path MakerPhase.Emits .fresh (.started started :: .negotiated negotiated :: rest) q)
    (hhs : started.secretHash = some secretHash)
    (hcn : coinfind started.makerCoin = .ok (some coin)) :
    let log : List MakerSwapEvent := .started started :: .negotiated negotiated :: rest
    let resumed := resumedTaker debug coinfind now ctx makerCoin takerCoin ⟨uuid, myOrderUuid, log⟩
    (TakerRunnable resumed ↔
        (((∃ error, .takerPaymentValidateFailed error ∈ log) → ShowsTakerPayment log) ∧
          Extracts coin secretHash log)) ∧
      (ShowsTakerPayment log → TakerPaymentUnspent log → (TakerRefunds resumed ↔ MakerGaveUp log)) ∧
      ∀ tx, .takerPaymentSpent tx ∈ log →
        ∀ secret, Recovers resumed secret ↔ secretOf coin secretHash tx = some secret := by
  intro log resumed
  rcases hpt with _ | ⟨⟨⟩, _ | ⟨⟨⟩, hr⟩⟩
  have hrs : resumed = Option.map _ _ := resumedTaker_eq hhs hcn
  -- nothing is said of the first two events
  simp only [hrs, log, ShowsTakerPayment, TakerPaymentUnspent, Extracts, MakerGaveUp, mem_cons,
    exists_eq_or_imp, MakerGivesUp, reduceCtorEq, false_or]
  generalize hevs : convertMakerToTakerEvents debug coin secretHash
    (negotiated.takerPaymentLocktime + 3700) rest = events
  have hrc : TakerRecreated coin secretHash _ rest events := hevs ▸ takerRecreated hr
  cases hrc with
  | unpaid events hsil hgs =>
    refine ⟨iff_of_true (takerRunnable_some.2 (hgs now _)) ⟨fun ⟨error, her⟩ => ?_, ?_⟩,
      fun h => absurd h hsil.shows, fun tx h => absurd h (hsil.unspent tx)⟩
    · exact absurd ⟨_, her, trivial⟩ hsil.gaveUp
    · exact fun tx h => absurd h (hsil.unspent tx)
  | missed fee tx error hsh huns hms =>
    refine ⟨iff_of_false (fun hrn => ?_) fun h => hsh (h.1 hms),
      fun h => absurd h hsh, fun tx h => absurd h (huns tx)⟩
    exact absurd (takerRunnable_some.1 hrn .refundTakerPayment rfl) Bool.false_ne_true
  | seen fee tx tx' events hsh hen =>
    obtain ⟨hrn, hrf, hrcv⟩ := resumes_of_takerEnds hen fee tx tx'
    exact ⟨hrn.trans ⟨fun h => ⟨fun _ => hsh, h⟩, fun h => h.2⟩, fun _ => hrf, hrcv⟩

end taker

/-! ## Every log of every run -/

/-- **A recreated swap can be resumed exactly if its counterparty did not wait for a payment in
vain.** It resumes with a refund exactly if the counterparty gave up, the refund of a maker names
the hash of a secret of zeros, and the secret of a taker is the one that the coin of the maker finds
in the spend of the taker's payment. -/
theorem recreated_resumes_iff (debugTaker : TakerSwapEvent → String)
    (debugMaker : MakerSwapEvent → String) (now : UInt64) (ctx ctx' : SwapCtx)
    (makerCoin takerCoin makerCoin' takerCoin' : SwapCoin) (uuid : Uuid)
    (myOrderUuid : Option Uuid) :
    (∀ (swap : TakerSwap) (moves : List (Move TakerEnv)) (log : List TakerSwapEvent) started
        negotiated rest,
      (moves.foldl (TakerSwap.durable ctx makerCoin takerCoin uuid).step
        (.init swap .start)).journal = log →
      log = .started started :: .negotiated negotiated :: rest →
      let resumed := resumedMaker debugTaker now ctx' makerCoin' takerCoin' myOrderUuid ⟨uuid, log⟩
      (MakerRunnable resumed ↔
          ((∃ error, .makerPaymentValidateFailed error ∈ log) → ShowsMakerPayment log)) ∧
        ((ShowsMakerPayment log → MakerPaymentUnspent log → MakerRefunds resumed) ↔
          (ShowsMakerPayment log → MakerPaymentUnspent log → GaveUp log)) ∧
        ∀ swap next, resumed = some (swap, next) →
          (swap.ctx.dhash160 swap.mutable.data.secret = negotiated.secretHash ↔
            ctx'.dhash160 default = negotiated.secretHash)) ∧
    (∀ (swap : MakerSwap) (moves : List (Move MakerEnv)) (log : List MakerSwapEvent) started
        negotiated rest (coinfind : String → Except String (Option ExtractSecret))
        (coin otherCoin : ExtractSecret),
      (moves.foldl (durable ctx makerCoin takerCoin uuid myOrderUuid).step
        (.init swap .start)).journal = log →
      log = .started started :: .negotiated negotiated :: rest →
      coinfind started.makerCoin = .ok (some coin) →
      let resumed := resumedTaker debugMaker coinfind now ctx' makerCoin' takerCoin'
        ⟨uuid, myOrderUuid, log⟩
      ∃ secretHash, started.secretHash = some secretHash ∧
        (TakerRunnable resumed ↔
          (((∃ error, .takerPaymentValidateFailed error ∈ log) → ShowsTakerPayment log) ∧
            Extracts coin secretHash log)) ∧
        ((ShowsTakerPayment log → TakerPaymentUnspent log → TakerRefunds resumed) ↔
          (ShowsTakerPayment log → TakerPaymentUnspent log → MakerGaveUp log)) ∧
        ((∀ tx, .takerPaymentSpent tx ∈ log → ∀ secret,
            secretOf otherCoin secretHash tx = some secret → Recovers resumed secret) ↔
          ∀ tx, .takerPaymentSpent tx ∈ log → ∀ secret,
            secretOf otherCoin secretHash tx = some secret →
              secretOf coin secretHash tx = some secret)) := by
  refine ⟨?_, ?_⟩
  -- the log of a taker is a path of its phases, and the maker is recreated from it
  · rintro swap moves log started negotiated rest hlog rfl resumed
    obtain ⟨q, hpt⟩ := (takerPhases ctx makerCoin takerCoin uuid).path_of_run swap (.inl rfl) moves
    rw [hlog] at hpt
    obtain ⟨hrn, hrf⟩ := maker_resumes hpt
    refine ⟨hrn, forall_congr' fun hsh => imp_congr_right fun _ => hrf hsh, ?_⟩
    intro swap next hrs
    obtain ⟨rfl, -⟩ := Prod.mk.inj (some.inj (resumedMaker_eq.symm.trans hrs))
    obtain ⟨hctx, hsec⟩ := secret_recreatedMaker (started_notMem_convert none)
    rw [hctx, hsec]
  · rintro swap moves log started negotiated rest coinfind coin otherCoin hlog rfl hcn resumed
    obtain ⟨q, hpt⟩ := (makerPhases ctx makerCoin takerCoin uuid myOrderUuid).path_of_run swap
      rfl moves
    rw [hlog] at hpt
    -- a maker that has started has a hash of its secret in the log
    obtain ⟨secretHash, hhs⟩ : ∃ secretHash, started.secretHash = some secretHash := by
      cases hpt with
      | cons head tail =>
        cases head with
        | started data h => exact isSome_iff_exists.1 h
    obtain ⟨hrn, hrf, hrcv⟩ := taker_resumes hpt hhs hcn
    refine ⟨secretHash, hhs, hrn,
      forall_congr' fun hsh => forall_congr' fun huns => hrf hsh huns, ?_⟩
    refine forall_congr' fun tx => forall_congr' fun htx => forall_congr' fun secret => ?_
    rw [hrcv tx htx secret]

/-- The log of a taker whose commands all find the same. -/
def takerLog (env : TakerEnv) (commands : Nat) : List TakerSwapEvent :=
  ((List.replicate commands (.execute env)).foldl
    (TakerSwap.durable plainSwapCtx plainSwapCoin plainSwapCoin 1).step
    (.init plainTakerSwap .start)).journal

@[inherit_doc takerLog]
def makerLog (env : MakerEnv) (commands : Nat) : List MakerSwapEvent :=
  ((List.replicate commands (.execute env)).foldl
    (durable plainSwapCtx plainSwapCoin plainSwapCoin 1 none).step
    (.init plainMakerSwap .start)).journal

/-- A coin that finds a secret in every transaction. -/
def plainExtract : ExtractSecret := fun _ _ => .ok (.replicate 32 7)

/-- A taker whose payment is not spent, and a maker that spends the payment of the taker. -/
theorem spendAndRefund_resume :
    MakerRunnable (resumedMaker (fun _ => "") 200 plainSwapCtx plainSwapCoin plainSwapCoin none
      ⟨1, takerLog { plainTakerEnv (.error "") with
        waitForTxSpend := fun _ _ _ _ => .error "Timeout" } 7⟩) ∧
    Recovers (resumedTaker (fun _ => "") (fun _ => .ok (some plainExtract)) 200 plainSwapCtx
      plainSwapCoin plainSwapCoin ⟨1, none, makerLog { lostPaymentEnv with takerPayment := .ok [5] }
        7⟩) (.replicate 32 7) := by
  obtain ⟨hmk, htk⟩ := recreated_resumes_iff (fun _ => "") (fun _ => "") 200 plainSwapCtx
    plainSwapCtx plainSwapCoin plainSwapCoin plainSwapCoin plainSwapCoin 1 none
  constructor
  · exact (hmk _ _ _ _ _ _ rfl rfl).1.2 fun _ => ⟨⟨[2], [2]⟩, by decide +kernel⟩
  · obtain ⟨secretHash, -, -, -, hrcv⟩ := htk plainMakerSwap
      (.replicate 7 (.execute { lostPaymentEnv with takerPayment := .ok [5] })) _ _ _ _
      (fun _ => .ok (some plainExtract)) plainExtract plainExtract rfl rfl rfl
    exact hrcv.2 (fun _ _ _ h => h) ⟨[3], [3]⟩ (by decide +kernel) _ rfl

/-- A party whose counterparty waited for its payment in vain panics, and the coin of the maker does
not find the secret in a transaction of another coin. -/
theorem missedPayments_panic :
    (resumedMaker (fun _ => "") 200 plainSwapCtx plainSwapCoin plainSwapCoin none
        ⟨1, takerLog { plainTakerEnv (.error "") with makerPayment := .error "Timeout" } 5⟩).map
          (fun r => (r.2, r.1.handleCommand lostPaymentEnv .refundMakerPayment)) =
      some (some .refundMakerPayment, .panicked) ∧
    (resumedTaker (fun _ => "") (fun _ => .ok (some plainExtract)) 200 plainSwapCtx plainSwapCoin
        plainSwapCoin ⟨1, none, makerLog lostPaymentEnv 7⟩).map
          (fun r => (r.2, r.1.handleCommand (plainTakerEnv (.error "")) .refundTakerPayment)) =
      some (some .refundTakerPayment, .panicked) ∧
    (resumedTaker (fun _ => "") (fun _ => .ok (some fun _ _ => .error "!extract")) 200 plainSwapCtx
        plainSwapCoin plainSwapCoin
        ⟨1, none, makerLog { lostPaymentEnv with takerPayment := .ok [5] } 7⟩).map (·.2) =
      some (some .refundTakerPayment) := by
  decide +kernel

end CheetahDex.Proof.Recreated
