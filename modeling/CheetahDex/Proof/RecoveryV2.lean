import CheetahDex.Proof.PaymentsV2

/-!
# What a restart finds of a swap of the second version

A machine is recreated from its row and its events. The row keeps decimals, so what is recreated has
the amounts of the machine that was stored, as they are given to the coins. There are two windows in
which a crash leaves a record that is neither finished nor of use: before the first event, and after
the event of a last state.
-/

namespace CheetahDex.SwapV2

open Lib
open Ordermatch (Uuid)
open Swap (Bytes Hash)
open Utxo (SecretHashAlgo)

variable {MC TC : CoinTypes} (ctx : Ctx) (makerCoin : Coin MC) (takerCoin : Coin TC) (uuid : Uuid)

/-! ## What is stored and read back -/

theorem secretOfRow_toList (secret : Hash 32) : secretOfRow secret.toList = secret := by
  unfold secretOfRow
  ext i hi
  simp

theorem secretHashAlgoOfRow_toI64 (algo : SecretHashAlgo) :
    secretHashAlgoOfRow (secretHashAlgoToI64 algo) = algo := by
  cases algo <;> rfl

/-- The events that are stored. -/
def storedEvents {ρ ε : Type} (j : List (Write ρ ε)) : List ε := j.filterMap Write.event?

theorem toDecimal_toDecimal (ctx : Ctx) (amount : Ordermatch.MmNumber) :
    ctx.toDecimal (ctx.toDecimal amount) = ctx.toDecimal amount :=
  truncDigits_truncDigits amount

/-- What a restart finds, by the function that recreates the machine. -/
theorem recreated_of_recovers {σ κ ε ρ η φ α : Type} {m : Storable σ κ ε ρ η φ} {s : σ}
    {j : List (Write ρ ε)} {recreate : ρ → List ε → Except α (σ × κ)} (Same : σ → Prop)
    (h : m.Recovers s j) (hrc : ∀ row events e state, events.getLast? = some e →
      m.restore e = some state → recreate row events = .ok (m.recreate row, state))
    (hsa : Same s) :
    j = [] ∨ j.any Write.isFinished = true ∨ ∃ row s' state,
      j.findSome? Write.record? = some row ∧ lastEvent j = some (m.getEvent state) ∧
      recreate row (storedEvents j) = .ok (s', state) ∧ Same s' := by
  rcases h with hnil | hfin | ⟨state, hl, hste⟩
  · exact .inl hnil
  · exact .inr (.inl hfin)
  · obtain ⟨row, hrow, hste⟩ := Option.bind_eq_some_iff.mp hste
    obtain ⟨e, he, hste⟩ := Option.bind_eq_some_iff.mp hste
    obtain ⟨_, hrs, ⟨⟩⟩ := Option.bind_eq_some_iff.mp hste
    exact .inr (.inr ⟨row, _, _, hrow, hl, hrc _ _ _ _ he hrs, hsa⟩)

/-! ## The maker -/

namespace Maker

/-- A machine does what another one does: the same amounts for the coins, fee, lock times and
secret. -/
structure SameData (sm' sm : Machine MC TC) : Prop where
  makerVolume : sm'.ctx.toDecimal sm'.makerVolume = sm.ctx.toDecimal sm.makerVolume
  takerVolume : sm'.ctx.toDecimal sm'.takerVolume = sm.ctx.toDecimal sm.takerVolume
  takerPremium : sm'.ctx.toDecimal sm'.takerPremium = sm.ctx.toDecimal sm.takerPremium
  dexFee : ∀ takerPubkey, sm'.dexFee takerPubkey = sm.dexFee takerPubkey
  makerPaymentLocktime : sm'.makerPaymentLocktime = sm.makerPaymentLocktime
  takerPaymentConfTimeout : sm'.takerPaymentConfTimeout = sm.takerPaymentConfTimeout
  secret : sm'.secret = sm.secret
  secretHash : sm'.secretHash = sm.secretHash

/-- What is stored of a machine that does not run: nothing, that it is finished, or enough for
`recreate_machine` to go on in the state whose event was stored last with the same data. -/
def Recovered (sm : Machine MC TC) (j : List (Write Row Event)) : Prop :=
  j = [] ∨ j.any Write.isFinished = true ∨
    ∃ row sm' state, j.findSome? Write.record? = some row ∧ lastEvent j = some state.getEvent ∧
      recreateMachine ctx makerCoin takerCoin uuid row (storedEvents j) = .ok (sm', state) ∧
      SameData sm' sm

variable {ctx makerCoin takerCoin uuid} {sm : Machine MC TC}

theorem recreateMachine_eq (row : Row) (events : List Event) (e : Event) (state : State)
    (hl : events.getLast? = some e) (hste : (recreateState e).toOption = some state) :
    recreateMachine ctx makerCoin takerCoin uuid row events =
      .ok (.ofRow ctx makerCoin takerCoin uuid row, state) := by
  rw [recreateMachine, hl]
  change (recreateState e).bind _ = _
  rw [ok_of_toOption hste]
  rfl

theorem restorable_of_not_isLast (state : State) (h : state.isLast = false) :
    (storable ctx makerCoin takerCoin uuid).Restorable state := by
  cases state with
  | makerPaymentRefunded _ _ _ | completed | aborted _ => cases h
  | _ => rfl

/-- What is recreated from the row of a machine has its data, if the taker's volume is stored as it
is. -/
theorem sameData_ofRow (hctx : sm.ctx = ctx) (hmk : sm.makerCoin = makerCoin)
    (htk : sm.takerCoin = takerCoin) (hvol : ctx.toDecimal sm.takerVolume = sm.takerVolume) :
    SameData (Machine.ofRow ctx makerCoin takerCoin uuid sm.toRow) sm := by
  subst hctx hmk htk
  have hsec : secretOfRow sm.secret.toList = sm.secret := secretOfRow_toList _
  have hal := secretHashAlgoOfRow_toI64 sm.secretHashAlgo
  refine ⟨toDecimal_toDecimal _ _, toDecimal_toDecimal _ _, toDecimal_toDecimal _ _, ?_, ?_, ?_,
    hsec, ?_⟩
  · intro takerPubkey
    simp only [Machine.dexFee, Machine.ofRow, Machine.toRow, hvol]
  · simp [Machine.makerPaymentLocktime, Machine.ofRow, Machine.toRow]
  · simp [Machine.takerPaymentConfTimeout, Machine.ofRow, Machine.toRow]
  · simp only [Machine.secretHash, Machine.ofRow, Machine.toRow, hsec, hal]

end Maker

/-! ## The taker -/

namespace Taker

@[inherit_doc Maker.SameData]
structure SameData (sm' sm : Machine MC TC) : Prop where
  makerVolume : sm'.ctx.toDecimal sm'.makerVolume = sm.ctx.toDecimal sm.makerVolume
  takerVolume : sm'.ctx.toDecimal sm'.takerVolume = sm.ctx.toDecimal sm.takerVolume
  takerPremium : sm'.ctx.toDecimal sm'.takerPremium = sm.ctx.toDecimal sm.takerPremium
  dexFee : ∀ takerPubkey, sm'.dexFee takerPubkey = sm.dexFee takerPubkey
  takerFundingLocktime : sm'.takerFundingLocktime = sm.takerFundingLocktime
  takerPaymentLocktime : sm'.takerPaymentLocktime = sm.takerPaymentLocktime
  makerPaymentConfTimeout : sm'.makerPaymentConfTimeout = sm.makerPaymentConfTimeout
  takerSecret : sm'.takerSecret = sm.takerSecret
  takerSecretHash : sm'.takerSecretHash = sm.takerSecretHash

@[inherit_doc Maker.Recovered]
def Recovered (sm : Machine MC TC) (j : List (Write Row Event)) : Prop :=
  j = [] ∨ j.any Write.isFinished = true ∨
    ∃ row sm' state, j.findSome? Write.record? = some row ∧ lastEvent j = some state.getEvent ∧
      recreateMachine ctx makerCoin takerCoin uuid row (storedEvents j) = .ok (sm', state) ∧
      SameData sm' sm

variable {ctx makerCoin takerCoin uuid} {sm : Machine MC TC}

theorem recreateMachine_eq (row : Row) (events : List Event) (e : Event) (state : State)
    (hl : events.getLast? = some e) (hste : (recreateState e).toOption = some state) :
    recreateMachine ctx makerCoin takerCoin uuid row events =
      .ok (.ofRow ctx makerCoin takerCoin uuid row, state) := by
  rw [recreateMachine, hl]
  change (recreateState e).bind _ = _
  rw [ok_of_toOption hste]
  rfl

theorem restorable_of_not_isLast (state : State) (h : state.isLast = false) :
    (storable ctx makerCoin takerCoin uuid).Restorable state := by
  cases state with
  | takerFundingRefunded _ _ _ | takerPaymentRefunded _ _ _ | completed | aborted _ => cases h
  | _ => rfl

theorem sameData_ofRow (hctx : sm.ctx = ctx) (hmk : sm.makerCoin = makerCoin)
    (htk : sm.takerCoin = takerCoin) (hvol : ctx.toDecimal sm.takerVolume = sm.takerVolume) :
    SameData (Machine.ofRow ctx makerCoin takerCoin uuid sm.toRow) sm := by
  subst hctx hmk htk
  have hsec : secretOfRow sm.takerSecret.toList = sm.takerSecret := secretOfRow_toList _
  have hal := secretHashAlgoOfRow_toI64 sm.secretHashAlgo
  refine ⟨toDecimal_toDecimal _ _, toDecimal_toDecimal _ _, toDecimal_toDecimal _ _, ?_, ?_, ?_,
    ?_, hsec, ?_⟩
  · intro takerPubkey
    simp only [Machine.dexFee, Machine.ofRow, Machine.toRow, hvol]
  · simp [Machine.takerFundingLocktime, Machine.ofRow, Machine.toRow]
  · simp [Machine.takerPaymentLocktime, Machine.ofRow, Machine.toRow]
  · simp [Machine.makerPaymentConfTimeout, Machine.ofRow, Machine.toRow]
  · simp only [Machine.takerSecretHash, Machine.ofRow, Machine.toRow, hsec, hal]

end Taker

/-! ## Every run -/

/-- **A machine that does not run has stored nothing, is finished or is recreated as it was, in
every run in which no crash falls into one of the two windows**, if the taker's volume is a decimal.
-/
theorem storageV2_recovers :
    (∀ (sm : Maker.Machine MC TC) (moves : List (Move (Maker.Env MC TC))),
      sm.ctx = ctx → sm.makerCoin = makerCoin → sm.takerCoin = takerCoin →
      ctx.toDecimal sm.takerVolume = sm.takerVolume →
      Guarded (Maker.storable ctx makerCoin takerCoin uuid).durable.step
        (Maker.storable ctx makerCoin takerCoin uuid).Timely (.init sm .starting) moves →
      Always (Maker.storable ctx makerCoin takerCoin uuid).durable.step
        (fun node => node.live = none →
          Maker.Recovered ctx makerCoin takerCoin uuid sm node.journal)
        (.init sm .starting) moves) ∧
    ∀ (sm : Taker.Machine MC TC) (moves : List (Move (Taker.Env MC TC))),
      sm.ctx = ctx → sm.makerCoin = makerCoin → sm.takerCoin = takerCoin →
      ctx.toDecimal sm.takerVolume = sm.takerVolume →
      Guarded (Taker.storable ctx makerCoin takerCoin uuid).durable.step
        (Taker.storable ctx makerCoin takerCoin uuid).Timely (.init sm .starting) moves →
      Always (Taker.storable ctx makerCoin takerCoin uuid).durable.step
        (fun node => node.live = none →
          Taker.Recovered ctx makerCoin takerCoin uuid sm node.journal)
        (.init sm .starting) moves := by
  refine ⟨fun sm moves hctx hmk htk hvol hok => ?_, fun sm moves hctx hmk htk hvol hok => ?_⟩
  · have hsa : Maker.SameData (.ofRow ctx makerCoin takerCoin uuid sm.toRow) sm :=
      Maker.sameData_ofRow hctx hmk htk hvol
    refine (Storable.recovers_always Maker.restorable_of_not_isLast sm hok).mono
      fun node hnd hlv => ?_
    exact recreated_of_recovers (Maker.SameData · sm) (hnd hlv) Maker.recreateMachine_eq hsa
  · have hsa : Taker.SameData (.ofRow ctx makerCoin takerCoin uuid sm.toRow) sm :=
      Taker.sameData_ofRow hctx hmk htk hvol
    refine (Storable.recovers_always Taker.restorable_of_not_isLast sm hok).mono
      fun node hnd hlv => ?_
    exact recreated_of_recovers (Taker.SameData · sm) (hnd hlv) Taker.recreateMachine_eq hsa

theorem toDecimal_one : plainCtx.toDecimal 1 = 1 := by
  have hdig : HasDigits 100 (1 : ℚ) := ⟨1, by norm_num, 0, by norm_num⟩
  exact hdig.truncDigits_eq zero_le_one

/-- A crash in the first state that is stored, and a restart. -/
theorem crashAfterEvent_recovers :
    Always plainMakerStorable.durable.step
      (fun node => node.live = none → Maker.Recovered plainCtx (plainCoin "RICK")
        (plainCoin "MORTY") 0 (plainMaker 1000 7800) node.journal)
      (.init (plainMaker 1000 7800) .starting)
      [.execute makerEnv, .execute makerEnv, .crash makerEnv true 0, .restart makerEnv] ∧
    Always plainTakerStorable.durable.step
      (fun node => node.live = none → Taker.Recovered plainCtx (plainCoin "RICK")
        (plainCoin "MORTY") 0 (plainTaker 1000 7800) node.journal)
      (.init (plainTaker 1000 7800) .starting)
      [.execute takerEnv, .execute takerEnv, .crash takerEnv true 0, .restart takerEnv] := by
  have hrcv := storageV2_recovers plainCtx (plainCoin "RICK") (plainCoin "MORTY") 0
  refine ⟨hrcv.1 _ _ rfl rfl rfl toDecimal_one ⟨trivial, trivial, ?_, trivial, trivial⟩,
    hrcv.2 _ _ rfl rfl rfl toDecimal_one ⟨trivial, trivial, ?_, trivial, trivial⟩⟩
  · exact Storable.timely_of_live (.initialized 1 1 0 0) (by decide +kernel) rfl
  · exact Storable.timely_of_live (.initialized 1 1 0 0) (by decide +kernel) rfl

/-- A crash before the first event leaves a record that cannot be recreated. -/
theorem crashBeforeEvent_lost :
    ¬ Always plainMakerStorable.durable.step
      (fun node => node.live = none → Maker.Recovered plainCtx (plainCoin "RICK")
        (plainCoin "MORTY") 0 (plainMaker 1000 7800) node.journal)
      (.init (plainMaker 1000 7800) .starting)
      [.execute makerEnv, .crash makerEnv false 0] ∧
    ¬ Always plainTakerStorable.durable.step
      (fun node => node.live = none → Taker.Recovered plainCtx (plainCoin "RICK")
        (plainCoin "MORTY") 0 (plainTaker 1000 7800) node.journal)
      (.init (plainTaker 1000 7800) .starting)
      [.execute takerEnv, .crash takerEnv false 0] := by
  refine ⟨fun hrcv => ?_, fun hrcv => ?_⟩
  all_goals
    -- the record is neither finished nor of use
    rcases hrcv.last (Option.isNone_iff_eq_none.mp (by decide +kernel)) with
      hemp | hfin | ⟨row, s, state, -, hl, -⟩
    · exact absurd (congrArg List.isEmpty hemp) (by decide +kernel)
    · exact absurd hfin (by decide +kernel)
    · have hs := congrArg Option.isNone hl
      rw [Option.isNone_some] at hs
      exact absurd hs (by decide +kernel)

end CheetahDex.SwapV2
