import CheetahDex.Script.Script

/-!
# What the builder writes and the reader gives

Scripts that are written opcode by opcode are the scripts of these opcodes, and the reader of
pushes gives the items of a script one by one.
-/

namespace CheetahDex.Script

open Chain (Bytes)
open Lib Lib.BitcoinScript List Option Item UInt8 Nat

/-- A script of the given opcodes that has at most the given size. -/
def Writes (script : Bytes) (ts : List Token) (size : ℕ) : Prop :=
  ∃ is : List Item, script = is.flatMap encode ∧
    (∀ i ∈ is, i.Fits ∧ i.data.length ≤ 520) ∧ is.mapM token = some ts ∧ script.length ≤ size

namespace Writes

variable {script other : Bytes} {ts us : List Token} {size n : ℕ}

theorem nil : Writes [] [] 0 := ⟨[], rfl, by simp, rfl, Nat.le_refl 0⟩

theorem append (h : Writes script ts size) (h' : Writes other us n) :
    Writes (script ++ other) (ts ++ us) (size + n) := by
  obtain ⟨is, rfl, hft, htok, hsz⟩ := h
  obtain ⟨js, rfl, hft', htok', hsz'⟩ := h'
  refine ⟨is ++ js, flatMap_append.symm, forall_mem_append.mpr ⟨hft, hft'⟩, ?_, ?_⟩
  · simp [htok, htok']
  · rw [length_append]
    omega

theorem mono (h : Writes script ts size) (hle : size ≤ n) : Writes script ts n := by
  obtain ⟨is, his, hft, htok, hsz⟩ := h
  exact ⟨is, his, hft, htok, Nat.le_trans hsz hle⟩

theorem of_item {i : Item} {t : Token} (hft : i.Fits) (hdt : i.data.length ≤ 520)
    (htk : i.token = some t) : Writes i.encode [t] i.encode.length := by
  refine ⟨[i], by simp, ?_, by simp [htk], Nat.le_refl _⟩
  intro j hj
  rw [List.mem_singleton.mp hj]
  exact ⟨hft, hdt⟩

/-- A script in the limits is the one of the tree whose opcodes it has. -/
theorem spells {t : Tree} (h : Writes script t.flatten size) (hsz : size ≤ 10000)
    (hcnt : t.flatten.length ≤ 201) : Spells script t := by
  obtain ⟨is, rfl, hft, htok, hlh⟩ := h
  have he : is.length = t.flatten.length := (forall₂_of_mapM_token htok).length_eq
  refine ⟨is, items_encode fun i hi => (hft i hi).1, ⟨by omega, fun i hi => (hft i hi).2, ?_⟩, htok⟩
  have := countP_le_length (p := fun i : Item => decide (0x60 < i.code)) (l := is)
  omega

/-- A script of pushes only. -/
theorem pushes {vs : List Bytes} (h : Writes script (Tree.pushing vs).flatten size)
    (hsz : size ≤ 10000) (hcnt : vs.length ≤ 201) : Pushes script vs := by
  have hlh (ws : List Bytes) : (Tree.pushing ws).flatten.length = ws.length := by
    induction ws with
    | nil => rfl
    | cons w ws ih => rw [Tree.pushing, Tree.flatten, length_cons, ih, length_cons]
  obtain ⟨is, his, hlm, htok⟩ := h.spells hsz (by rw [hlh]; exact hcnt)
  refine ⟨is, his, ?_, hlm, htok⟩
  have hall := forall₂_of_mapM_token htok
  clear his hlm htok h hcnt
  induction vs generalizing is with
  | nil =>
    cases hall
    simp
  | cons v vs ih =>
    obtain ⟨i, js, hi, hjs, rfl⟩ := forall₂_cons_right_iff.mp hall
    exact forall_mem_cons.mpr ⟨code_le_of_token_push hi, ih js hjs⟩

end Writes

namespace Builder

/-- The builder has written a script of the given opcodes that has at most the given size. -/
def Writes (b : Builder) (ts : List Token) (size : ℕ) : Prop :=
  ∃ script, b.data = some script ∧ Script.Writes script ts size

variable {b : Builder} {ts : List Token} {size : ℕ}

theorem Writes.default : default.Writes [] 0 := ⟨[], rfl, .nil⟩

theorem Writes.mono {n : ℕ} (h : b.Writes ts size) (hle : size ≤ n) : b.Writes ts n := by
  obtain ⟨script, hdt, hws⟩ := h
  exact ⟨script, hdt, hws.mono hle⟩

/-- An opcode that takes no data and means what is given. -/
def Means (op : Opcode) (t : Token) : Prop :=
  lengthBytes op.byte = 0 ∧ Item.Fits ⟨op.byte, []⟩ ∧ token ⟨op.byte, []⟩ = some t

instance (op : Opcode) (t : Token) : Decidable (Means op t) :=
  inferInstanceAs (Decidable (_ ∧ _ ∧ _))

theorem means_op0 : Means .op0 (.op (.push [])) := by decide

theorem means_op1 : Means .op1 (.op (.push [1])) := by decide

theorem means_opIf : Means .opIf .openIf := by decide

theorem means_opElse : Means .opElse .orElse := by decide

theorem means_opEndIf : Means .opEndIf .endIf := by decide

theorem means_opDrop : Means .opDrop (.op .drop) := by decide

theorem means_opSize : Means .opSize (.op .size) := by decide

theorem means_opEqualVerify : Means .opEqualVerify (.op .equalVerify) := by decide

theorem means_opHash160 : Means .opHash160 (.op .hash160) := by decide

theorem means_opCheckSig : Means .opCheckSig (.op .checkSig) := by decide

theorem means_opCheckSigVerify : Means .opCheckSigVerify (.op .checkSigVerify) := by decide

theorem means_opCheckLockTimeVerify :
    Means .opCheckLockTimeVerify (.op .checkLockTimeVerify) := by decide

theorem Writes.pushOpcode (h : b.Writes ts size) {op : Opcode} {t : Token} (hop : Means op t) :
    (b.pushOpcode op).Writes (ts ++ [t]) (size + 1) := by
  obtain ⟨script, hdt, hws⟩ := h
  obtain ⟨hlh, hft, ht⟩ := hop
  have hit := Script.Writes.of_item hft (zero_le 520) ht
  rw [encode, hlh] at hit
  refine ⟨script ++ [op.byte], ?_, hws.append hit⟩
  rw [Builder.pushOpcode, hdt, map_some]

variable {x : Bytes}

theorem direct_code {n : ℕ} (h : n ≤ 75) : (ofNat n).toNat = n ∧ ofNat n < 0x4c := by
  have hcd : (ofNat n).toNat = n := by
    rw [toNat_ofNat']
    omega
  rw [lt_iff_toNat_lt, hcd]
  exact ⟨rfl, lt_succ_of_le h⟩

/-- A push whose length is part of the opcode. -/
theorem writes_direct (h : x.length ≤ 75) :
    Script.Writes (.ofNat x.length :: x) [.op (.push x)] (1 + x.length) := by
  obtain ⟨hcd, hlt⟩ := direct_code h
  have hit := Script.Writes.of_item (i := ⟨.ofNat x.length, x⟩)
    (by rw [Item.Fits, if_pos hlt, hcd]) (show x.length ≤ 520 by omega)
    (token_of_le (UInt8.le_trans (UInt8.le_of_lt hlt) (by decide)))
  rw [encode, lengthBytes_of_lt hlt] at hit
  rwa [add_comm]

theorem Writes.pushBytes (h : b.Writes ts size) (hx : 1 ≤ x.length ∧ x.length ≤ 75) :
    (b.pushBytes x).Writes (ts ++ [.op (.push x)]) (size + (1 + x.length)) := by
  obtain ⟨script, hdt, hws⟩ := h
  refine ⟨_, ?_, hws.append (writes_direct hx.2)⟩
  rw [Builder.pushBytes, if_pos hx, hdt, map_some]

/-- The item that `pushData` writes. -/
def dataItem (x : Bytes) : Item :=
  ⟨if x.length ≤ 75 then .ofNat x.length else if x.length ≤ 0xff then 0x4c
    else if x.length ≤ 0xffff then 0x4d else 0x4e, x⟩

theorem dataItem_code_le (x : Bytes) : (dataItem x).code ≤ 0x4e := by
  simp only [dataItem]
  split_ifs with hdir
  · exact UInt8.le_trans (UInt8.le_of_lt (direct_code hdir).2) (by decide)
  all_goals decide

theorem assigned_dataItem (x : Bytes) : Assigned (dataItem x).code := by
  have hle := dataItem_code_le x
  rw [le_iff_toNat_le] at hle
  simp only [Assigned, le_iff_toNat_le, not_or, not_and]
  have hco : (0x4e : UInt8).toNat = 78 ∧ (0xba : UInt8).toNat = 186 ∧
      (0xc5 : UInt8).toNat = 197 := ⟨rfl, rfl, rfl⟩
  omega

theorem dataItem_code_ne_zero (hx : x ≠ []) : (dataItem x).code ≠ 0 := by
  have hpos := length_pos_iff.mpr hx
  simp only [dataItem]
  split_ifs with hdir
  · intro hz
    have hlen := (direct_code hdir).1
    rw [hz] at hlen
    exact absurd hlen (Nat.ne_of_lt hpos)
  all_goals decide

theorem dataItem_fits (hx : x.length ≤ 0xffffffff) : (dataItem x).Fits := by
  by_cases hdir : x.length ≤ 75
  · obtain ⟨hcd, hlt⟩ := direct_code hdir
    simp only [Item.Fits, dataItem, if_pos hdir, if_pos hlt, hcd]
  · by_cases hby : x.length ≤ 0xff
    · simp only [Item.Fits, dataItem, if_neg hdir, if_pos hby]
      exact lt_succ_of_le hby
    · by_cases hwr : x.length ≤ 0xffff
      · simp only [Item.Fits, dataItem, if_neg hdir, if_neg hby, if_pos hwr]
        exact lt_succ_of_le hwr
      · simp only [Item.Fits, dataItem, if_neg hdir, if_neg hby, if_neg hwr]
        exact lt_succ_of_le hx

theorem pushData_data (hx : x.length ≤ 0xffffffff) :
    (b.pushData x).data = b.data.map (· ++ (dataItem x).encode) := by
  have hbd : x.length < Opcode.opPushData1.byte.toNat ↔ x.length ≤ 75 := Nat.lt_succ_iff
  simp only [Builder.pushData, dataItem, hbd]
  split_ifs with hsh hby hwr
  · rw [encode, lengthBytes_of_lt (direct_code hsh).2]
    rfl
  · rfl
  · rfl
  · rfl

theorem Writes.pushData (h : b.Writes ts size) (hx : x.length ≤ 520) :
    (b.pushData x).Writes (ts ++ [.op (.push x)]) (size + (5 + x.length)) := by
  obtain ⟨script, hdt, hws⟩ := h
  have hlo : x.length ≤ 0xffffffff := Nat.le_trans hx (by decide)
  have hit : Script.Writes (dataItem x).encode [.op (.push x)] (5 + x.length) := by
    refine (Script.Writes.of_item (dataItem_fits hlo) hx (token_of_le (dataItem_code_le x))).mono ?_
    have hle := lengthBytes_le (dataItem x).code
    simp only [encode, length_cons, length_append, length_leBytes]
    show lengthBytes (dataItem x).code + x.length + 1 ≤ 5 + x.length
    omega
  refine ⟨_, ?_, hws.append hit⟩
  rw [pushData_data hlo, hdt, map_some]

end Builder

/-! ## Reading -/

/-- What the reader makes of an item. -/
def instructionOf (i : Item) (h : Assigned i.code) : Instruction :=
  ⟨⟨i.code, h⟩, i.encode.length, if i.code ≤ 0x4e then some i.data else none⟩

variable {script : Bytes} {pos : ℕ} {instr : Instruction}

theorem opcodeAt_eq_ok {op : Opcode} :
    opcodeAt script pos = .ok op ↔ ∃ left, script.drop pos = op.byte :: left := by
  obtain ⟨code, h⟩ := op
  have hget : (∃ left, script.drop pos = code :: left) ↔ script[pos]? = some code := by
    rw [← head?_drop, head?_eq_some_iff]
  rw [hget, opcodeAt]
  cases script[pos]? with
  | none => simp
  | some byte =>
    simp only [bind_some, some.injEq, Opcode.fromU8]
    by_cases hby : Assigned byte
    · simp [hby]
    · simp only [hby, dif_neg, not_false_eq_true, reduceCtorEq, false_iff]
      rintro rfl
      exact hby h

/-- The reader gives the next item, unless the script is too short for it. -/
theorem instructionAt_eq {code : UInt8} {left : Bytes} (h : Assigned code)
    (hdr : script.drop pos = code :: left) : instructionAt script pos =
      (BitcoinScript.next (code :: left)).elim (.error .badOpcode) fun r =>
        .ok ⟨⟨code, h⟩, r.1.encode.length, if code ≤ 0x4e then some r.1.data else none⟩ := by
  have hop : opcodeAt script pos = .ok ⟨code, h⟩ := opcodeAt_eq_ok.mpr ⟨left, hdr⟩
  have hlf : script.drop (pos + 1) = left := by rw [← drop_drop, hdr, drop_one, tail_cons]
  have hlh : script.length = pos + 1 + left.length := by
    have hlen := congrArg List.length hdr
    rw [length_drop, length_cons] at hlen
    omega
  have hrn (k n : ℕ) : range script (pos + 1 + k) n =
      if k + n ≤ left.length then .ok ((left.drop k).take n) else .error .badOpcode := by
    rw [range, hlh, ← drop_drop, hlf]
    exact if_congr (by omega) rfl rfl
  have hrn₀ := hrn 0
  simp only [add_zero, zero_add, drop_zero] at hrn₀
  have hsz (n : ℕ) (hrm : lengthBytes code + n ≤ left.length) : (encode
      ⟨code, (left.drop (lengthBytes code)).take n⟩).length = 1 + lengthBytes code + n := by
    simp only [encode, length_cons, length_append, length_leBytes, length_take, length_drop]
    omega
  simp only [instructionAt, hop, bind, Except.bind, BitcoinScript.next]
  -- a push whose length is in the bytes after the opcode
  by_cases hln : code = 0x4c ∨ code = 0x4d ∨ code = 0x4e
  · have hdir : ¬code < 0x4c := by rcases hln with rfl | rfl | rfl <;> decide
    have hps : code ≤ 0x4e := by rcases hln with rfl | rfl | rfl <;> decide
    have hbs : (if code = 0x4c then 1 else if code = 0x4d then 2 else 4) = lengthBytes code := by
      rcases hln with rfl | rfl | rfl <;> rfl
    simp only [Opcode.mk.injEq, Opcode.opPushData1, Opcode.opPushData2, Opcode.opPushData4,
      hln, if_true, hbs, hrn₀, hrn, dataLength, hdir, if_false, hps]
    by_cases hk : lengthBytes code ≤ left.length
    · simp only [hk, if_true]
      by_cases hrm : lengthBytes code + ofLeBytes (left.take (lengthBytes code)) ≤ left.length
      · simp only [hrm, if_true, elim_some, hsz _ hrm]
        rfl
      · simp only [hrm, if_false, elim_none]
    · rw [if_neg hk, if_neg (by omega)]
      rfl
  · simp only [Opcode.mk.injEq, Opcode.opPushData1, Opcode.opPushData2, Opcode.opPushData4,
      hln, if_false]
    have hbs : lengthBytes code = 0 := by
      simp only [not_or] at hln
      rw [lengthBytes, if_neg hln.1, if_neg hln.2.1, if_neg hln.2.2]
    simp only [hbs, zero_add, drop_zero, Opcode.opPushBytes75] at hsz ⊢
    -- a push whose opcode is its length, or an opcode without data
    by_cases hdir : code < 0x4c
    · have hle : code ≤ 0x4b := by
        rw [lt_iff_toNat_lt] at hdir
        rw [le_iff_toNat_le]
        exact le_of_lt_succ hdir
      have hps : code ≤ 0x4e := UInt8.le_trans hle (by decide)
      simp only [hle, if_true, hrn₀, dataLength, hdir, hps]
      by_cases hrm : code.toNat ≤ left.length
      · simp only [hrm, if_true, elim_some, hsz _ hrm]
        rfl
      · simp only [hrm, if_false, elim_none]
    · have hps : ¬code ≤ 0x4e := by
        simp only [← UInt8.toNat_inj, not_or] at hln
        rw [lt_iff_toNat_lt] at hdir
        rw [le_iff_toNat_le]
        have hco : (0x4c : UInt8).toNat = 76 ∧ (0x4d : UInt8).toNat = 77 ∧
            (0x4e : UInt8).toNat = 78 := ⟨rfl, rfl, rfl⟩
        omega
      have hle : ¬code ≤ 0x4b := fun hle => hps (UInt8.le_trans hle (by decide))
      have hz : dataLength code left = 0 := by
        rw [dataLength, if_neg hdir, hbs]
        rfl
      simp only [hle, if_false, hz, hps, zero_le, if_true, elim_some, hsz 0 (zero_le _)]
      rfl

variable {i : Item} {rest : Bytes}

theorem instructionAt_of_encode (hft : i.Fits) (h : Assigned i.code)
    (hdr : script.drop pos = i.encode ++ rest) :
    instructionAt script pos = .ok (instructionOf i h) := by
  rw [encode, cons_append] at hdr
  have hnx := next_encode hft rest
  rw [encode, cons_append] at hnx
  rw [instructionAt_eq h hdr, hnx]
  rfl

/-- What is read as an instruction was written as an item. -/
theorem exists_encode_of_instructionAt (hok : instructionAt script pos = .ok instr) :
    ∃ i rest h, i.Fits ∧ script.drop pos = i.encode ++ rest ∧ instr = instructionOf i h := by
  cases hop : opcodeAt script pos with
  | error e =>
    rw [instructionAt, hop] at hok
    exact absurd hok (by simp [bind, Except.bind])
  | ok op =>
    obtain ⟨code, h⟩ := op
    obtain ⟨left, hdr⟩ := opcodeAt_eq_ok.mp hop
    rw [instructionAt_eq h hdr] at hok
    cases hnx : BitcoinScript.next (code :: left) with
    | none =>
      rw [hnx] at hok
      exact absurd hok (by simp)
    | some r =>
      obtain ⟨i, rest⟩ := r
      obtain ⟨hft, hcd⟩ := encode_of_next hnx
      obtain rfl : code = i.code := (List.cons.inj hcd).1
      rw [hnx] at hok
      exact ⟨i, rest, h, hft, hdr.trans hcd, (Except.ok.inj hok).symm⟩

theorem drop_of_encode (hdr : script.drop pos = i.encode ++ rest) :
    script.drop (pos + i.encode.length) = rest := by
  rw [← drop_drop, hdr, drop_left]

/-- What the reader gives for an item. -/
def readItem (i : Item) : Except Error Instruction :=
  if h : Assigned i.code then .ok (instructionOf i h) else .error .badOpcode

section

variable {is : List Item} (hft : ∀ i ∈ is, i.Fits) (hasg : ∀ i ∈ is, Assigned i.code)

include hft hasg

/-- The reader goes through the items with which a script begins. -/
theorem instructionsFrom_items {n : ℕ}
    (hdr : script.drop pos = is.flatMap encode ++ rest) (hn : script.length ≤ pos + n) :
    ∃ tail, (rest = [] → tail = []) ∧ instructionsFrom script n pos = is.map readItem ++ tail := by
  induction is generalizing pos n with
  | nil =>
    refine ⟨_, ?_, rfl⟩
    rintro rfl
    have hend : script.length ≤ pos := by simpa using hdr
    cases n with
    | zero => rfl
    | succ n => rw [instructionsFrom, if_pos hend]
  | cons i is ih =>
    have hi := hasg i mem_cons_self
    rw [flatMap_cons, append_assoc] at hdr
    have hlh := congrArg List.length hdr
    rw [length_drop, length_append, encode, length_cons] at hlh
    obtain ⟨n, rfl⟩ := exists_eq_add_one.mpr (show 0 < n by omega)
    have hst : 1 ≤ i.encode.length := succ_pos _
    obtain ⟨tail, hl, htl⟩ := ih (fun j hj => hft j (mem_cons_of_mem _ hj))
      (fun j hj => hasg j (mem_cons_of_mem _ hj)) (n := n) (drop_of_encode hdr)
      (by omega)
    refine ⟨tail, hl, ?_⟩
    rw [instructionsFrom, if_neg (by omega),
      instructionAt_of_encode (hft i mem_cons_self) hi hdr, map_cons,
      cons_append, readItem, dif_pos hi, ← htl, instructionOf]

theorem iter_items :
    ∃ tail, (rest = [] → tail = []) ∧ iter (is.flatMap encode ++ rest) = is.map readItem ++ tail :=
  instructionsFrom_items hft hasg (drop_zero) (by omega)

end

/-- What is read is the instruction of an item, and the items before it are read too. -/
theorem getElem?_instructionsFrom {n k : ℕ}
    (hget : (instructionsFrom script n pos)[k]? = some (.ok instr)) :
    ∃ (is : List Item) (i : Item) (rest : Bytes) (h : Assigned i.code), is.length = k ∧
      (∀ j ∈ is, j.Fits ∧ Assigned j.code) ∧ i.Fits ∧
      script.drop pos = is.flatMap encode ++ (i.encode ++ rest) ∧
      instr = instructionOf i h := by
  induction n generalizing pos k with
  | zero => exact absurd hget (by simp [instructionsFrom])
  | succ n ih =>
    rw [instructionsFrom] at hget
    split_ifs at hget
    · cases hget
    · cases hat : instructionAt script pos with
      | error e =>
        rw [hat] at hget
        exact absurd hget (by cases k <;> simp)
      | ok first =>
        obtain ⟨i, rest, h, hft, hdr, rfl⟩ := exists_encode_of_instructionAt hat
        rw [hat] at hget
        cases k with
        | zero =>
          cases hget
          exact ⟨[], i, rest, h, rfl, by simp, hft, hdr, rfl⟩
        | succ k =>
          obtain ⟨is, j, last, hj, hlh, his, hr⟩ := ih hget
          rw [instructionOf, drop_of_encode hdr] at hr
          refine ⟨i :: is, j, last, hj, congrArg _ hlh, ?_, hr.1, ?_, hr.2.2⟩
          · exact forall_mem_cons.mpr ⟨⟨hft, h⟩, his⟩
          · rw [hdr, hr.2.1, flatMap_cons, append_assoc]

/-- The instruction at a place is that of the item there. -/
theorem getInstruction_eq_ok {n : ℕ} : getInstruction script n = some (.ok instr) ↔
    ∃ (is : List Item) (i : Item) (rest : Bytes) (h : Assigned i.code), is.length = n ∧
      (∀ j ∈ is, j.Fits ∧ Assigned j.code) ∧ i.Fits ∧
      script = is.flatMap encode ++ (i.encode ++ rest) ∧ instr = instructionOf i h := by
  refine ⟨getElem?_instructionsFrom, ?_⟩
  rintro ⟨is, i, rest, h, rfl, his, hi, rfl, rfl⟩
  obtain ⟨tail, -, htl⟩ := @iter_items rest (is ++ [i])
    (forall_mem_append.mpr ⟨fun j hj => (his j hj).1, by simpa using hi⟩)
    (forall_mem_append.mpr ⟨fun j hj => (his j hj).2, by simpa using h⟩)
  simp only [flatMap_append, flatMap_singleton, append_assoc] at htl
  rw [getInstruction, htl]
  simp [readItem, h]

end CheetahDex.Script
