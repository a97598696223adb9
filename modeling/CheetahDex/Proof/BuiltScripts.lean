import CheetahDex.Script.Written
import Mathlib.Algebra.GroupWithZero.Nat

/-!
# Built scripts are read back

The reader gives the pushed opcodes and data of a built script one by one, and without its
separators the script is the one that would have been built without them.
-/

namespace CheetahDex.Script

open Chain (Bytes)
open Lib Lib.BitcoinScript Builder List Opcode

/-- A call of a builder. -/
inductive Operation where
  | opcode (op : Opcode)
  | bytes (x : Bytes)
  | data (x : Bytes)
  deriving DecidableEq

namespace Operation

def apply (b : Builder) : Operation → Builder
  | .opcode op => b.pushOpcode op
  | .bytes x => b.pushBytes x
  | .data x => b.pushData x

/-- The opcode carries no data, or the builder accepts the length. -/
def Accepted : Operation → Prop
  | .opcode op => op = .op0 ∨ opPushData4.byte < op.byte
  | .bytes x => 1 ≤ x.length ∧ x.length ≤ 75
  | .data x => x.length ≤ 0xffffffff

/-- What is written for the operation. -/
def item : Operation → Item
  | .opcode op => ⟨op.byte, []⟩
  | .bytes x | .data x => dataItem x

/-- The instruction of the operation. `OP_0` is a push of nothing. -/
def instruction (o : Operation) : Instruction where
  opcode := match o with
    | .opcode op => op
    | .bytes x | .data x => ⟨(dataItem x).code, assigned_dataItem x⟩
  step := o.item.encode.length
  data := match o with
    | .opcode op => if op = .op0 then some [] else none
    | .bytes x | .data x => some x

variable {o : Operation}

theorem apply_data (h : o.Accepted) (b : Builder) :
    (apply b o).data = b.data.map (· ++ o.item.encode) := by
  cases o with
  | opcode op =>
    have hlen : lengthBytes op.byte = 0 := by
      rcases h with rfl | h
      · rfl
      · have hne (code : UInt8) (hcd : code ≤ 0x4e) : op.byte ≠ code := fun heq =>
          absurd (heq ▸ h) (UInt8.not_lt.mpr hcd)
        rw [lengthBytes, if_neg (hne _ (by decide)), if_neg (hne _ (by decide)),
          if_neg (hne _ (by decide))]
    rw [item, Item.encode, hlen]
    rfl
  | bytes x =>
    have he : b.pushBytes x = b.pushData x := (if_pos h).trans (if_pos (Nat.lt_succ_of_le h.2)).symm
    rw [apply, he]
    exact pushData_data (Nat.le_trans h.2 (by decide))
  | data x => exact pushData_data h

/-- The reader gives what was pushed. -/
theorem readItem_item (h : o.Accepted) : o.item.Fits ∧ Assigned o.item.code ∧
    readItem o.item = .ok o.instruction := by
  have hdt (x : Bytes) (hx : x.length ≤ 0xffffffff) : (dataItem x).Fits ∧
      Assigned (dataItem x).code ∧ readItem (dataItem x) = .ok (data x).instruction := by
    refine ⟨dataItem_fits hx, assigned_dataItem x, ?_⟩
    rw [readItem, dif_pos (assigned_dataItem x), instructionOf, if_pos (dataItem_code_le x)]
    rfl
  cases o with
  | opcode op =>
    rcases h with rfl | h
    · exact ⟨by decide, by decide, rfl⟩
    · have hln : ¬op.byte < 0x4c := UInt8.not_lt.mpr (UInt8.le_trans (by decide) (UInt8.le_of_lt h))
      have hne : op ≠ .op0 := by
        rintro rfl
        exact absurd h (by decide)
      refine ⟨?_, op.assigned, ?_⟩
      · rw [item, Item.Fits, if_neg hln]
        exact Nat.pow_pos (by decide)
      · have hps : ¬op.byte ≤ 0x4e := UInt8.not_le.mpr h
        simp only [readItem, item, op.assigned, dif_pos, instructionOf, hps, if_false,
          instruction, hne]
  | bytes x => exact hdt x (Nat.le_trans h.2 (by decide))
  | data x => exact hdt x h

theorem item_code_eq_iff : o.item.code = opCodeSeparator.byte ↔ o = .opcode .opCodeSeparator := by
  have hps (x : Bytes) : (dataItem x).code ≠ opCodeSeparator.byte := fun heq =>
    absurd (heq ▸ dataItem_code_le x) (by decide)
  cases o with
  | opcode op =>
    obtain ⟨code, hcd⟩ := op
    simp [item, opCodeSeparator]
  | bytes x => simp [item, hps x]
  | data x => simp [item, hps x]

end Operation

/-- The loop leaves out the separators among the items that are left. -/
theorem withoutSeparatorsFrom_items {script : Bytes} {is : List Item} {n pos : ℕ}
    (his : ∀ i ∈ is, i.Fits ∧ Assigned i.code) (hdr : script.drop pos = is.flatMap Item.encode)
    (hn : script.length ≤ pos + n) : withoutSeparatorsFrom script n pos =
      (is.filter (·.code ≠ opCodeSeparator.byte)).flatMap Item.encode := by
  induction is generalizing pos n with
  | nil =>
    have hend : script.length ≤ pos := by simpa using hdr
    cases n with
    | zero => rfl
    | succ n => exact if_pos hend
  | cons i is ih =>
    obtain ⟨⟨hft, hasg⟩, his⟩ := forall_mem_cons.mp his
    rw [flatMap_cons] at hdr
    have hlen := congrArg List.length hdr
    have hst : 1 ≤ i.encode.length := Nat.succ_pos _
    rw [length_drop, length_append] at hlen
    obtain ⟨n, rfl⟩ := Nat.exists_eq_add_one.mpr (show 0 < n by omega)
    have hr := ih his (n := n) (drop_of_encode hdr) (by omega)
    rw [withoutSeparatorsFrom, if_neg (by omega), instructionAt_of_encode hft hasg hdr]
    by_cases hcd : i.code = opCodeSeparator.byte
    · simp [instructionOf, hcd, opCodeSeparator, hr]
    · have hop : (instructionOf i hasg).opcode ≠ .opCodeSeparator := fun heq =>
        hcd (congrArg byte heq)
      rw [filter_cons_of_pos (by simpa using hcd), flatMap_cons, ← hr]
      dsimp only
      rw [if_pos hop, hdr]
      exact congrArg (· ++ _) take_left

/-- The script of a sequence of calls. -/
def build (ops : List Operation) : Option Bytes := (ops.foldl Operation.apply .default).intoScript

theorem build_eq {ops : List Operation} (h : ∀ o ∈ ops, o.Accepted) :
    build ops = some ((ops.map Operation.item).flatMap Item.encode) := by
  have hfl (b : Builder) : (ops.foldl Operation.apply b).data =
      b.data.map (· ++ (ops.map Operation.item).flatMap Item.encode) := by
    induction ops generalizing b with
    | nil => simp
    | cons o ops ih =>
      rw [foldl_cons, ih fun o ho => h o (mem_cons_of_mem _ ho),
        Operation.apply_data (h o mem_cons_self), Option.map_map]
      simp [Function.comp_def]
  exact hfl .default

/-- **Built scripts are read back**: the reader gives the opcodes and the data that were pushed, its
steps add up to the length, and the separators that are left out are those that were pushed. -/
theorem build_reads_back (ops : List Operation) (h : ∀ o ∈ ops, o.Accepted) :
    ∃ script, build ops = some script ∧
      iter script = ops.map (fun o => .ok o.instruction) ∧
      (ops.map (·.instruction.step)).sum = script.length ∧
      build (ops.filter (· ≠ .opcode .opCodeSeparator)) = some (withoutSeparators script) := by
  have hit : ∀ i ∈ ops.map Operation.item, i.Fits ∧ Assigned i.code := by
    intro i hi
    obtain ⟨o, ho, rfl⟩ := List.mem_map.mp hi
    obtain ⟨hft, hasg, -⟩ := Operation.readItem_item (h o ho)
    exact ⟨hft, hasg⟩
  obtain ⟨tail, hl, htl⟩ := @iter_items [] _ (fun i hi => (hit i hi).1) fun i hi => (hit i hi).2
  rw [hl rfl, append_nil, append_nil, List.map_map] at htl
  refine ⟨_, build_eq h, ?_, ?_, ?_⟩
  · rw [htl]
    exact map_congr_left fun o ho => (Operation.readItem_item (h o ho)).2.2
  · rw [length_flatMap, List.map_map]
    rfl
  · rw [build_eq fun o ho => h o (mem_of_mem_filter ho), withoutSeparators,
      withoutSeparatorsFrom_items hit drop_zero (by omega), List.filter_map]
    simp only [Function.comp_def, ne_eq, Operation.item_code_eq_iff]

/-- A separator is left out, and a pushed byte that looks like one is not. -/
theorem withoutSeparators_keeps_data :
    (build [.opcode .opCodeSeparator, .data [0xab]]).map withoutSeparators =
      build [.data [0xab]] := by
  obtain ⟨script, hbl, -, -, hwt⟩ :=
    build_reads_back [.opcode .opCodeSeparator, .data [0xab]] (by simp [Operation.Accepted]; decide)
  rw [hbl]
  exact hwt.symm

end CheetahDex.Script
