import CheetahDex.Chain.Codec
import CheetahDex.Lib.BitcoinScript

/-!
# Scripts: writing and reading them

The builder appends opcodes and pushes; the reader goes through a script instruction by
instruction and stops at the first one it cannot read.
-/

namespace CheetahDex.Script

open Chain (Bytes)
open Lib

/-! ## Opcodes -/

/-- The bytes in the two gaps are not assigned. -/
def Assigned (byte : UInt8) : Prop := ¬(0xba ≤ byte ∧ byte ≤ 0xc0 ∨ 0xc5 ≤ byte)

instance (byte : UInt8) : Decidable (Assigned byte) := inferInstanceAs (Decidable (¬_))

structure Opcode where
  byte : UInt8
  assigned : Assigned byte
  deriving DecidableEq

namespace Opcode

def fromU8 (byte : UInt8) : Option Opcode := if h : Assigned byte then some ⟨byte, h⟩ else none

def op0 : Opcode := ⟨0x00, by decide⟩

def opPushBytes32 : Opcode := ⟨0x20, by decide⟩

def opPushBytes75 : Opcode := ⟨0x4b, by decide⟩

def opPushData1 : Opcode := ⟨0x4c, by decide⟩

def opPushData2 : Opcode := ⟨0x4d, by decide⟩

def opPushData4 : Opcode := ⟨0x4e, by decide⟩

def op1 : Opcode := ⟨0x51, by decide⟩

def opIf : Opcode := ⟨0x63, by decide⟩

def opElse : Opcode := ⟨0x67, by decide⟩

def opEndIf : Opcode := ⟨0x68, by decide⟩

def opReturn : Opcode := ⟨0x6a, by decide⟩

def opDrop : Opcode := ⟨0x75, by decide⟩

def opDup : Opcode := ⟨0x76, by decide⟩

def opSize : Opcode := ⟨0x82, by decide⟩

def opEqual : Opcode := ⟨0x87, by decide⟩

def opEqualVerify : Opcode := ⟨0x88, by decide⟩

def opHash160 : Opcode := ⟨0xa9, by decide⟩

def opCodeSeparator : Opcode := ⟨0xab, by decide⟩

def opCheckSig : Opcode := ⟨0xac, by decide⟩

def opCheckSigVerify : Opcode := ⟨0xad, by decide⟩

def opCheckLockTimeVerify : Opcode := ⟨0xb1, by decide⟩

end Opcode

/-! ## Writing -/

/-- `Builder`. A failed assertion leaves no bytes. -/
structure Builder where
  data : Option Bytes

namespace Builder

def default : Builder := ⟨some []⟩

variable (b : Builder)

def pushOpcode (op : Opcode) : Builder := ⟨b.data.map (· ++ [op.byte])⟩

/-- `Builder::push_bytes`: only from 1 to 75 bytes. -/
def pushBytes (bytes : Bytes) : Builder :=
  if 1 ≤ bytes.length ∧ bytes.length ≤ 75 then ⟨b.data.map (· ++ .ofNat bytes.length :: bytes)⟩
  else ⟨none⟩

/-- `Builder::push_data`: the shortest push that fits. -/
def pushData (data : Bytes) : Builder :=
  let len := data.length
  if len < Opcode.opPushData1.byte.toNat then ⟨b.data.map (· ++ .ofNat len :: data)⟩
  else if len ≤ 0xff then ⟨b.data.map (· ++ Opcode.opPushData1.byte :: .ofNat len :: data)⟩
  else if len ≤ 0xffff then ⟨b.data.map (· ++ Opcode.opPushData2.byte :: (leBytes 2 len ++ data))⟩
  else if len ≤ 0xffffffff then
    ⟨b.data.map (· ++ Opcode.opPushData4.byte :: (leBytes 4 len ++ data))⟩
  else ⟨none⟩

/-- `Builder::into_script` and `Builder::into_bytes`. -/
def intoScript : Option Bytes := b.data

def buildP2pkh (addressHash : Bytes) : Option Bytes :=
  default.pushOpcode .opDup |>.pushOpcode .opHash160 |>.pushBytes addressHash
    |>.pushOpcode .opEqualVerify |>.pushOpcode .opCheckSig |>.intoScript

def buildP2sh (addressHash : Bytes) : Option Bytes :=
  default.pushOpcode .opHash160 |>.pushBytes addressHash |>.pushOpcode .opEqual |>.intoScript

end Builder

/-! ## Reading -/

/-- `Error::BadOpcode`. -/
inductive Error where
  | badOpcode

structure Instruction where
  opcode : Opcode
  step : ℕ
  data : Option Bytes

variable (script : Bytes)

def opcodeAt (pos : ℕ) : Except Error Opcode :=
  match script[pos]?.bind Opcode.fromU8 with
  | some op => .ok op
  | none => .error .badOpcode

def range (offset len : ℕ) : Except Error Bytes :=
  if offset + len ≤ script.length then .ok ((script.drop offset).take len) else .error .badOpcode

/-- `Script::instruction_at`; `read_le_usize` of the length prefix is `ofLeBytes`. -/
def instructionAt (pos : ℕ) : Except Error Instruction := do
  let opcode ← opcodeAt script pos
  if opcode = .opPushData1 ∨ opcode = .opPushData2 ∨ opcode = .opPushData4 then
    let prefixLen := if opcode = .opPushData1 then 1 else if opcode = .opPushData2 then 2 else 4
    let lengthPrefix ← range script (pos + 1) prefixLen
    let payloadLen := ofLeBytes lengthPrefix
    let payload ← range script (pos + 1 + prefixLen) payloadLen
    return ⟨opcode, 1 + prefixLen + payloadLen, some payload⟩
  else if opcode.byte ≤ Opcode.opPushBytes75.byte then
    let n := opcode.byte.toNat
    let payload ← range script (pos + 1) n
    return ⟨opcode, 1 + n, some payload⟩
  else return ⟨opcode, 1, none⟩

/-- `Instructions::next` from a position on, at most so often: a script that cannot be read on is
given up after the error. -/
def instructionsFrom : ℕ → ℕ → List (Except Error Instruction)
  | 0, _ => []
  | n + 1, pos =>
    if script.length ≤ pos then []
    else match instructionAt script pos with
      | .ok i => .ok i :: instructionsFrom n (pos + i.step)
      | .error e => [.error e]

/-- `Script::iter`; every instruction takes at least one byte. -/
def iter : List (Except Error Instruction) := instructionsFrom script script.length 0

/-- The loop of `Script::without_separators` from a position on, at most so often. -/
def withoutSeparatorsFrom : ℕ → ℕ → Bytes
  | 0, _ => []
  | n + 1, pc =>
    if script.length ≤ pc then []
    else match instructionAt script pc with
      | .ok i =>
        (if i.opcode ≠ .opCodeSeparator then (script.drop pc).take i.step else []) ++
          withoutSeparatorsFrom n (pc + i.step)
      | .error _ => (script.drop pc).take 1 ++ withoutSeparatorsFrom n (pc + 1)

def withoutSeparators : Bytes := withoutSeparatorsFrom script script.length 0

def getInstruction (n : ℕ) : Option (Except Error Instruction) := (iter script)[n]?

end CheetahDex.Script
