import CheetahDex.Lib.Keyed
import CheetahDex.Lib.LeBytes
import Mathlib.Data.Nat.Digits.Defs

/-!
# Serialisation to a self-describing format

A type is serialised to a `Value`, the tree of what formats such as MessagePack can write, and a
`Format` takes values to bytes. A `Serde` is how a type is written and read; a `Codec` is one that
reads back everything it writes.

Structs are written as the array of their fields. A `Reader` takes the fields off the front of the
array, and a field with a default takes it when the array has ended.
-/

namespace CheetahDex.Lib

/-- What can be written. -/
inductive Value where
  | nil
  | bool (b : Bool)
  | int (n : ℤ)
  | str (s : String)
  | bin (bytes : List UInt8)
  | array (items : List Value)
  | map (entries : List (Value × Value))

/-- How values are written to bytes, and read from them. -/
structure Format (β : Type*) where
  write : Value → β
  read : β → Option Value
  read_write : ∀ v, read (write v) = some v

attribute [simp] Format.read_write

/-- The format that writes nothing but the value. -/
def Format.tree : Format Value := ⟨id, some, fun _ => rfl⟩

/-- How a type is written, and how it is read. -/
structure Serde (α : Type*) where
  serialize : α → Value
  deserialize : Value → Option α

/-- A type that reads back what it writes. -/
structure Codec (α : Type*) extends Serde α where
  deserialize_serialize : ∀ a, deserialize (serialize a) = some a

attribute [simp] Codec.deserialize_serialize

namespace Codec

variable {α β : Type*}

/-! ## Scalars -/

variable (c : Codec α)

/-- A type that is written as another one. -/
def via (f : β → α) (g : α → Option β) (h : ∀ b, g (f b) = some b) : Codec β where
  serialize b := c.serialize (f b)
  deserialize v := (c.deserialize v).bind g
  deserialize_serialize b := by rw [c.deserialize_serialize, Option.bind_some, h]

def bool : Codec Bool where
  serialize := .bool
  deserialize
    | .bool b => some b
    | _ => none
  deserialize_serialize _ := rfl

def int : Codec ℤ where
  serialize := .int
  deserialize
    | .int n => some n
    | _ => none
  deserialize_serialize _ := rfl

def string : Codec String where
  serialize := .str
  deserialize
    | .str s => some s
    | _ => none
  deserialize_serialize _ := rfl

def bytes : Codec (List UInt8) where
  serialize := .bin
  deserialize
    | .bin bytes => some bytes
    | _ => none
  deserialize_serialize _ := rfl

/-- An unsigned integer. -/
def nat : Codec ℕ :=
  int.via (↑) (fun n => if 0 ≤ n then some n.toNat else none) fun n => by
    rw [if_pos n.cast_nonneg, Int.toNat_natCast]

def uint8 : Codec UInt8 :=
  nat.via UInt8.toNat (fun n => if n < 2 ^ 8 then some (.ofNat n) else none) fun b => by
    rw [if_pos b.toNat_lt, UInt8.ofNat_toNat]

def uint32 : Codec UInt32 :=
  nat.via UInt32.toNat (fun n => if n < 2 ^ 32 then some (.ofNat n) else none) fun b => by
    rw [if_pos b.toNat_lt, UInt32.ofNat_toNat]

/-! ## Options and sequences -/

/-- Absence is written as nil, so the type itself must never be. -/
def option (h : ∀ a, c.serialize a ≠ .nil) : Codec (Option α) where
  serialize
    | none => .nil
    | some a => c.serialize a
  deserialize
    | .nil => some none
    | v => (c.deserialize v).map some
  deserialize_serialize
    | none => rfl
    | some a => by
      have hrd := c.deserialize_serialize a
      have hnil := h a
      cases hv : c.serialize a with
      | nil => exact absurd hv hnil
      | _ => simpa [hv] using hrd

theorem mapM_map_eq_some {f : α → β} {g : β → Option α} (h : ∀ a, g (f a) = some a) (as : List α) :
    (as.map f).mapM g = some as := by
  induction as with
  | nil => rfl
  | cons a as ih => simp [h, ih]

/-- A sequence of any length. -/
def list : Codec (List α) where
  serialize as := .array (as.map c.serialize)
  deserialize
    | .array items => items.mapM c.deserialize
    | _ => none
  deserialize_serialize as := mapM_map_eq_some c.deserialize_serialize as

/-- A sequence of a fixed length. -/
def vector (n : ℕ) : Codec (Vector α n) :=
  c.list.via Vector.toList (fun as => if h : as.length = n then some ⟨as.toArray, h⟩ else none)
    fun as => by
      rw [dif_pos as.length_toList]
      exact congrArg some (Vector.toArray_inj.1 Array.toArray_toList)

/-- Two values, one after the other. -/
def pair (d : Codec β) : Codec (α × β) where
  serialize p := .array [c.serialize p.1, d.serialize p.2]
  deserialize
    | .array [v, w] => (c.deserialize v).bind fun a => (d.deserialize w).map (a, ·)
    | _ => none
  deserialize_serialize p := by simp

/-! ## Sets and maps -/

/-- A set, in the order in which it is iterated. -/
def hashSet [DecidableEq α] (c : Codec α) (order : Iteration α) : Codec (Finset α) :=
  c.list.via order.toList (fun as => some as.toFinset) fun s => by
    rw [Option.some.injEq]
    ext a
    rw [List.mem_toFinset, order.mem_toList]

/-- A map is written as the list of its entries; a key that is read twice has its last value. -/
def hashMap [DecidableEq α] (c : Codec α) (d : Codec β) (order : Iteration α) :
    Codec (HashMap α β) where
  serialize m := .map ((order.entries m).map fun (k, v) => (c.serialize k, d.serialize v))
  deserialize
    | .map entries =>
      (entries.mapM fun (k, v) =>
        (c.deserialize k).bind fun k => (d.deserialize v).map (k, ·)).map
          (List.foldl (fun m (e : α × β) => m.insert e.1 e.2) ∅)
    | _ => none
  deserialize_serialize m := by
    simp only
    rw [mapM_map_eq_some fun e => by simp]
    simp only [Option.map_some, Option.some.injEq]
    refine Finmap.ext_lookup fun k => ?_
    rw [HashMap.lookup_foldl_insert _ _ _ (order.nodup_keys_entries m), order.lookup_entries,
      Finmap.lookup_empty, Option.or_none]

end Codec

/-! ## Structs -/

/-- Takes the fields of a struct off the front of an array. -/
abbrev Reader := StateT (List Value) Option

section Reader

variable {α : Type}

/-- A field that has to be there. -/
def Serde.field (s : Serde α) : Reader α
  | [] => none
  | v :: rest => (s.deserialize v).map (·, rest)

/-- A field that has a default. -/
def Serde.fieldD (s : Serde α) (default : α) : Reader α
  | [] => some (default, [])
  | v :: rest => (s.deserialize v).map (·, rest)

/-- A struct is read from an array that has no further elements. -/
def Reader.struct (r : Reader α) : Value → Option α
  | .array items =>
    match r.run items with
    | some (a, []) => some a
    | _ => none
  | _ => none

variable {γ : Type}

theorem Codec.run_field_bind (c : Codec α) (f : α → Reader γ) (a : α)
    (rest : List Value) : (c.field >>= f).run (c.serialize a :: rest) = (f a).run rest := by
  simp [Serde.field, StateT.run, bind, StateT.bind]

theorem Codec.run_fieldD_bind (c : Codec α) (default : α) (f : α → Reader γ) (a : α)
    (rest : List Value) :
    (c.fieldD default >>= f).run (c.serialize a :: rest) = (f a).run rest := by
  simp [Serde.fieldD, StateT.run, bind, StateT.bind]

theorem Serde.run_fieldD_bind_nil (s : Serde α) (default : α) (f : α → Reader γ) :
    (s.fieldD default >>= f).run [] = (f default).run [] := rfl

/-- A struct reads back its fields if taking them off leaves nothing. -/
theorem Reader.struct_array {r : Reader α} {items : List Value} {a : α}
    (h : r.run items = some (a, [])) : r.struct (.array items) = some a := by
  simp only [struct, h]

end Reader

/-! ## Numbers of any size -/

namespace Codec

/-- A word of whole bytes, written as its bytes, the highest first. -/
def word (c : Codec (List UInt8)) (k : ℕ) : Codec (BitVec (8 * k)) :=
  c.via (fun w => (leBytes k w.toNat).reverse)
    (fun bs => if bs.length = k then some (.ofNat (8 * k) (ofLeBytes bs.reverse)) else none)
    fun w => by
      rw [List.length_reverse, length_leBytes, if_pos rfl, List.reverse_reverse, ofLeBytes_leBytes,
        ← pow_mul, Nat.mod_eq_of_lt w.isLt, BitVec.ofNat_toNat, BitVec.setWidth_eq]

/-- The magnitude of a big integer, as digits of 32 bits, the lowest first. -/
def bigUint : Codec ℕ :=
  uint32.list.via (fun n => (Nat.digits (2 ^ 32) n).map UInt32.ofNat)
    (fun ds => some (Nat.ofDigits (2 ^ 32) (ds.map UInt32.toNat))) fun n => by
      have hdig : ∀ d ∈ Nat.digits (2 ^ 32) n, (UInt32.toNat ∘ UInt32.ofNat) d = id d := by
        intro d hd
        exact UInt32.toNat_ofNat_of_lt' (Nat.digits_lt_base (by decide) hd)
      rw [List.map_map, List.map_congr_left hdig, List.map_id, Nat.ofDigits_digits]

/-- A big integer is its sign and its magnitude. -/
def bigInt : Codec ℤ :=
  (int.pair bigUint).via (fun n => (n.sign, n.natAbs))
    (fun (sign, n) => if sign = -1 ∨ sign = 0 ∨ sign = 1 then some (sign * n) else none) fun n => by
      have hsg : n.sign = -1 ∨ n.sign = 0 ∨ n.sign = 1 := by
        have htri := n.sign_trichotomy
        tauto
      simp only [if_pos hsg, Int.sign_mul_natAbs]

/-- A ratio is its numerator and its denominator, which must not be zero. -/
def bigRational : Codec ℚ :=
  (bigInt.pair bigInt).via (fun q => (q.num, (q.den : ℤ)))
    (fun (n, d) => if d = 0 then none else some ((n : ℚ) / d)) fun q => by
      have hden : (q.den : ℤ) ≠ 0 := Int.natCast_ne_zero.2 q.den_nz
      simp only [if_neg hden, Int.cast_natCast, Rat.num_div_den]

end Codec

end CheetahDex.Lib
