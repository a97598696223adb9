import CheetahDex.Chain.Reader
import CheetahDex.Lib.Token

/-!
# What the readers accept

The wire form of a value is a text whose numbers are compact integers: a length below 253 can be
spelled in one, three, five or nine bytes, and every reader takes all of them. `Wire` says of a type
what the text of a value is, and that its reader accepts the spellings of it and nothing else.
-/

namespace CheetahDex.Chain

open Lib Lib.Decoder

/-- A text on the wire. -/
abbrev Text := List (Token UInt8 CompactInteger)

/-- The spellings of a compact integer: in one byte, or in a word of two, four or eight bytes behind
a flag. -/
inductive CompactInteger.Spelling : CompactInteger → Bytes → Prop where
  | one (flag : UInt8) : flag ≤ 0xfc → Spelling ⟨flag.toUInt64⟩ [flag]
  | two (w : UInt16) : Spelling ⟨w.toUInt64⟩ (0xfd :: serialize w)
  | four (w : UInt32) : Spelling ⟨w.toUInt64⟩ (0xfe :: serialize w)
  | eight (w : UInt64) : Spelling ⟨w⟩ (0xff :: serialize w)

/-- The one spelling of a compact integer that is written. -/
def CompactInteger.Shortest (n : CompactInteger) (bytes : Bytes) : Prop := bytes = serialize n

open CompactInteger (Spelling Shortest)

/-- The decoder reads a value that fits from every spelling of its text, and nothing else. -/
abbrev Accepts {α : Type} (d : Decoder α) (Fits : α → Prop) (text : α → Text) : Prop :=
  ∀ {env : CoinVariant} {input : Bytes} {a : α} {rest : Bytes}, Reads d env input a rest ↔
    Fits a ∧ ∃ bytes, input = bytes ++ rest ∧ Spells Spelling (text a) bytes

/-- The text of a value, and which values are read. -/
class Wire (α : Type) [Serializable α] [Deserializable α] where
  text : α → Text
  Fits : α → Prop
  serialize_eq : ∀ a, serialize a = spell serialize (text a)
  accepts : Accepts read Fits text

open Wire (text Fits)

variable {env : CoinVariant} {input rest : Bytes}

/-! ## Integers and hashes -/

theorem reads_readLe {k x : ℕ} : Reads (readLe k) env input x rest ↔
    x < (2 ^ 8) ^ k ∧ input = leBytes k x ++ rest := by
  unfold readLe readSlice
  simp only [reads_bind, reads_next, reads_pure]
  grind [ofLeBytes_lt, leBytes_ofLeBytes, length_leBytes, ofLeBytes_leBytes_of_lt]

/-- An integer type that is read from `k` bytes. -/
theorem reads_int {α : Type} {k : ℕ} {of : ℕ → α} {value : α → ℕ} {a : α}
    (hvl : ∀ x < (2 ^ 8) ^ k, value (of x) = x) (hof : ∀ a, of (value a) = a)
    (hlt : ∀ a, value a < (2 ^ 8) ^ k) :
    Reads (do return of (← readLe k) : Decoder α) env input a rest ↔
      input = leBytes k (value a) ++ rest := by
  simp only [reads_bind, reads_readLe, reads_pure]
  constructor
  · rintro ⟨x, _, ⟨hx, rfl⟩, rfl, rfl⟩
    rw [hvl x hx]
  · rintro rfl
    exact ⟨value a, rest, ⟨hlt a, rfl⟩, hof a, rfl⟩

theorem reads_uint8 {n : UInt8} : Reads read env input n rest ↔ input = serialize n ++ rest := by
  have hbs : leBytes 1 n.toNat = [n] := by simp [leBytes]
  have h : Reads (do return .ofNat (← readLe 1) : Decoder UInt8) env input n rest ↔
      input = leBytes 1 n.toNat ++ rest :=
    reads_int (fun _ hx => UInt8.toNat_ofNat_of_lt hx) (fun _ => UInt8.ofNat_toNat) UInt8.toNat_lt
  rw [hbs] at h
  exact h

theorem reads_uint16 {n : UInt16} : Reads read env input n rest ↔ input = serialize n ++ rest :=
  reads_int (fun _ hx => UInt16.toNat_ofNat_of_lt hx) (fun _ => UInt16.ofNat_toNat) UInt16.toNat_lt

theorem reads_uint32 {n : UInt32} : Reads read env input n rest ↔ input = serialize n ++ rest :=
  reads_int (fun _ hx => UInt32.toNat_ofNat_of_lt hx) (fun _ => UInt32.ofNat_toNat) UInt32.toNat_lt

theorem reads_uint64 {n : UInt64} : Reads read env input n rest ↔ input = serialize n ++ rest :=
  reads_int (fun _ hx => UInt64.toNat_ofNat_of_lt hx) (fun _ => UInt64.ofNat_toNat) UInt64.toNat_lt

theorem reads_int32 {n : Int32} : Reads read env input n rest ↔ input = serialize n ++ rest := by
  show Reads (do return (← (read : Decoder UInt32)).toInt32 : Decoder Int32) env input n rest ↔ _
  simp only [reads_bind, reads_uint32, reads_pure]
  constructor
  · rintro ⟨x, _, rfl, rfl, rfl⟩
    rfl
  · rintro rfl
    exact ⟨n.toUInt32, rest, rfl, rfl, rfl⟩

theorem reads_int64 {n : Int64} : Reads read env input n rest ↔ input = serialize n ++ rest := by
  show Reads (do return (← (read : Decoder UInt64)).toInt64 : Decoder Int64) env input n rest ↔ _
  simp only [reads_bind, reads_uint64, reads_pure]
  constructor
  · rintro ⟨x, _, rfl, rfl, rfl⟩
    rfl
  · rintro rfl
    exact ⟨n.toUInt64, rest, rfl, rfl, rfl⟩

variable {bytes : Bytes}

theorem toList_padTo : (padTo bytes.length bytes).toList = bytes := by
  apply List.ext_getElem
  · exact Vector.length_toList
  · intro i _ h
    simp [padTo]

theorem padTo_toList {n : ℕ} (v : Vector UInt8 n) : padTo n v.toList = v := by
  apply Vector.ext
  intro i h
  simp [padTo]

theorem reads_vector {n : ℕ} {v : Vector UInt8 n} :
    Reads read env input v rest ↔ input = serialize v ++ rest := by
  show Reads (do return padTo n (← readSlice n) : Decoder (Vector UInt8 n)) env input v rest ↔ _
  unfold readSlice
  simp only [reads_bind, reads_next, reads_pure]
  constructor
  · rintro ⟨bytes, _, ⟨rfl, rfl⟩, rfl, rfl⟩
    exact congrArg (· ++ _) toList_padTo.symm
  · rintro rfl
    exact ⟨v.toList, rest, ⟨Vector.length_toList, rfl⟩, padTo_toList v, rfl⟩

/-- A type that has one spelling. -/
@[reducible]
def Wire.ofReads {α : Type} [Serializable α] [Deserializable α]
    (h : ∀ {env : CoinVariant} {input : Bytes} {a : α} {rest : Bytes},
      Reads read env input a rest ↔ input = serialize a ++ rest) : Wire α where
  text a := [.raw (serialize a)]
  Fits _ := True
  serialize_eq a := (List.append_nil _).symm
  accepts := by
    intro env input a rest
    simp [h]

instance : Wire UInt8 := .ofReads reads_uint8

instance : Wire UInt32 := .ofReads reads_uint32

instance : Wire UInt64 := .ofReads reads_uint64

instance {n : ℕ} : Wire (Vector UInt8 n) := .ofReads reads_vector

/-! ## Compact integers -/

variable {n : CompactInteger}

theorem reads_compactInteger :
    Reads read env input n rest ↔ ∃ bytes, input = bytes ++ rest ∧ Spelling n bytes := by
  show Reads (do
    let flag ← (read : Decoder UInt8)
    if flag ≤ 0xfc then return ⟨flag.toUInt64⟩
    else if flag = 0xfd then return ⟨(← (read : Decoder UInt16)).toUInt64⟩
    else if flag = 0xfe then return ⟨(← (read : Decoder UInt32)).toUInt64⟩
    else return ⟨← (read : Decoder UInt64)⟩ : Decoder CompactInteger) env input n rest ↔ _
  simp only [reads_bind, reads_uint8, reads_ite, reads_uint16, reads_uint32, reads_uint64,
    reads_pure]
  constructor
  · rintro ⟨flag, _, rfl, ⟨hfl, rfl, rfl⟩ | ⟨hbig, ⟨rfl, w, _, rfl, rfl, rfl⟩ |
      ⟨hfd, ⟨rfl, w, _, rfl, rfl, rfl⟩ | ⟨hfe, w, _, rfl, rfl, rfl⟩⟩⟩⟩
    · exact ⟨[flag], rfl, .one flag hfl⟩
    · exact ⟨0xfd :: serialize w, rfl, .two w⟩
    · exact ⟨0xfe :: serialize w, rfl, .four w⟩
    · have hff : flag = 0xff := by
        have hlt := flag.toNat_lt
        rw [UInt8.le_iff_toNat_le] at hbig
        rw [← UInt8.toNat_inj] at hfd hfe ⊢
        simp at hbig hfd hfe ⊢
        omega
      subst hff
      exact ⟨0xff :: serialize w, rfl, .eight w⟩
  · rintro ⟨bytes, rfl, hsp⟩
    cases hsp with
    | one flag hfl => exact ⟨flag, rest, rfl, .inl ⟨hfl, rfl, rfl⟩⟩
    | two w =>
      exact ⟨0xfd, serialize w ++ rest, rfl, .inr ⟨by decide, .inl ⟨rfl, w, rest, rfl, rfl, rfl⟩⟩⟩
    | four w =>
      exact ⟨0xfe, serialize w ++ rest, rfl, .inr ⟨by decide, .inr ⟨by decide,
        .inl ⟨rfl, w, rest, rfl, rfl, rfl⟩⟩⟩⟩
    | eight w =>
      exact ⟨0xff, serialize w ++ rest, rfl, .inr ⟨by decide, .inr ⟨by decide,
        .inr ⟨by decide, w, rest, rfl, rfl, rfl⟩⟩⟩⟩

theorem toUInt64_le_of_uint16 (w : UInt16) : w.toUInt64 ≤ 0xffff := by
  have := w.toNat_lt
  rw [UInt64.le_iff_toNat_le, UInt16.toNat_toUInt64]
  exact Nat.le_of_lt_succ this

theorem toUInt64_le_of_uint32 (w : UInt32) : w.toUInt64 ≤ 0xffffffff := by
  have := w.toNat_lt
  rw [UInt64.le_iff_toNat_le, UInt32.toNat_toUInt64]
  exact Nat.le_of_lt_succ this

/-- A compact integer is written in the shortest of its spellings. -/
theorem CompactInteger.Spelling.shortest (n : CompactInteger) (bytes : Bytes)
    (h : Spelling n bytes) :
    (serialize n).length ≤ bytes.length ∧
      (bytes.length ≤ (serialize n).length → bytes = serialize n) := by
  cases h with
  | one flag hfl =>
    have hle : flag.toUInt64 ≤ 0xfc := by
      rw [UInt64.le_iff_toNat_le]
      simpa [UInt8.le_iff_toNat_le] using hfl
    simp [serialize, hle]
  | two w =>
    have hle := toUInt64_le_of_uint16 w
    by_cases hone : w.toUInt64 ≤ 0xfc <;> simp [serialize, hone, hle]
  | four w =>
    have hle := toUInt64_le_of_uint32 w
    by_cases hone : w.toUInt64 ≤ 0xfc
    · simp [serialize, hone]
    · by_cases htwo : w.toUInt64 ≤ 0xffff <;> simp [serialize, hone, htwo, hle]
  | eight w =>
    by_cases hone : w ≤ 0xfc
    · simp [serialize, hone]
    · by_cases htwo : w ≤ 0xffff
      · simp [serialize, hone, htwo]
      · by_cases hfr : w ≤ 0xffffffff <;> simp [serialize, hone, htwo, hfr]

theorem CompactInteger.Spelling.ne_nil (h : Spelling n bytes) : bytes ≠ [] := by
  cases h <;> exact List.cons_ne_nil _ _

/-- What is written is a spelling. -/
theorem CompactInteger.Spelling.of_serialize (n : CompactInteger) : Spelling n (serialize n) := by
  obtain ⟨n⟩ := n
  by_cases hone : n ≤ 0xfc
  · have hfl : n.toUInt8.toUInt64 = n := by
      rw [← UInt64.toNat_inj]
      have := UInt64.le_iff_toNat_le.mp hone
      simp at this ⊢
      omega
    have h := Spelling.one n.toUInt8 (by
      rw [UInt8.le_iff_toNat_le]
      have := UInt64.le_iff_toNat_le.mp hone
      simp at this ⊢
      omega)
    simpa [serialize, hone, hfl] using h
  · by_cases htwo : n ≤ 0xffff
    · have hw : n.toUInt16.toUInt64 = n := by
        rw [← UInt64.toNat_inj]
        have := UInt64.le_iff_toNat_le.mp htwo
        simp at this ⊢
        omega
      have h := Spelling.two n.toUInt16
      rw [hw] at h
      simpa [serialize, hone, htwo] using h
    · by_cases hfr : n ≤ 0xffffffff
      · have hw : n.toUInt32.toUInt64 = n := by
          rw [← UInt64.toNat_inj]
          have := UInt64.le_iff_toNat_le.mp hfr
          simp at this ⊢
          omega
        have h := Spelling.four n.toUInt32
        rw [hw] at h
        simpa [serialize, hone, htwo, hfr] using h
      · have h := Spelling.eight n
        simpa [serialize, hone, htwo, hfr] using h

theorem CompactInteger.ofNat_asUsize (len : CompactInteger) :
    (⟨.ofNat len.asUsize⟩ : CompactInteger) = len := by
  rw [asUsize, UInt64.ofNat_toNat]

theorem CompactInteger.asUsize_ofNat {n : ℕ} (h : n < 2 ^ 64) :
    (⟨.ofNat n⟩ : CompactInteger).asUsize = n := UInt64.toNat_ofNat_of_lt h

/-! ## Texts at the front of the input -/

/-- The input begins with a spelling of the text. -/
def Stands (t : Text) (input rest : Bytes) : Prop :=
  ∃ bytes, input = bytes ++ rest ∧ Spells Spelling t bytes

section stands

variable {t s : Text}

theorem stands_iff : (∃ bytes, input = bytes ++ rest ∧ Spells Spelling t bytes) ↔
    Stands t input rest := Iff.rfl

theorem stands_nil : Stands [] input rest ↔ input = rest := by simp [Stands]

theorem stands_raw : Stands [.raw bytes] input rest ↔ input = bytes ++ rest := by simp [Stands]

theorem stands_append : Stands (t ++ s) input rest ↔
    ∃ mid, Stands t input mid ∧ Stands s mid rest := by
  simp only [Stands, spells_append]
  constructor
  · rintro ⟨_, rfl, b, c, rfl, hb, hc⟩
    exact ⟨c ++ rest, ⟨b, List.append_assoc .., hb⟩, c, rfl, hc⟩
  · rintro ⟨_, ⟨b, rfl, hb⟩, c, rfl, hc⟩
    exact ⟨b ++ c, (List.append_assoc ..).symm, b, c, rfl, hb, hc⟩

theorem stands_raw_cons : Stands (.raw bytes :: t) input rest ↔
    ∃ mid, input = bytes ++ mid ∧ Stands t mid rest := by
  rw [← List.singleton_append, stands_append]
  simp only [stands_raw]

theorem stands_number_cons (env : CoinVariant) :
    Stands (.number n :: t) input rest ↔ ∃ mid, Reads read env input n mid ∧ Stands t mid rest := by
  rw [← List.singleton_append, stands_append]
  simp only [reads_compactInteger, Stands, spells_number]

end stands

/-! ## Byte strings and lists -/

theorem reads_allocate {len size : ℕ} {u : Unit} :
    Reads (allocate len size) env input u rest ↔ len * size ≤ isizeMax ∧ input = rest := by
  unfold allocate
  simp only [reads_ite, reads_abort, and_false, reads_request, false_or, not_lt]

theorem crashes_allocate {len size : ℕ} :
    Crashes (allocate len size) env input ↔ isizeMax < len * size := by
  unfold allocate
  simp only [crashes_ite, crashes_abort, and_true, not_crashes_request, and_false, or_false]

/-- What stands behind a length, with as many elements as the length says. -/
def countedText {α : Type} (count : α → ℕ) (body : α → Text) (a : α) : Text :=
  .number ⟨.ofNat (count a)⟩ :: body a

section counted

variable {α : Type} {count : α → ℕ} {bodyText : α → Text} {Ok : α → Prop} {body : ℕ → Decoder α}
  {size : ℕ}
  (hbd : ∀ n, Accepts (body n) (fun a => count a = n ∧ Ok a) bodyText)

include hbd

theorem accepts_counted :
    Accepts (do
      let len ← (read : Decoder CompactInteger)
      allocate len.asUsize size
      body len.asUsize) (fun a => count a < 2 ^ 64 ∧ count a * size ≤ isizeMax ∧ Ok a)
    (countedText count bodyText) := by
  intro env input a rest
  have hlt (len : CompactInteger) : len.asUsize < 2 ^ 64 := len.value.toNat_lt
  simp only [reads_bind, reads_allocate, hbd, stands_iff, countedText, stands_number_cons env]
  grind [CompactInteger.ofNat_asUsize, CompactInteger.asUsize_ofNat]

theorem accepts_countedMax {max : ℕ} (hmax : max < 2 ^ 64) (hsz : max * size ≤ isizeMax) :
    Accepts (do
      let len ← (read : Decoder CompactInteger)
      if max < len.asUsize then fail .malformedData
      else do
        allocate len.asUsize size
        body len.asUsize) (fun a => count a ≤ max ∧ Ok a) (countedText count bodyText) := by
  intro env input a rest
  have hrm {n : ℕ} (h : n ≤ max) : n * size ≤ isizeMax := (Nat.mul_le_mul_right size h).trans hsz
  simp only [reads_bind, reads_allocate, reads_ite, reads_fail, and_false, false_or, not_lt, hbd,
    stands_iff, countedText, stands_number_cons env]
  grind [CompactInteger.ofNat_asUsize, CompactInteger.asUsize_ofNat]

end counted

theorem accepts_readSlice (n : ℕ) :
    Accepts (readSlice n) (fun slice => slice.length = n ∧ True) fun slice => [.raw slice] := by
  intro env input slice rest
  unfold readSlice
  simp [reads_next]

/-- The text of a byte string. -/
def bytesText : Bytes → Text := countedText List.length fun bytes => [.raw bytes]

theorem accepts_bytes :
    Accepts (read : Decoder Bytes) (fun bytes => bytes.length ≤ bytesDecodeLimit) bytesText := by
  intro env input bytes rest
  have h : Accepts (read : Decoder Bytes) _ _ :=
    accepts_countedMax accepts_readSlice (by decide : bytesDecodeLimit < 2 ^ 64)
      (by decide : bytesDecodeLimit * 1 ≤ isizeMax)
  rw [h, and_true]
  exact Iff.rfl

instance : Wire Bytes where
  text := bytesText
  Fits bytes := bytes.length ≤ bytesDecodeLimit
  serialize_eq bytes := by simp [serialize, bytesText, countedText]
  accepts := accepts_bytes

/-- What accepts an element accepts as many elements as are asked for. -/
theorem accepts_many {α : Type} {d : Decoder α} {Ok : α → Prop} {elementText : α → Text}
    (hd : Accepts d Ok elementText) (n : ℕ) :
    Accepts (many d n) (fun items => items.length = n ∧ ∀ a ∈ items, Ok a)
      (·.flatMap elementText) := by
  intro env input items rest
  induction n generalizing input items rest with
  | zero =>
    simp only [many, reads_pure, stands_iff, List.length_eq_zero_iff]
    grind [stands_nil]
  | succ n ih =>
    simp only [many, reads_bind, reads_pure, hd, ih, stands_iff]
    cases items with
    | nil => simp
    | cons a items =>
      rw [List.flatMap_cons, stands_append]
      grind

section lists

variable {α : Type} [Serializable α] [Deserializable α] [Wire α]

/-- The text of a list. -/
def listText (items : List α) : Text := countedText List.length (·.flatMap text) items

theorem serializeList_eq (items : List α) :
    serializeList items = spell serialize (listText items) := by
  unfold serializeList listText countedText
  rw [spell_number_cons]
  congr 1
  induction items with
  | nil => rfl
  | cons a items ih =>
    dsimp only at ih ⊢
    rw [List.flatMap_cons, List.flatMap_cons, spell_append, ih, Wire.serialize_eq]

theorem accepts_readList : Accepts (readList α)
    (fun items => items.length < 2 ^ 64 ∧ items.length * Deserializable.size α ≤ isizeMax ∧
      ∀ a ∈ items, Fits a) listText :=
  accepts_counted (accepts_many Wire.accepts)

theorem accepts_readListMax {max : ℕ} (hmax : max < 2 ^ 64)
    (hsz : max * Deserializable.size α ≤ isizeMax) :
    Accepts (readListMax α max) (fun items => items.length ≤ max ∧ ∀ a ∈ items, Fits a) listText :=
  accepts_countedMax (accepts_many Wire.accepts) hmax hsz

end lists

/-! ## Whole inputs -/

variable {α : Type} {d : Decoder α} {buffer : Bytes}

theorem deserialize_eq_ok {left : Bytes} {a : α} :
    (deserialize d buffer).outcome = .ok a left ↔ Reads d .standard buffer a [] ∧ left = [] := by
  show Reads (do
    let value ← d
    if ← finished then return value else fail .unreadData : Decoder α) .standard buffer a left ↔ _
  simp only [reads_bind, reads_finished, reads_ite, reads_pure, reads_fail, and_false, or_false]
  constructor
  · rintro ⟨_, rest, hd, done, _, ⟨hdn, rfl⟩, rfl, rfl, rfl⟩
    obtain rfl := List.isEmpty_iff.mp hdn
    exact ⟨hd, rfl⟩
  · rintro ⟨hd, rfl⟩
    exact ⟨a, [], hd, true, [], ⟨rfl, rfl⟩, rfl, rfl, rfl⟩

theorem deserialize_eq_crash :
    (deserialize d buffer).outcome = .crash ↔ Crashes d .standard buffer := by
  show Crashes (do
    let value ← d
    if ← finished then return value else fail .unreadData : Decoder α) .standard buffer ↔ _
  simp only [crashes_bind, not_crashes_finished, crashes_ite, not_crashes_pure, not_crashes_fail,
    and_false, or_false, exists_false]

/-- The check for left bytes requests nothing. -/
theorem requested_deserialize :
    (deserialize d buffer).requested = (d .standard buffer).requested := by
  show (andThen d (fun value => do
    if ← finished then return value else fail .unreadData) .standard buffer).requested = _
  unfold andThen
  rcases d .standard buffer with ⟨⟨_, _ | _⟩ | _ | _, _⟩ <;> rfl

/-- What is written is among the spellings that are read. -/
theorem spells_of_shortest {text : Text} (h : Spells Shortest text bytes) :
    Spells Spelling text bytes := by
  refine h.mono fun n r hn => ?_
  obtain rfl : r = serialize n := hn
  exact .of_serialize n

theorem spells_shortest_iff {text : Text} :
    Spells Shortest text bytes ↔ bytes = spell serialize text := spells_eq serialize

end CheetahDex.Chain
