import CheetahDex.Chain.Spelling
import CheetahDex.Chain.Transaction
import CheetahDex.Spv.HelpersValidation

/-!
# The lengths of inputs and outputs

The checks walk over the inputs and outputs by their lengths. The width of a length is computed from
its value, so a length that is not in its shortest form is read as if it were; and sums of lengths
wrap around. Where neither happens, what is accepted is what is written.
-/

namespace CheetahDex.Spv

open Lib Chain List CompactInteger

theorem length_compactInteger (n : CompactInteger) : (serialize n).length = n.serializedLength := by
  simp only [serialize, serializedLength]
  split_ifs <;> simp [length_leBytes]

theorem parseCompactInt_word {flag : UInt8} {k x : ℕ} (rest : Bytes) (hk : k ≠ 0)
    (hfl : dataLength flag = k) (hx : x < (2 ^ 8) ^ k) :
    parseCompactInt (flag :: (leBytes k x ++ rest)) = .ok ⟨.ofNat x⟩ := by
  simp only [parseCompactInt, hfl]
  rw [if_neg hk, if_neg (by simp [length_leBytes, Nat.add_comm]), ofLeBytes_append_zeros,
    take_left' (length_leBytes k x), ofLeBytes_leBytes_of_lt hx]

/-- Every spelling of a compact integer is read. -/
theorem parseCompactInt_spelling {n : CompactInteger} {bytes : Bytes}
    (h : CompactInteger.Spelling n bytes) (rest : Bytes) :
    parseCompactInt (bytes ++ rest) = .ok n := by
  cases h with
  | one flag hfl =>
    have hd : dataLength flag = 0 := by
      rw [UInt8.le_iff_toNat_le] at hfl
      simp only [dataLength, ← UInt8.toNat_inj]
      grind
    simp [parseCompactInt, hd]
  | two w => simpa [serialize] using parseCompactInt_word rest (by decide) rfl (k := 2) w.toNat_lt
  | four w => simpa [serialize] using parseCompactInt_word rest (by decide) rfl (k := 4) w.toNat_lt
  | eight w => simpa [serialize] using parseCompactInt_word rest (by decide) rfl (k := 8) w.toNat_lt

section

variable {α : Type} [Serializable α] {pre post : ℕ} (tooShort : SPVError)

variable (α pre post) in
/-- Values are written as a script behind its length, with fixed numbers of bytes around it. -/
def Scripted : Prop := ∀ bytes, (∃ a : α, serialize a = bytes) ↔
  ∃ x s y : Bytes, x.length = pre ∧ y.length = post ∧ bytes = x ++ (serialize s ++ y)

theorem exists_leBytes {k : ℕ} {bytes : Bytes} (h : bytes.length = k) :
    ∃ x < (2 ^ 8) ^ k, leBytes k x = bytes :=
  ⟨ofLeBytes bytes, h ▸ ofLeBytes_lt bytes, h ▸ leBytes_ofLeBytes bytes⟩

theorem scripted_input : Scripted TransactionInput 36 4 := by
  intro bytes
  constructor
  · rintro ⟨input, rfl⟩
    exact ⟨serialize input.previousOutput, input.scriptSig, serialize input.sequence,
      by simp [serialize, length_leBytes], length_leBytes _ _, append_assoc _ _ _⟩
  · rintro ⟨x, s, y, hx, hy, rfl⟩
    obtain ⟨index, hlt, hin⟩ := exists_leBytes (show (x.drop 32).length = 4 by simp [hx])
    obtain ⟨sequence, hlt', rfl⟩ := exists_leBytes hy
    refine ⟨⟨⟨⟨(x.take 32).toArray, by simp [hx]⟩, .ofNat index⟩, s, .ofNat sequence, []⟩, ?_⟩
    change ((x.take 32 ++ leBytes 4 (UInt32.ofNat index).toNat) ++ serialize s) ++
      leBytes 4 (UInt32.ofNat sequence).toNat = _
    rw [UInt32.toNat_ofNat_of_lt' hlt, UInt32.toNat_ofNat_of_lt' hlt', hin, take_append_drop,
      append_assoc]

theorem scripted_output : Scripted TransactionOutput 8 0 := by
  intro bytes
  constructor
  · rintro ⟨output, rfl⟩
    exact ⟨serialize output.value, output.scriptPubkey, [], length_leBytes _ _, rfl,
      by rw [append_nil]; rfl⟩
  · rintro ⟨x, s, y, hx, hy, rfl⟩
    obtain ⟨value, hlt, rfl⟩ := exists_leBytes hx
    refine ⟨⟨.ofNat value, s⟩, ?_⟩
    change leBytes 8 (UInt64.ofNat value).toNat ++ serialize s = _
    rw [UInt64.toNat_ofNat_of_lt' hlt, length_eq_zero_iff.mp hy, append_nil]

/-- The length of a record at the front. -/
theorem Scripted.front_iff (h : Scripted α pre post) {buf : Bytes} (hlen : buf.length < 2 ^ 64)
    {v : ℕ} : (∃ a : α, (serialize a).length = v ∧ serialize a <+: buf) ↔
      pre < buf.length ∧ v ≤ buf.length ∧ ∃ n, parseCompactInt (buf.drop pre) = .ok n ∧
        serialize n <+: buf.drop pre ∧ v = pre + post + n.serializedLength + n.asUsize := by
  constructor
  · rintro ⟨a, rfl, rest, rfl⟩
    obtain ⟨x, s, y, rfl, rfl, ha⟩ := (h _).mp ⟨a, rfl⟩
    obtain ⟨n, hn⟩ : ∃ n : CompactInteger, n = ⟨.ofNat s.length⟩ := ⟨_, rfl⟩
    have hser : serialize a = x ++ (serialize n ++ (s ++ y)) := by
      rw [ha, hn, ← append_assoc (serialize _)]
      rfl
    have hpos := length_pos_iff.mpr (CompactInteger.Spelling.of_serialize n).ne_nil
    have hs : n.asUsize = s.length := by
      rw [hn, asUsize_ofNat]
      simp only [hser, length_append] at hlen
      omega
    have hdr : (serialize a ++ rest).drop x.length = serialize n ++ (s ++ y ++ rest) := by
      rw [hser, append_assoc, drop_left, append_assoc]
    rw [hdr, length_append, hser]
    refine ⟨?_, by omega, n, parseCompactInt_spelling (.of_serialize n) _,
      prefix_append _ _, ?_⟩ <;>
      simp only [length_append, hs, ← length_compactInteger] <;> omega
  -- the record is cut out of the bytes: what is before, the script, what is after
  · rintro ⟨hpre, hv, n, hn, ⟨rest, hr⟩, rfl⟩
    have hln : buf.length = pre + n.serializedLength + rest.length := by
      have := congrArg length hr
      rw [length_append, length_compactInteger, length_drop] at this
      omega
    have hscr : serialize (rest.take n.asUsize) = serialize n ++ rest.take n.asUsize := by
      change serialize (⟨.ofNat (rest.take n.asUsize).length⟩ : CompactInteger) ++ _ = _
      rw [length_take, Nat.min_eq_left (by omega), ofNat_asUsize]
    obtain ⟨a, ha⟩ := (h _).mpr ⟨buf.take pre, rest.take n.asUsize,
      (rest.drop n.asUsize).take post, by simp; omega, by simp; omega, rfl⟩
    rw [hscr] at ha
    refine ⟨a, ?_, (rest.drop n.asUsize).drop post, ?_⟩
    · rw [ha]
      simp [length_compactInteger]
      omega
    · rw [ha]
      simp only [append_assoc, take_append_drop]
      rw [hr, take_append_drop]

/-- Along the walk every length is in its shortest form and no record it gives passes the end. -/
def Exact (vector : Bytes) (pre post : ℕ) : ℕ → ℕ → Prop
  | 0, _ => True
  | n + 1, offset => ∀ len, parseCompactInt ((vector.drop offset).drop pre) = .ok len →
      serialize len <+: (vector.drop offset).drop pre ∧
      offset + (pre + post + len.serializedLength + len.asUsize) ≤ vector.length ∧
      Exact vector pre post n (offset + (pre + post + len.serializedLength + len.asUsize))

/-- A walk that ends at the end with exact lengths has passed the records of a list. -/
theorem Scripted.walkRecords_iff (h : Scripted α pre post) {vector : Bytes}
    (hlen : vector.length < 2 ^ 64) (n : ℕ) {offset : ℕ} (hle : offset ≤ vector.length) :
    walkRecords (determineLength (pre + 1) tooShort pre (pre + post)) vector n offset =
        some vector.length ∧ Exact vector pre post n offset ↔
      ∃ items : List α, items.length = n ∧ vector.drop offset = items.flatMap serialize := by
  induction n generalizing offset with
  | zero =>
    simp [walkRecords, Exact]
    omega
  | succ n ih =>
    have hdr := length_drop (i := offset) (l := vector)
    have hfr (v) := h.front_iff (show (vector.drop offset).length < _ by omega) (v := v)
    constructor
    · rintro ⟨hwl, hexact⟩
      rw [walkRecords] at hwl
      split_ifs at hwl with hend
      split at hwl
      · rename_i v hv
        rw [determineLength] at hv
        split_ifs at hv with hsh
        split at hv
        · cases hv
        rename_i len hpr
        cases hv
        obtain ⟨hwr, hft, hexact⟩ := hexact len hpr
        obtain ⟨a, ha, tail, htl⟩ := (hfr _).mpr ⟨by omega, by omega, len, hpr, hwr, rfl⟩
        -- no sum wraps, since every record ends in the vector
        rw [usizeAdd, usizeAdd, Nat.mod_eq_of_lt (a := _ + len.asUsize) (by omega),
          Nat.mod_eq_of_lt (by omega)] at hwl
        obtain ⟨items, hcnt, hit⟩ := (ih hft).mp ⟨hwl, hexact⟩
        refine ⟨a :: items, by rw [length_cons, hcnt], ?_⟩
        rw [flatMap_cons, ← hit, ← drop_drop, ← ha, ← htl, drop_left]
      · cases hwl
    · rintro ⟨_ | ⟨a, items⟩, hcnt, hit⟩
      · cases hcnt
      rw [flatMap_cons] at hit
      obtain ⟨hpre, hft, len, hpr, hwr, hv⟩ := (hfr _).mp ⟨a, rfl, _, hit.symm⟩
      have hr : vector.drop (offset + (serialize a).length) = items.flatMap serialize := by
        rw [← drop_drop, hit, drop_left]
      obtain ⟨hwl, hexact⟩ := (ih (by omega)).mpr ⟨items, Nat.succ.inj hcnt, hr⟩
      rw [hv] at hwl hexact hft
      constructor
      · rw [walkRecords, if_neg (by omega), determineLength, if_neg (by omega), hpr]
        dsimp only
        rw [usizeAdd, usizeAdd, Nat.mod_eq_of_lt (a := _ + len.asUsize) (by omega),
          Nat.mod_eq_of_lt (by omega), hwl]
      · intro len' hlen'
        cases hpr.symm.trans hlen'
        exact ⟨hwr, by omega, hexact⟩

theorem Scripted.length_le_flatMap (h : Scripted α pre post) (items : List α) :
    items.length ≤ (items.flatMap serialize).length := by
  induction items with
  | nil => exact le_rfl
  | cons a items ih =>
    obtain ⟨x, s, y, -, -, ha⟩ := (h _).mp ⟨a, rfl⟩
    have hpos := length_pos_iff.mpr (CompactInteger.Spelling.of_serialize ⟨.ofNat s.length⟩).ne_nil
    have hs : (serialize s).length = _ + s.length := length_append
    rw [flatMap_cons, length_append, ha, length_append, length_append, hs, length_cons]
    omega

/-- Every length the check of a vector reads is in its shortest form and ends in the vector. -/
def ExactVector (pre post : ℕ) (vector : Bytes) : Prop :=
  ∀ n, parseCompactInt vector = .ok n →
    serialize n <+: vector ∧ Exact vector pre post n.asUsize n.serializedLength

/-- What is accepted with exact lengths is what is written. -/
theorem Scripted.validateVector_iff (h : Scripted α pre post) {vector : Bytes}
    (hlen : vector.length < 2 ^ 64) :
    validateVector (determineLength (pre + 1) tooShort pre (pre + post)) vector = true ∧
        ExactVector pre post vector ↔
      ∃ items : List α, items ≠ [] ∧ serializeList items = vector := by
  constructor
  · rintro ⟨hval, hexact⟩
    rw [validateVector] at hval
    split at hval
    · cases hval
    rename_i n hpr
    split_ifs at hval with hz
    obtain ⟨⟨rest, hr⟩, hwl⟩ := hexact n hpr
    have hrs' : vector.drop n.serializedLength = rest := by
      rw [← hr, ← length_compactInteger, drop_left]
    obtain ⟨items, hcnt, hit⟩ := (h.walkRecords_iff tooShort hlen n.asUsize
      (by rw [← hr, ← length_compactInteger]; simp)).mp ⟨eq_of_beq hval, hwl⟩
    refine ⟨items, ?_, ?_⟩
    · rintro rfl
      exact hz hcnt.symm
    · rw [serializeList, hcnt, ofNat_asUsize, ← hit, hrs', hr]
  · rintro ⟨items, hne, rfl⟩
    obtain ⟨n, hn⟩ : ∃ n : CompactInteger, n = ⟨.ofNat items.length⟩ := ⟨_, rfl⟩
    have hle := h.length_le_flatMap items
    -- a list has no more records than bytes, so its length does not wrap
    have hcnt : n.asUsize = items.length := by
      rw [hn, asUsize_ofNat]
      simp only [serializeList, length_append] at hlen
      omega
    have hpr : parseCompactInt (serializeList items) = .ok n := by
      rw [serializeList, ← hn]
      exact parseCompactInt_spelling (.of_serialize n) _
    have hdr : (serializeList items).drop n.serializedLength = items.flatMap serialize := by
      rw [serializeList, ← hn, ← length_compactInteger, drop_left]
    obtain ⟨hwl, hexact⟩ := (h.walkRecords_iff tooShort hlen n.asUsize (by
      rw [serializeList, ← hn, ← length_compactInteger]
      simp)).mpr ⟨items, hcnt.symm, hdr⟩
    constructor
    · rw [validateVector, hpr]
      dsimp only
      rw [if_neg (by simpa [hcnt] using hne), hwl, beq_self_eq_true]
    · intro n' hn'
      cases hpr.symm.trans hn'
      exact ⟨⟨_, by rw [serializeList, hn]⟩, hexact⟩

end

/-- What the checks refuse is not what is written, and what they accept is exactly where its lengths
are exact. -/
theorem validate_serialized_iff (vector : Bytes) (hlen : vector.length < 2 ^ 64) :
    ((validateVin vector = false →
        ¬∃ inputs : List TransactionInput, inputs ≠ [] ∧ serializeList inputs = vector) ∧
      (validateVin vector = true →
        ((∃ inputs : List TransactionInput, inputs ≠ [] ∧ serializeList inputs = vector) ↔
          ExactVector 36 4 vector))) ∧
    (validateVout vector = false →
        ¬∃ outputs : List TransactionOutput, outputs ≠ [] ∧ serializeList outputs = vector) ∧
      (validateVout vector = true →
        ((∃ outputs : List TransactionOutput, outputs ≠ [] ∧ serializeList outputs = vector) ↔
          ExactVector 8 0 vector)) := by
  have hvin := scripted_input.validateVector_iff .readOverrun hlen
  have hvt := scripted_output.validateVector_iff .malformattedOutput hlen
  rw [← hvin, ← hvt]
  constructor
  · exact ⟨fun h hex => absurd (h.symm.trans hex.1) (by decide), fun h => and_iff_right h⟩
  · exact ⟨fun h hex => absurd (h.symm.trans hex.1) (by decide), fun h => and_iff_right h⟩

/-- One input without a script behind the count `1` in three bytes: it is read from the second of
them on. -/
def longCount : Bytes := 0xfd :: 1 :: replicate 40 0

/-- One input with a script of the length `2 ^ 64 - 4`: with the rest of it the sum is `45`. -/
def wrappingScript : Bytes := 1 :: replicate 36 0 ++ 0xff :: 0xfc :: replicate 7 0xff

/-- One input without a script is taken as it is written, and refused with its last byte cut. -/
theorem oneInput_agrees :
    (validateVin (1 :: replicate 41 0) = true ∧ ExactVector 36 4 (1 :: replicate 41 0)) ∧
    validateVin (1 :: replicate 40 0) = false ∧ ¬∃ inputs : List TransactionInput,
      inputs ≠ [] ∧ serializeList inputs = 1 :: replicate 40 0 := by
  have hval : validateVin (1 :: replicate 41 0) = true := by decide +kernel
  have hcut : validateVin (1 :: replicate 40 0) = false := by decide +kernel
  refine ⟨⟨hval, ((validate_serialized_iff _ (by decide)).1.2 hval).mp ?_⟩, hcut,
    (validate_serialized_iff _ (by decide)).1.1 hcut⟩
  exact ⟨[⟨⟨.replicate 32 0, 0⟩, [], 0, []⟩], cons_ne_nil _ _, by decide +kernel⟩

theorem longCount_accepted : (validateVin longCount = true ∧
      ¬∃ inputs : List TransactionInput, inputs ≠ [] ∧ serializeList inputs = longCount) ∧
    validateVin wrappingScript = true ∧
      ¬∃ inputs : List TransactionInput, inputs ≠ [] ∧ serializeList inputs = wrappingScript := by
  refine ⟨⟨by decide +kernel, fun hsr => ?_⟩, by decide +kernel, fun hsr => ?_⟩
  · have hexact := ((scripted_input.validateVector_iff .readOverrun (by decide)).mpr hsr).2
    exact absurd (hexact ⟨1⟩ rfl).1 (by decide)
  · have hexact := ((scripted_input.validateVector_iff .readOverrun (by decide)).mpr hsr).2
    exact absurd ((hexact ⟨1⟩ rfl).2 ⟨.ofNat (2 ^ 64 - 4)⟩ rfl).2.1 (by decide)

end CheetahDex.Spv
