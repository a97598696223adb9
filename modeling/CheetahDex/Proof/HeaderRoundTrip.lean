import CheetahDex.Chain.HeaderWire
import CheetahDex.Chain.TransactionKinds

/-!
# The hash of a received header

A header is hashed by writing it again, in the shortest spellings and with the coinbase transaction
of a merged-mined block without its witnesses, so the hash is that of the received bytes only if
they came so.
-/

namespace CheetahDex.Chain

open Lib Lib.Decoder List AuxPow
open CompactInteger (Spelling Shortest)

/-! ## What is written -/

/-- A proof as it is written, if there is one. -/
def AuxPow.written : Option MergedProof → Bytes
  | none => []
  | some aux => spell serialize (aux.text false) ++ aux.parentBlockHeader.serialize

namespace BlockHeader

/-- A header is written part by part. -/
theorem serialize_parts (header : BlockHeader Transaction) :
    header.serialize = header.headBytes ++ spell Chain.serialize
    (optionText listText header.solution) ++
      written header.auxPow ++ spell Chain.serialize header.tailText := by
  have hls : ∀ field : Option (List UInt8),
      spell Chain.serialize (optionText listText field) = field.elim [] serializeList := by
    rintro (_ | items)
    · rfl
    · exact (serializeList_eq items).symm
  obtain ⟨version, _, _, _, time, _, _, _, auxPow⟩ := header
  unfold serialize
  simp only [headBytes, tailText, spell_append, hls, spell_optionText, append_assoc]
  cases auxPow with
  | none => rfl
  | some aux =>
    have htx : spell Chain.serialize (aux.coinbaseTx.text false) = Chain.serialize aux.coinbaseTx :=
      aux.coinbaseTx.serializeStripped_eq.symm
    simp only [written, text, spell_append, htx, ← Wire.serialize_eq, spell_raw_cons,
      spell_nil, append_nil, append_assoc]
    rfl

/-! ## Spellings -/

section spellings

variable {env : CoinVariant} {frames : ℕ} {header : BlockHeader Transaction} {bytes : Bytes}

/-- What is written is the one shortest spelling without envelopes. -/
theorem Spelled.eq_serialize (h : header.Spelled Shortest (· = false) env frames bytes) :
    bytes = header.serialize := by
  induction frames generalizing header bytes with
  | zero => exact h.elim
  | succ frames ih =>
    obtain ⟨_, solution, aux, tail, rfl, hsol, haux, htl⟩ := h
    have hwr : aux = written header.auxPow := by
      cases hpf : header.auxPow with
      | none =>
        rw [hpf] at haux
        exact haux
      | some proof =>
        rw [hpf] at haux
        obtain ⟨_, front, parent, rfl, _, rfl, hfr, hpar⟩ := haux
        rw [written, ← ih hpar, spells_shortest_iff.mp hfr]
    rw [serialize_parts, hwr, spells_shortest_iff.mp hsol, spells_shortest_iff.mp htl]

/-- No spelling is shorter than what is written, and one that is not longer has no longer number and
no envelope. -/
theorem Spelled.shortest (h : header.Spelled Spelling (fun _ => True) env frames bytes) :
    header.serialize.length ≤ bytes.length ∧ (bytes.length ≤ header.serialize.length →
      header.Spelled Shortest (· = false) env frames bytes) := by
  induction frames generalizing header bytes with
  | zero => exact h.elim
  | succ frames ih =>
    obtain ⟨hleg, solution, aux, tail, rfl, hsol, haux, htl⟩ := h
    have hpf : (written header.auxPow).length ≤ aux.length ∧
        (aux.length ≤ (written header.auxPow).length →
          AuxPow.Spelled Shortest (· = false) (Spelled Shortest (· = false) env frames)
            header.auxPow aux) := by
      cases hpf : header.auxPow with
      | none =>
        rw [hpf] at haux
        obtain rfl : aux = [] := haux
        exact ⟨le_rfl, fun _ => rfl⟩
      | some proof =>
        rw [hpf] at haux
        obtain ⟨envelope, front, parent, _, hpf, rfl, hfr, hpar⟩ := haux
        obtain ⟨hpa, hpr⟩ := ih hpar
        obtain ⟨hfl, hfq⟩ := hfr.shortest CompactInteger.Spelling.shortest
        simp only [written, length_append]
        cases envelope with
        | false =>
          refine ⟨by omega, fun hle => ?_⟩
          exact ⟨false, front, parent, rfl, hpf, rfl,
            spells_shortest_iff.mpr (hfq (by omega)), hpr (by omega)⟩
        | true =>
          -- an envelope makes the proof longer
          have hln := proof.coinbaseTx.length_envelope
          simp only [text, spell_append, length_append] at hfl ⊢
          exact ⟨by omega, fun hle => by omega⟩
    obtain ⟨hau, hax⟩ := hpf
    obtain ⟨hso, hsl⟩ := hsol.shortest CompactInteger.Spelling.shortest
    obtain ⟨htll, hta⟩ := htl.shortest CompactInteger.Spelling.shortest
    rw [serialize_parts]
    simp only [length_append]
    refine ⟨by omega, fun hle => ⟨hleg, solution, aux, tail, rfl, ?_, hax (by omega), ?_⟩⟩
    · exact spells_shortest_iff.mpr (hsl (by omega))
    · exact spells_shortest_iff.mpr (hta (by omega))

/-- A spelling stays one where more spellings are allowed and more parents fit. -/
theorem Spelled.mono {P P' : CompactInteger → Bytes → Prop} {E E' : Bool → Prop} {frames' : ℕ}
    (hP : ∀ n r, P n r → P' n r) (hE : ∀ envelope, E envelope → E' envelope)
    (hfs : frames ≤ frames') (h : header.Spelled P E env frames bytes) :
    header.Spelled P' E' env frames' bytes := by
  induction frames generalizing header bytes frames' with
  | zero => exact h.elim
  | succ frames ih =>
    obtain ⟨frames', rfl⟩ := Nat.exists_eq_add_of_le' hfs
    obtain ⟨hleg, solution, aux, tail, rfl, hsol, haux, htl⟩ := h
    refine ⟨hleg, solution, aux, tail, rfl, hsol.mono hP, ?_, htl.mono hP⟩
    cases hpf : header.auxPow with
    | none =>
      rw [hpf] at haux
      exact haux
    | some proof =>
      rw [hpf] at haux
      obtain ⟨envelope, front, parent, henv, hpf, rfl, hfr, hpar⟩ := haux
      exact ⟨envelope, front, parent, hE envelope henv, hpf, rfl, hfr.mono hP,
        ih (Nat.le_add_left ..) hpar⟩

end spellings

/-- The bytes are a header in the shortest spelling, whose coinbase transactions stand without a
witness envelope. -/
def Canonical (env : CoinVariant) (bytes : Bytes) : Prop :=
  ∃ (frames : ℕ) (header : BlockHeader Transaction),
    header.Spelled Shortest (· = false) env frames bytes

/-- The hash of a decoded header is that of the received bytes exactly if they are canonical. -/
theorem hash_of_received_iff (sha256 : Bytes → H256) (frames : ℕ) (env : CoinVariant)
    (received : Bytes) (header : BlockHeader Transaction)
    (hreads : Reads (deserialize frames) env received header []) :
    (header.serialize = received ∧ header.hash sha256 = dhash256 sha256 received ∧
      (RawBlockHeader.ofHeader header).digest sha256 = dhash256 sha256 received) ↔
    Canonical env received := by
  obtain ⟨bytes, heq, hsp⟩ := reads_deserialize.mp hreads
  obtain rfl : received = bytes := by rw [heq, append_nil]
  constructor
  · rintro ⟨hwr, _⟩
    exact ⟨frames, header, hsp.shortest.2 (by rw [hwr])⟩
  · rintro ⟨frames', header', hcn⟩
    -- both readings are readings with room for all parents of either, so they agree
    have hrd : Reads (deserialize (frames + frames')) env received header [] :=
      reads_deserialize.mpr ⟨received, (append_nil _).symm,
        hsp.mono (fun _ _ => id) (fun _ => id) (Nat.le_add_right ..)⟩
    have hrd' : Reads (deserialize (frames + frames')) env received header' [] :=
      reads_deserialize.mpr ⟨received, (append_nil _).symm,
        hcn.mono (by rintro n _ rfl; exact .of_serialize n) (fun _ _ => trivial)
          (Nat.le_add_left ..)⟩
    obtain ⟨rfl, _⟩ := hrd.unique hrd'
    have hwr := hcn.eq_serialize.symm
    exact ⟨hwr, congrArg _ hwr, congrArg _ hwr⟩

/-- A header of version 4 up to its solution. -/
def equihashHead : Bytes := [4, 0, 0, 0] ++ List.replicate 136 0

def equihashHeader : BlockHeader Transaction where
  version := 4
  previousHeaderHash := .replicate 32 0
  merkleRootHash := .replicate 32 0
  hashFinalSaplingRoot := some (.replicate 32 0)
  time := 0
  bits := .u32 0
  nonce := .h256 (.replicate 32 0)
  solution := some []
  auxPow := none
  progPow := none
  mtpPow := none
  isVerus := false
  hashStateRoot := none
  hashUtxoRoot := none
  prevoutStake := none
  vchBlockSigDlgt := none
  nHeight := none
  nNonceU64 := none
  mixHash := none

set_option maxRecDepth 8000 in
theorem equihashHeader_received :
    Reads (deserialize 1) .standard (equihashHead ++ [0]) equihashHeader [] ∧
    Canonical .standard (equihashHead ++ [0]) ∧ ∀ sha256 : Bytes → H256,
      equihashHeader.hash sha256 = dhash256 sha256 (equihashHead ++ [0]) := by
  have hreads : Reads (deserialize 1) .standard (equihashHead ++ [0]) equihashHeader [] := rfl
  have hwr : equihashHeader.serialize = equihashHead ++ [0] := by decide +kernel
  have hcn := (hash_of_received_iff (fun _ => .replicate 32 0) 1 _ _ _ hreads).mp
    ⟨hwr, congrArg (dhash256 _) hwr, congrArg (dhash256 _) hwr⟩
  exact ⟨hreads, hcn, fun sha256 => ((hash_of_received_iff sha256 1 _ _ _ hreads).mpr hcn).2.1⟩

set_option maxRecDepth 8000 in
/-- With the length of its solution in three bytes the same header is decoded, and its hash is that
of other bytes than the received ones. -/
theorem equihashHeader_rewritten :
    Reads (deserialize 1) .standard (equihashHead ++ [0xfd, 0, 0]) equihashHeader [] ∧
    equihashHeader.serialize ≠ equihashHead ++ [0xfd, 0, 0] := by
  refine ⟨rfl, ?_⟩
  decide +kernel

end BlockHeader

end CheetahDex.Chain
