import CheetahDex.Proof.HeaderAnswers

/-!
# The work of a chain of headers

Headers that are accepted together are linked. Their work is compared with the target of the first
one: where targets may change, a header with a lower target is accepted that does not meet it.
-/

namespace CheetahDex.Spv

open Lib Chain RawBlockHeader

variable {sha256 : Bytes → H256} {header : Header} {headers : List Header}

/-- The digest that the work of a header is in. -/
def workDigest (sha256 : Bytes → H256) (header : Header) : H256 := (ofHeader header).digest sha256

/-- The second header names the first as its parent. -/
def NamesParent (sha256 : Bytes → H256) (header next : Header) : Prop :=
  (ofHeader next).parent = workDigest sha256 header

/-- The digest of the header is below a target. -/
def WorkBelow (sha256 : Bytes → H256) (header : Header) (target : ℕ) : Prop :=
  ofLeBytes (workDigest sha256 header).toList < target

/-- The digest of the header is below the target in it. -/
def CarriesWork (sha256 : Bytes → H256) (header : Header) : Prop :=
  ∃ own, header.target = .ok own ∧ WorkBelow sha256 header own

section turns

variable {constantDifficulty first : Bool} {previousHash : H256} {target : ℕ}

/-- What one turn has checked. -/
theorem validateHeader_ok {next : H256 × ℕ}
    (h : validateHeader sha256 true constantDifficulty first previousHash target header =
      .ok next) :
    ∃ own, header.target = .ok own ∧
      next = (workDigest sha256 header, if first then own else target) ∧
      (constantDifficulty = false → own = if first then own else target) ∧
      (first = false → (ofHeader header).parent = previousHash) ∧
      WorkBelow sha256 header (if first then own else target) := by
  obtain ⟨own, hown, h⟩ := of_bind_ok h
  obtain ⟨he, h⟩ := check_bind_iff.mp h
  obtain ⟨hpar, h⟩ := check_bind_iff.mp h
  obtain ⟨hwr, h⟩ := check_bind_iff.mp h
  refine ⟨own, of_mapError_ok hown, (Except.ok.inj h).symm, fun hfl => ?_, fun hfst => ?_, ?_⟩
  · exact of_not_not fun hne => he ⟨⟨hfl, rfl⟩, hne⟩
  · exact of_not_not fun hne => hpar ⟨hfst, hne⟩
  · refine of_not_not fun hnot => hwr ⟨rfl, ?_⟩
    exact Bool.and_eq_false_iff.mpr (.inr (decide_eq_false hnot))

/-- After the first turn every header is linked, and compared with the one target. -/
theorem validateHeadersFrom_ok
    (h : validateHeadersFrom sha256 true constantDifficulty false previousHash target headers =
      .ok ()) :
    (∀ header ∈ headers.head?, (ofHeader header).parent = previousHash) ∧
      headers.IsChain (NamesParent sha256) ∧
      ∀ header ∈ headers, WorkBelow sha256 header target ∧
        ∃ own, header.target = .ok own ∧ (constantDifficulty = false → own = target) := by
  induction headers generalizing previousHash with
  | nil => exact ⟨nofun, .nil, nofun⟩
  | cons header headers ih =>
    obtain ⟨next, htu, hr⟩ := of_bind_ok h
    obtain ⟨own, hown, rfl, he, hpar, hwr⟩ := validateHeader_ok htu
    obtain ⟨hx, hch, hall⟩ := ih hr
    refine ⟨?_, List.isChain_cons.mpr ⟨hx, hch⟩, List.forall_mem_cons.mpr ⟨?_, hall⟩⟩
    · rintro _ ⟨⟩
      exact hpar rfl
    · exact ⟨hwr, own, hown, he⟩

end turns

/-- Headers with a target below that of the first one have a digest below their own. -/
def MeetsLowerTargets (sha256 : Bytes → H256) (headers : List Header) : Prop :=
  ∀ first ∈ headers.head?, ∀ header ∈ headers, ∀ target own, first.target = .ok target →
    header.target = .ok own → own < target → WorkBelow sha256 header own

/-- Headers that are accepted are linked. They carry their work if all targets are the same, and
otherwise if the ones with a lower target meet it. -/
theorem carriesWork_iff (sha256 : Bytes → H256) (constantDifficulty : Bool) (headers : List Header)
    (h : validateHeaders sha256 true constantDifficulty headers = .ok ()) :
    (headers.IsChain (NamesParent sha256) ∧ ∀ header ∈ headers, CarriesWork sha256 header) ↔
      (constantDifficulty = true → MeetsLowerTargets sha256 headers) := by
  cases headers with
  | nil => exact iff_of_true ⟨.nil, nofun⟩ fun _ => nofun
  | cons first headers =>
    obtain ⟨next, htu, hr⟩ := of_bind_ok h
    obtain ⟨target, htr, rfl, _, _, hwr⟩ := validateHeader_ok htu
    obtain ⟨hx, hch, hall⟩ := validateHeadersFrom_ok hr
    constructor
    · rintro ⟨_, hcr⟩ _ _ _ header hmem _ own _ hown _
      obtain ⟨own', hown', hbel⟩ := hcr header hmem
      cases hown.symm.trans hown'
      exact hbel
    · intro hmt
      refine ⟨List.isChain_cons.mpr ⟨hx, hch⟩, List.forall_mem_cons.mpr
        ⟨⟨target, htr, hwr⟩, fun header hmem => ?_⟩⟩
      obtain ⟨hbel, own, hown, he⟩ := hall header hmem
      refine ⟨own, hown, ?_⟩
      rcases Nat.lt_or_ge own target with hlw | hge
      · cases constantDifficulty with
        | false => exact absurd (he rfl) hlw.ne
        | true => exact hmt rfl first rfl header (.tail _ hmem) target own htr hown hlw
      · exact hbel.trans_le hge

/-- Every digest is two. -/
def twoHash : Bytes → H256 := fun _ => ⟨(2 :: List.replicate 31 0).toArray, rfl⟩

/-- A header with target five, and one after it with another target. -/
def fiveThen (target : UInt32) : List Header :=
  [{ plainHeader 1 (.replicate 32 0) with bits := .compact ⟨0x03000005⟩ },
    { plainHeader 1 (twoHash []) with bits := .compact ⟨0x03000000 + target⟩ }]

/-- A digest of two is accepted under a target of one. -/
theorem lowerTarget_accepted : validateHeaders twoHash true true (fiveThen 1) = .ok () ∧
    ¬ ∀ header ∈ fiveThen 1, CarriesWork twoHash header := by
  refine ⟨rfl, fun h => ?_⟩
  obtain ⟨own, hown, hbel⟩ := h _ (.tail _ (.head _))
  obtain rfl : 1 = own := Except.ok.inj hown
  exact absurd hbel (by decide : ¬ (2 : ℕ) < 1)

theorem sameTarget_carriesWork : validateHeaders twoHash true false (fiveThen 5) = .ok () ∧
    (fiveThen 5).IsChain (NamesParent twoHash) ∧
    ∀ header ∈ fiveThen 5, CarriesWork twoHash header := by
  have h : validateHeaders twoHash true false (fiveThen 5) = .ok () := rfl
  exact ⟨h, (carriesWork_iff twoHash false (fiveThen 5) h).mpr nofun⟩

end CheetahDex.Spv
