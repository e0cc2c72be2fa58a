import StellarDidCredit.Circuit.ScoreCircuit
import Mathlib.Algebra.BigOperators.Fin

/-!
# Openings of a commitment

The commitment is a linear form of the fields plus the blinding, so for any fields there is
exactly one blinding that opens it to them.
-/

namespace StellarDidCredit.Circuit

variable {sha256 : List UInt8 → List UInt8} {domainSeparator : List UInt8} {a : Assignment}

/-- The fields, each with its coefficient. -/
def linearForm (sha256 : List UInt8 → List UInt8) (domainSeparator : List UInt8)
    (fields : Fin commitFields → Fr) : Fr := ∑ i, coefficient sha256 domainSeparator i * fields i

/-- A loop that adds a term for each index adds their sum. -/
theorem foldl_add_eq_sum {n : ℕ} (f : Fin n → Fr) :
    (List.finRange n).foldl (fun acc i => acc + f i) 0 = ∑ i, f i := by
  have hloop (l : List (Fin n)) (acc : Fr) : l.foldl (fun acc i => acc + f i) acc = acc + (l.map f).sum := by
    induction l generalizing acc with
    | nil => simp
    | cons i l ih => rw [List.foldl_cons, ih, List.map_cons, List.sum_cons, add_assoc]
  rw [hloop, zero_add, Fin.sum_univ_def]

/-- A commitment is the linear form plus the blinding. -/
theorem commit_eq (fields : Fin commitFields → Fr) (blinding : Fr) :
    commit sha256 domainSeparator fields blinding = linearForm sha256 domainSeparator fields + blinding := by
  rw [commit, foldl_add_eq_sum, linearForm]

/-- The circuit adds up the same commitment. -/
theorem commitmentSum_eq : a.commitmentSum sha256 = commit sha256 circuitDomain a.fields a.blinding := by
  rw [commit_eq, Assignment.commitmentSum, foldl_add_eq_sum, linearForm]
  simp only [mul_comm]

/-- The commitment constraint opens the public commitment to the committed fields. -/
theorem commitmentConstraint_iff : CommitmentConstraint sha256 a ↔
    a.commitment = commit sha256 circuitDomain a.fields a.blinding := by
  rw [CommitmentConstraint, commitmentSum_eq, eq_comm]

/-- Any fields open any commitment, with the blinding that makes up the difference. -/
theorem commit_openable (commitment : Fr) (fields : Fin commitFields → Fr) :
    commit sha256 domainSeparator fields (commitment - linearForm sha256 domainSeparator fields) =
      commitment := by
  rw [commit_eq, add_sub_cancel]

/-- The assignment opens the commitment with that blinding. -/
def Assignment.openTo (sha256 : List UInt8 → List UInt8) (a : Assignment) (commitment : Fr) : Assignment :=
  { a with commitment, blinding := commitment - linearForm sha256 circuitDomain a.fields }

/-- A commitment with the witness values behind it satisfies its constraint. -/
theorem commitmentConstraint_openTo (commitment : Fr) :
    CommitmentConstraint sha256 (a.openTo sha256 commitment) := by
  rw [commitmentConstraint_iff]
  exact (commit_openable commitment a.fields).symm

/-! ## Main result -/

/-- No domain separator makes the commitment binding: any fields open any commitment, and any
score satisfies the commitment constraint for any public commitment. -/
theorem commitment_not_binding (sha256 : List UInt8 → List UInt8) (domainSeparator : List UInt8) :
    (¬∀ fields blinding fields' blinding', commit sha256 domainSeparator fields blinding =
      commit sha256 domainSeparator fields' blinding' → fields = fields') ∧
    ∀ (commitment : Fr) (score : BitVec 32), ∃ a : Assignment, a.commitment = commitment ∧ a.score = score ∧
      CommitmentConstraint sha256 a := by
  constructor
  · intro hbinding
    have hopen := hbinding 0 _ 1 _ ((commit_openable 0 0).trans (commit_openable 0 1).symm)
    have hfield : (0 : Fr) = 1 := congrFun hopen 0
    exact absurd hfield (by decide)
  · intro commitment score
    let zero : ScorePublicInputs :=
      { threshold := 0, subject := 0, creditOracleId := 0, scoreCommitment := 0, snapshotLedger := 0,
        domainSeparator := 0 }
    let claimed : Assignment := { assign none zero with score }
    exact ⟨claimed.openTo sha256 commitment, rfl, rfl, commitmentConstraint_openTo commitment⟩

/-- The commitment to the score 300 also opens to the score 850. -/
theorem not_binding_circuitDomain : ∃ fields fields' : Fin commitFields → Fr, fields ≠ fields' ∧
    fields 0 = 300 ∧ fields' 0 = 850 ∧ ∀ sha256, ∃ blinding blinding',
      commit sha256 circuitDomain fields blinding = commit sha256 circuitDomain fields' blinding' := by
  refine ⟨![300, 0, 0, 0, 0, 0, 0, 0], ![850, 0, 0, 0, 0, 0, 0, 0], ?_, rfl, rfl, fun sha256 => ?_⟩
  · intro hsame
    have hscore : (300 : Fr) = 850 := congrFun hsame 0
    exact absurd hscore (by decide)
  · exact ⟨_, _, (commit_openable 0 _).trans (commit_openable 0 _).symm⟩

end StellarDidCredit.Circuit
