import Lidar.Decoder.Scan
import Lidar.Proofs.Except

namespace Lidar

/-- Every return of every aimed block has a direction. -/
def Aimed (aim : Nat → Block → Option Aim) (blocks : List (Block × Nat)) : Prop :=
  ∀ b i, (b, i) ∈ blocks → ∀ a, aim i b = some a →
    ∀ j < b.returns.length, ∃ d, a.direction j = .ok d

namespace Block

variable {angles : AngleTable} {scale : Float32} {direction : Nat → Except Fault Direction}
  {b : Block}

theorem points_ok {points : List Point} (h : b.points angles scale direction = .ok points) :
    points.length = b.returns.length ∧ ∀ j < b.returns.length, ∃ d, direction j = .ok d := by
  have each := mapM_eq_ok_iff.1 h
  constructor
  · rw [← each.length_eq, List.length_zipIdx]
  · intro j hj
    have found : j < b.returns.zipIdx.length := by rwa [List.length_zipIdx]
    have point := each.get found (by rwa [← each.length_eq])
    rw [List.get_eq_getElem, List.getElem_zipIdx, Nat.zero_add] at point
    obtain ⟨d, directed, -⟩ := bind_eq_ok_iff.1 point
    exact ⟨d, directed⟩

theorem points_error {fault : Fault} (h : b.points angles scale direction = .error fault) :
    ∃ j < b.returns.length, direction j = .error fault := by
  obtain ⟨⟨r, j⟩, listed, failed⟩ := exists_of_mapM_eq_error h
  have stands := List.mem_zipIdx_iff_getElem?.1 listed
  refine ⟨j, ?_, ?_⟩
  · exact (List.getElem?_eq_some_iff.1 stands).1
  · rcases bind_eq_error_iff.1 failed with directed | ⟨d, -, made⟩
    · exact directed
    · cases made

end Block

namespace Scan

variable {angles : AngleTable} {scale : Float32} {aim : Nat → Block → Option Aim}
  {blocks : List (Block × Nat)} {splitter : Splitter}

theorem run_passed {b : Block} {i : Nat} (h : aim i b = none) :
    run angles scale aim ((b, i) :: blocks) splitter = run angles scale aim blocks splitter := by
  rw [run, h]

theorem run_aimed {b : Block} {i : Nat} {a : Aim} (h : aim i b = some a) :
    run angles scale aim ((b, i) :: blocks) splitter = do
      let points ← b.points angles scale a.direction
      let later ← run angles scale aim blocks (splitter.update b.azimuth).2
      return {
        points := points ++ later.points
        complete := (splitter.update b.azimuth).1 || later.complete
        splitter := later.splitter
        azimuths := some (Bounds.insert a.azimuth later.azimuths) } := by
  rw [run, h]

theorem run_error {fault : Fault} (h : run angles scale aim blocks splitter = .error fault) :
    ∃ b i, (b, i) ∈ blocks ∧ ∃ a, aim i b = some a ∧
      ∃ j < b.returns.length, a.direction j = .error fault := by
  induction blocks generalizing splitter with
  | nil => cases h
  | cons block rest ih =>
    obtain ⟨b, i⟩ := block
    have behind {splitter : Splitter} (failed : run angles scale aim rest splitter = .error fault) :
        ∃ b' i', (b', i') ∈ (b, i) :: rest ∧ ∃ a, aim i' b' = some a ∧
          ∃ j < b'.returns.length, a.direction j = .error fault := by
      obtain ⟨b', i', listed, found⟩ := ih failed
      exact ⟨b', i', List.mem_cons_of_mem _ listed, found⟩
    cases aimed : aim i b with
    | none =>
      rw [run_passed aimed] at h
      exact behind h
    | some a =>
      rw [run_aimed aimed] at h
      rcases bind_eq_error_iff.1 h with here | ⟨points, -, h⟩
      · exact ⟨b, i, List.mem_cons_self, a, aimed, Block.points_error here⟩
      · rcases bind_eq_error_iff.1 h with later | ⟨scan, -, made⟩
        · exact behind later
        · cases made

theorem run_ok {scan : Scan} (h : run angles scale aim blocks splitter = .ok scan) :
    Aimed aim blocks ∧ ∀ n, (∀ b i, (b, i) ∈ blocks → b.returns.length = n) →
      scan.points.length ≤ blocks.length * n := by
  induction blocks generalizing splitter scan with
  | nil =>
    obtain rfl := Except.ok.inj h
    exact ⟨fun b i listed => absurd listed List.not_mem_nil, fun n _ => Nat.zero_le _⟩
  | cons block rest ih =>
    obtain ⟨b, i⟩ := block
    have longer (n : Nat) : ((b, i) :: rest).length * n = n + rest.length * n := by
      rw [List.length_cons, Nat.succ_mul, Nat.add_comm]
    cases aimed : aim i b with
    | none =>
      rw [run_passed aimed] at h
      obtain ⟨directed, short⟩ := ih h
      constructor
      · intro b' i' listed a ha
        rcases List.mem_cons.1 listed with same | listed
        · cases same
          rw [aimed] at ha
          cases ha
        · exact directed b' i' listed a ha
      · intro n size
        have := short n fun b' i' listed => size b' i' (List.mem_cons_of_mem _ listed)
        rw [longer]
        omega
    | some a =>
      rw [run_aimed aimed] at h
      obtain ⟨points, here, h⟩ := bind_eq_ok_iff.1 h
      obtain ⟨later, behind, made⟩ := bind_eq_ok_iff.1 h
      obtain rfl := Except.ok.inj made
      obtain ⟨count, directions⟩ := Block.points_ok here
      obtain ⟨directed, short⟩ := ih behind
      constructor
      · intro b' i' listed a' ha
        rcases List.mem_cons.1 listed with same | listed
        · cases same
          rw [aimed] at ha
          obtain rfl := Option.some.inj ha
          exact directions
        · exact directed b' i' listed a' ha
      · intro n size
        have := short n fun b' i' listed => size b' i' (List.mem_cons_of_mem _ listed)
        have := size b i List.mem_cons_self
        rw [longer, List.length_append]
        omega

end Scan

end Lidar
