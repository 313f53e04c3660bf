import Lidar.Decoder.Family
import Lidar.Proofs.Decoder.Walk
import Lidar.Proofs.Wire.Sections

namespace Lidar

/-- The tests of a packet that parses: a calibration is loaded, it covers the channels that the
packet needs, and the buffers have room for its points. -/
def Test.ofDecoding (calibrated : Bool) (needed loaded capacity room : Nat) : List Test :=
  [⟨calibrated, .notCalibrated⟩,
    ⟨needed ≤ loaded, .channelMismatch needed loaded⟩,
    ⟨capacity ≤ room, .outputTooSmall capacity room⟩]

namespace Buffers

/-- Buffers of the same sizes that differ in the first `n` points at most. -/
structure SameBehind (n : Nat) (a b : Buffers) : Prop where
  cartesianSize : a.cartesian.size = b.cartesian.size
  sphericalSize : a.spherical.size = b.spherical.size
  cartesian : ∀ i, n ≤ i → a.cartesian[i]? = b.cartesian[i]?
  spherical : ∀ i, n ≤ i → a.spherical[i]? = b.spherical[i]?

theorem sameBehind_overwrite {b : Buffers} {points : List Point} (h : points.length ≤ b.room) :
    SameBehind points.length (b.overwrite points) b := by
  have sizes := size_overwrite h
  have kept {α : Type} (front : List α) (old : Array α) (size : front.length = points.length)
      (i : Nat) (hi : points.length ≤ i) :
      (front.toArray ++ old.extract points.length old.size)[i]? = old[i]? := by
    rw [Array.getElem?_append_right (by rwa [List.size_toArray, size]), Array.getElem?_extract,
      List.size_toArray, size, Nat.add_sub_cancel' hi, Nat.min_self]
    split
    · rfl
    · exact (Array.getElem?_eq_none (by omega)).symm
  exact ⟨sizes.1, sizes.2, kept _ _ (List.length_map _), kept _ _ (List.length_map _)⟩

end Buffers

/-- The packet that bytes stand for if they pass the tests of parsing. -/
def Format.packetOf {Tail : Type} (f : Format Tail) (b : Bytes) : Packet Tail :=
  { bytes := b, header := .ofBytes b, format := f }

theorem Format.parse_eq_ok_packetOf_iff {Tail : Type} {f : Format Tail} {b : Bytes} :
    f.parse b = .ok (f.packetOf b) ↔ ∀ t ∈ f.tests b, t.passed = true := by
  rw [parse_eq_guarded, Test.guarded, ← Test.complaint?_eq_none_iff]
  cases Test.complaint? (f.tests b) with
  | none => exact ⟨fun _ => rfl, fun _ => rfl⟩
  | some reason =>
    constructor
    · intro parsed
      cases parsed
    · intro nothing
      cases nothing

namespace Family

variable {Tail Tables : Type} {f : Family Tail Tables} {s : State Tables} {packet : Bytes}
  {needed loaded : Nat}

/-- The decoder's tables cover `loaded` channels, and the packet needs `needed` of them. -/
def Needs (f : Family Tail Tables) (s : State Tables) (packet : Bytes) (needed loaded : Nat) :
    Prop :=
  ∀ c, f.correction? s.tables = some c →
    c.needed (.ofBytes packet) = needed ∧ c.elevations.size = loaded

def tests (f : Family Tail Tables) (s : State Tables) (packet : Bytes) (needed loaded room : Nat) :
    List Test :=
  f.format.tests packet ++
    Test.ofDecoding (f.isCalibrated s) needed loaded (Header.ofBytes packet).capacity room

theorem admission_eq_guarded (needs : f.Needs s packet needed loaded) (room : Nat) :
    f.admission s packet room = Test.guarded (f.tests s packet needed loaded room)
      (((f.correction? s.tables).map fun c => (f.format.packetOf packet, c)).elim
        (.error .notCalibrated) .ok) := by
  rw [admission, Format.parse_eq_guarded, Test.guarded_bind, tests, Test.guarded_append]
  congr 1
  simp only [bind, Except.bind, Test.ofDecoding]
  cases loadedTables : f.correction? s.tables with
  | none =>
    have calibrated : f.isCalibrated s = false := by rw [isCalibrated, loadedTables]; rfl
    rw [Test.guarded_cons_of_failed calibrated]
    rfl
  | some c =>
    obtain ⟨hneeded, hloaded⟩ := needs c loadedTables
    have calibrated : f.isCalibrated s = true := by rw [isCalibrated, loadedTables]; rfl
    dsimp only
    rw [Test.guarded_cons_of_passed calibrated, hneeded, hloaded]
    by_cases covered : needed ≤ loaded
    · rw [Test.guarded_cons_of_passed (decide_eq_true covered), if_neg (Nat.not_lt.2 covered)]
      by_cases roomy : (Header.ofBytes packet).capacity ≤ room
      · rw [Test.guarded_cons_of_passed (decide_eq_true roomy), if_neg (Nat.not_lt.2 roomy)]
        rfl
      · rw [Test.guarded_cons_of_failed (decide_eq_false roomy), if_pos (Nat.not_le.1 roomy)]
        rfl
    · rw [Test.guarded_cons_of_failed (decide_eq_false covered), if_pos (Nat.not_le.1 covered)]
      rfl

/-- What is left to test once a packet parses and a calibration is loaded. -/
theorem admission_of_parsed {k : Correction Tail}
    (parsed : f.format.parse packet = .ok (f.format.packetOf packet))
    (loaded : f.correction? s.tables = some k) (room : Nat) :
    f.admission s packet room =
      if k.elevations.size < k.needed (.ofBytes packet) then
        .error (.channelMismatch (k.needed (.ofBytes packet)) k.elevations.size)
      else if room < (Header.ofBytes packet).capacity then
        .error (.outputTooSmall (Header.ofBytes packet).capacity room)
      else .ok (f.format.packetOf packet, k) := by
  have header : (f.format.packetOf packet).header = .ofBytes packet := rfl
  rw [admission, parsed, loaded]
  simp only [bind, Except.bind, header]
  split_ifs <;> rfl

theorem decode_of_refused (needs : f.Needs s packet needed loaded) {out : Buffers}
    {reason : Rejection}
    (refused : Test.complaint? (f.tests s packet needed loaded out.room) = some reason) :
    f.decode s packet out = (.rejected reason, s, out) := by
  rw [decode, admission_eq_guarded needs, Test.guarded, refused]

/-- What is known of an admitted packet: the correction that is loaded for it, its contents, and
that there are channels and room enough. -/
structure Admitted (f : Family Tail Tables) (s : State Tables) (packet : Bytes) (room : Nat)
    (c : Correction Tail) (contents : Contents Tail) : Prop where
  loaded : f.correction? s.tables = some c
  read : (f.format.packetOf packet).contents? = some contents
  covered : c.needed (.ofBytes packet) ≤ c.elevations.size
  roomy : (Header.ofBytes packet).capacity ≤ room

variable {c : Correction Tail} {contents : Contents Tail} {out : Buffers}

theorem exists_admitted (lawful : f.format.Lawful) (needs : f.Needs s packet needed loaded)
    (passed : Test.complaint? (f.tests s packet needed loaded out.room) = none) :
    ∃ c contents, f.Admitted s packet out.room c contents := by
  have each := Test.complaint?_eq_none_iff.1 passed
  simp only [tests, Format.tests, Test.ofDecoding, List.forall_mem_append, List.forall_mem_cons,
    decide_eq_true_eq] at each
  obtain ⟨⟨-, -, complete, -⟩, calibrated, covered, roomy, -⟩ := each
  obtain ⟨c, loaded⟩ := Option.isSome_iff_exists.1 calibrated
  obtain ⟨hneeded, hloaded⟩ := needs c loaded
  have whole : (f.format.packetOf packet).Complete := complete
  obtain ⟨contents, read⟩ := Option.isSome_iff_exists.1 (whole.contents?_isSome lawful)
  exact ⟨c, contents, loaded, read, by rwa [hneeded, hloaded], roomy⟩

namespace Admitted

variable {room : Nat} (admitted : f.Admitted s packet room c contents)

include admitted

theorem counts : contents.blocks.length = (Header.ofBytes packet).blockCount ∧
    ∀ b i, (b, i) ∈ contents.blocks.zipIdx →
      b.returns.length = (Header.ofBytes packet).laserCount := by
  obtain ⟨blocks, returns⟩ :=
    Packet.counts_of_blocks? (Packet.contents?_eq_some_iff.1 admitted.read).1
  exact ⟨blocks, fun b i listed => returns b (List.fst_mem_of_mem_zipIdx listed)⟩

theorem scan_eq : f.scan s.splitter (f.format.packetOf packet) c = do
    let scan ← Scan.run f.angles (Header.ofBytes packet).distanceScale
      (c.aim (.ofBytes packet) contents.tail) contents.blocks.zipIdx s.splitter
    return (contents, scan) := by
  rw [scan, admitted.read]
  rfl

end Admitted

variable (needs : f.Needs s packet needed loaded)
  (passed : Test.complaint? (f.tests s packet needed loaded out.room) = none)
  (admitted : f.Admitted s packet out.room c contents)

include needs passed admitted

theorem admission_of_passed :
    f.admission s packet out.room = .ok (f.format.packetOf packet, c) := by
  rw [admission_eq_guarded needs, Test.guarded, passed, admitted.loaded]
  rfl

/-- If every return of an admitted packet has a direction, its points are made, and nothing else
changes but the frame in progress and the motion. -/
theorem decode_of_aimed
    (aimed : Aimed (c.aim (.ofBytes packet) contents.tail) contents.blocks.zipIdx) :
    ∃ report splitter motion out',
      f.decode s packet out = (.accepted report, { s with splitter, motion }, out') ∧
        report.lasers = (Header.ofBytes packet).lasers ∧ out'.SameBehind report.pointCount out := by
  obtain ⟨blocks, returns⟩ := admitted.counts
  cases walked : Scan.run f.angles (Header.ofBytes packet).distanceScale
      (c.aim (.ofBytes packet) contents.tail) contents.blocks.zipIdx s.splitter with
  | error fault =>
    obtain ⟨b, i, listed, a, aim, j, hj, failed⟩ := Scan.run_error walked
    obtain ⟨d, directed⟩ := aimed b i listed a aim j hj
    rw [directed] at failed
    cases failed
  | ok scan =>
    have fits : scan.points.length ≤ out.room := by
      refine Nat.le_trans ((Scan.run_ok walked).2 _ returns) ?_
      rw [List.length_zipIdx, blocks, Nat.mul_comm]
      exact admitted.roomy
    refine ⟨f.report (.ofBytes packet) c contents scan, scan.splitter, f.motion contents.tail,
      out.overwrite scan.points, ?_, rfl, Buffers.sameBehind_overwrite fits⟩
    rw [decode, admission_of_passed needs passed admitted]
    dsimp only
    rw [admitted.scan_eq, walked]
    rfl

/-- Otherwise the packet ends with the fault of a return that has no direction. -/
theorem decode_of_not_aimed
    (lost : ¬Aimed (c.aim (.ofBytes packet) contents.tail) contents.blocks.zipIdx) :
    ∃ b i a j fault, (b, i) ∈ contents.blocks.zipIdx ∧
      c.aim (.ofBytes packet) contents.tail i b = some a ∧ j < b.returns.length ∧
      a.direction j = .error fault ∧ (f.decode s packet out).1 = .aborted fault := by
  cases walked : Scan.run f.angles (Header.ofBytes packet).distanceScale
      (c.aim (.ofBytes packet) contents.tail) contents.blocks.zipIdx s.splitter with
  | ok scan => exact absurd (Scan.run_ok walked).1 lost
  | error fault =>
    obtain ⟨b, i, listed, a, aim, j, hj, failed⟩ := Scan.run_error walked
    refine ⟨b, i, a, j, fault, listed, aim, hj, failed, ?_⟩
    rw [decode, admission_of_passed needs passed admitted]
    dsimp only
    rw [admitted.scan_eq, walked]
    rfl

end Family

end Lidar
