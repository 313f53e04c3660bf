import Lidar.Proofs.Decoder.FrameState
import Lidar.Proofs.Decoder.History

namespace Lidar

section Walk

variable {angles : AngleTable} {scale : Float32} {aim : Nat → Block → Option Aim}
  {blocks : List (Block × Nat)}

theorem length_pointsOf {aimed : List (Block × Aim)} {points : List Point} {n : Nat}
    (h : pointsOf angles scale aimed = .ok points)
    (returns : ∀ x ∈ aimed, x.1.returns.length = n) : points.length = n * aimed.length := by
  induction aimed generalizing points with
  | nil =>
    obtain rfl := Except.ok.inj h
    rfl
  | cons x rest ih =>
    obtain ⟨b, a⟩ := x
    rw [pointsOf_cons] at h
    obtain ⟨first, here, h⟩ := bind_eq_ok_iff.1 h
    obtain ⟨later, behind, made⟩ := bind_eq_ok_iff.1 h
    obtain rfl := Except.ok.inj made
    have count : b.returns.length = n := returns _ List.mem_cons_self
    have counts := ih behind fun x hx => returns x (List.mem_cons_of_mem _ hx)
    rw [List.length_append, (Block.points_ok here).1, count, counts, List.length_cons,
      Nat.mul_succ, Nat.add_comm]

theorem fst_mem_of_mem_aimedBlocks {x : Block × Aim} (h : x ∈ aimedBlocks aim blocks) :
    x.1 ∈ blocks.map (·.1) := by
  obtain ⟨⟨b, i⟩, listed, found⟩ := List.mem_filterMap.1 h
  obtain ⟨a, -, rfl⟩ := Option.map_eq_some_iff.1 found
  exact List.mem_map.2 ⟨(b, i), listed, rfl⟩

theorem length_aimedBlocks_le : (aimedBlocks aim blocks).length ≤ blocks.length :=
  List.length_filterMap_le _ _

theorem length_aimedBlocks (all : ∀ i b, (aim i b).isSome = true) :
    (aimedBlocks aim blocks).length = blocks.length := by
  induction blocks with
  | nil => rfl
  | cons block rest ih =>
    obtain ⟨b, i⟩ := block
    obtain ⟨a, aimed⟩ := Option.isSome_iff_exists.1 (all i b)
    rw [aimedBlocks_aimed aimed, List.length_cons, List.length_cons, ih]

end Walk

namespace Family

variable {Tail Tables : Type} {f : Family Tail Tables} {tables : Tables} {packet : Bytes}
  {room : Nat} {made : Made}

/-- As many points as lasers are declared, for each block that gives points. -/
theorem length_points_of_made (h : f.made tables packet room = .ok (.ok made)) :
    made.points.length = (Header.ofBytes packet).laserCount * made.azimuths.length ∧
      made.azimuths.length ≤ (Header.ofBytes packet).blockCount ∧
      ((∀ c, f.correction? tables = some c → ∀ h tail i b, (c.aim h tail i b).isSome = true) →
        made.azimuths.length = (Header.ofBytes packet).blockCount) := by
  obtain ⟨c, contents, points, loaded, known, pointed, rfl⟩ := made_ok h
  obtain ⟨count, returns⟩ :=
    Packet.counts_of_blocks? (Packet.contents?_eq_some_iff.1 known).1
  have blocks : contents.blocks.zipIdx.length = (Header.ofBytes packet).blockCount := by
    rw [List.length_zipIdx]
    exact count
  simp only [List.length_map]
  refine ⟨?_, ?_, ?_⟩
  · apply length_pointsOf pointed
    intro x hx
    have listed := fst_mem_of_mem_aimedBlocks hx
    rw [List.zipIdx_map_fst] at listed
    exact returns x.1 listed
  · rw [← blocks]
    exact length_aimedBlocks_le
  · intro all
    rw [← blocks]
    exact length_aimedBlocks (all c loaded (.ofBytes packet) contents.tail)

theorem made_eq_guarded {s : State Tables} {needed loaded : Nat}
    (needs : f.Needs s packet needed loaded) :
    ∃ x, (∀ e, x = .error e → e = .notCalibrated) ∧
      ∀ room, f.made s.tables packet room =
        Test.guarded (f.tests s packet needed loaded room) x := by
  refine ⟨(((f.correction? s.tables).map fun c => (f.format.packetOf packet, c)).elim
    (.error .notCalibrated) .ok) >>= fun read => return f.madeOf read.1 read.2, ?_, ?_⟩
  · intro e failed
    cases loaded : f.correction? s.tables with
    | none =>
      rw [loaded] at failed
      exact (Except.error.inj failed).symm
    | some c =>
      rw [loaded] at failed
      cases failed
  · intro room
    have admission : f.admission { f.initial with tables := s.tables } packet room =
        f.admission s packet room := rfl
    rw [made, admission, admission_eq_guarded needs, Test.guarded_bind]

end Family

namespace Decoder

variable {d : Decoder} {packet : Bytes} {room room' : Nat}

theorem length_points_of_made {made : Made} (h : d.made packet room = .ok (.ok made)) :
    made.points.length ≤ (Header.ofBytes packet).capacity ∧
      (d.model ≠ .at128 → made.points.length = (Header.ofBytes packet).capacity) := by
  rw [Header.capacity]
  cases d with
  | p128 s | qt128 s =>
    obtain ⟨count, -, all⟩ := Family.length_points_of_made h
    have every : made.azimuths.length = (Header.ofBytes packet).blockCount := by
      apply all
      intro c loaded _ _ _ _
      obtain ⟨table, -, rfl⟩ := Option.map_eq_some_iff.1 loaded
      rfl
    rw [count, every]
    exact ⟨Nat.le_refl _, fun _ => rfl⟩
  | at128 s =>
    obtain ⟨count, some, -⟩ := Family.length_points_of_made h
    rw [count]
    exact ⟨Nat.mul_le_mul_left _ some, fun other => absurd rfl other⟩

theorem made_eq_guarded (d : Decoder) (packet : Bytes) :
    ∃ x, (∀ e, x = .error e → e = .notCalibrated) ∧
      ∀ room, d.made packet room = Test.guarded (d.tests packet room) x := by
  cases d with
  | p128 s => exact Family.made_eq_guarded (needs_p128 s)
  | qt128 s => exact Family.made_eq_guarded (needs_qt128 s)
  | at128 s => exact Family.made_eq_guarded (needs_at128 s)

/-- All tests of a packet but the one for room in the buffers. -/
def roomlessTests (d : Decoder) (packet : Bytes) : List Test :=
  d.model.format.tests packet ++
    [⟨d.isCalibrated, .notCalibrated⟩,
      ⟨d.neededChannels (.ofBytes packet) ≤ d.channelCount?.getD 0,
        .channelMismatch (d.neededChannels (.ofBytes packet)) (d.channelCount?.getD 0)⟩]

theorem tests_eq_append (d : Decoder) (packet : Bytes) (room : Nat) :
    d.tests packet room = d.roomlessTests packet ++
      [⟨(Header.ofBytes packet).capacity ≤ room,
        .outputTooSmall (Header.ofBytes packet).capacity room⟩] := by
  rw [tests, roomlessTests, List.append_assoc]
  rfl

/-- Enough room is as good as more. -/
theorem exists_made_of_room (d : Decoder) (packet : Bytes) :
    ∃ x, (∀ e, x = .error e → e = .notCalibrated) ∧
      ∀ room, (Header.ofBytes packet).capacity ≤ room →
        d.made packet room = Test.guarded (d.roomlessTests packet) x := by
  obtain ⟨x, uncalibrated, made⟩ := d.made_eq_guarded packet
  refine ⟨x, uncalibrated, ?_⟩
  intro room roomy
  rw [made, tests_eq_append, Test.guarded_append,
    Test.guarded_cons_of_passed (decide_eq_true roomy), Test.guarded_nil]

theorem made_congr_room (roomy : (Header.ofBytes packet).capacity ≤ room)
    (roomy' : (Header.ofBytes packet).capacity ≤ room') :
    d.made packet room = d.made packet room' := by
  obtain ⟨x, -, made⟩ := d.exists_made_of_room packet
  rw [made room roomy, made room' roomy']

theorem made_ne_outputTooSmall (roomy : (Header.ofBytes packet).capacity ≤ room)
    (needed actual : Nat) : d.made packet room ≠ .error (.outputTooSmall needed actual) := by
  obtain ⟨x, uncalibrated, made⟩ := d.exists_made_of_room packet
  intro small
  rw [made room roomy, Test.guarded] at small
  cases decided : Test.complaint? (d.roomlessTests packet) with
  | none =>
    rw [decided] at small
    cases uncalibrated _ small
  | some reason =>
    rw [decided] at small
    obtain rfl := Except.error.inj small
    obtain ⟨t, listed, complaint⟩ := Test.exists_of_complaint? decided
    simp only [roomlessTests, Format.tests, Header.tests, List.mem_append, List.mem_cons,
      List.not_mem_nil, or_false] at listed
    rcases listed with ((rfl | rfl | rfl) | rfl | rfl) | rfl | rfl <;> cases complaint

theorem capacity_eq_guarded (packet : Bytes) :
    capacity packet =
      Test.guarded (Header.tests packet) (.ok (Header.ofBytes packet).capacity) := by
  rw [capacity, Header.parse_eq_guarded, Test.guarded_bind]
  rfl

theorem capacity_of_ok {n : Nat} (h : capacity packet = .ok n) :
    n = (Header.ofBytes packet).capacity := by
  rw [capacity_eq_guarded, Test.guarded] at h
  split at h
  · cases h
  · exact (Except.ok.inj h).symm

/-- Without a header there is nothing to decode. -/
theorem decode_of_headless {reason : Rejection} (h : capacity packet = .error reason)
    (out : Buffers) : d.decode packet out = (.rejected reason, d, out) := by
  rw [capacity_eq_guarded, Test.guarded] at h
  split at h
  · next found =>
    obtain rfl := Except.error.inj h
    apply decode_of_refused
    rw [tests, Format.tests, List.append_assoc]
    exact Test.complaint?_append found _
  · cases h

end Decoder

end Lidar
