import Lidar.Proofs.Decoder.Deletion
import Lidar.Proofs.Decoder.Placement

namespace Lidar

/-- An element that is passed over may be taken out. -/
theorem filterMap_eraseIdx {α β : Type} {f : α → Option β} {xs : List α} {i : Nat} {x : α}
    (found : xs[i]? = some x) (passed : f x = none) :
    (xs.eraseIdx i).filterMap f = xs.filterMap f := by
  induction xs generalizing i with
  | nil => rfl
  | cons y ys ih =>
    cases i with
    | zero =>
      obtain rfl := Option.some.inj found
      rw [List.eraseIdx_cons_zero, List.filterMap_cons_none passed]
    | succ i =>
      have rest := ih (i := i) found
      rw [List.eraseIdx_cons_succ, List.filterMap_cons, List.filterMap_cons, rest]

namespace AT128

variable {c : SweepCalibration} {packet : Bytes} {contents : Contents Tail}

/-- The aimed blocks are those in some field, whatever the header and the tail say. -/
theorem aimed_eq (c : SweepCalibration) (packet : Bytes) (contents : Contents Tail) :
    (correction c).aimed packet contents =
      contents.blocks.filterMap fun b => (aim c b).map (b, ·) :=
  aimedBlocks_zipIdx (aim c) (fun _ _ => rfl) contents.blocks

theorem map_fst_aimed (c : SweepCalibration) (packet : Bytes) (contents : Contents Tail) :
    ((correction c).aimed packet contents).map (·.1) =
      contents.blocks.filter fun b => (c.field? (blockAzimuth b)).isSome :=
  Correction.map_fst_aimed fun _ _ => Option.isSome_map

/-- A block that is kept is aimed at by its field. -/
theorem getElem?_aimed (packet : Bytes) {m : Nat} {b : Block}
    (hm : (contents.blocks.filter fun b => (c.field? (blockAzimuth b)).isSome)[m]? = some b) :
    ∃ field, c.field? (blockAzimuth b) = some field ∧
      ((correction c).aimed packet contents)[m]? = some (b, {
        azimuth := blockAzimuth b
        direction := direction c field (blockAzimuth b) }) := by
  rw [← map_fst_aimed c packet, List.getElem?_map] at hm
  obtain ⟨⟨b', a⟩, place, rfl⟩ := Option.map_eq_some_iff.1 hm
  have listed := List.mem_of_getElem? place
  rw [aimed_eq] at listed
  obtain ⟨b'', -, found⟩ := List.mem_filterMap.1 listed
  obtain ⟨a', aimed, same⟩ := Option.map_eq_some_iff.1 found
  obtain ⟨rfl, rfl⟩ := Prod.mk.inj same
  obtain ⟨field, inField, rfl⟩ := Option.map_eq_some_iff.1 aimed
  exact ⟨field, inField, place⟩

theorem direction_ok {field channel : Nat} {a : Int} {d : Direction}
    (h : direction c field a channel = .ok d) :
    c.elevationAt? channel a = some d.elevation ∧
      c.azimuthAt? channel field a = some d.azimuth := by
  rw [direction] at h
  simp only [bind_eq_ok_iff, Fault.unless_eq_ok_iff] at h
  obtain ⟨elevation, lowered, azimuth, turned, made⟩ := h
  obtain rfl := Except.ok.inj made
  exact ⟨lowered, by rw [SweepCalibration.azimuthAt?, turned]; rfl⟩

theorem reports_azimuths (c : SweepCalibration) (packet : Bytes) (contents : Contents Tail)
    (splitter : Splitter) (points : List Point) :
    ReportsBounds fineRadians
      ((contents.blocks.filter fun b => (c.field? (blockAzimuth b)).isSome).map blockAzimuth)
      (family.report (.ofBytes packet) (correction c) contents
        (Scan.ofAimed ((correction c).aimed packet contents) splitter points)).azimuths := by
  have turned (i : Nat) (b : Block) (a : Aim)
      (aim : (correction c).aim (.ofBytes packet) contents.tail i b = some a) :
      a.azimuth = blockAzimuth b := by
    obtain ⟨field, -, rfl⟩ := Option.map_eq_some_iff.1 aim
    rfl
  rw [← map_fst_aimed c packet contents]
  exact family.reports_azimuths splitter points turned

variable {s : State (Option SweepCalibration)} {out : Buffers} {points : List Point}

/-- A block outside every field is not aimed at, so without it the aimed blocks are the same. -/
theorem aimed_withoutBlock {i : Nat} {b : Block} (found : contents.blocks[i]? = some b)
    (outside : c.field? (blockAzimuth b) = none) (packet packet' : Bytes) :
    (correction c).aimed packet' { contents with blocks := contents.blocks.eraseIdx i } =
      (correction c).aimed packet contents := by
  have passed : (aim c b).map (b, ·) = none := by rw [aim, outside]; rfl
  rw [aimed_eq, aimed_eq, filterMap_eraseIdx found passed]

section

variable (decodes : family.Decodes s packet out (correction c) contents points) {i : Nat}
  {b : Block} (found : contents.blocks[i]? = some b)

include decodes found

theorem lt_blockCount_of_found : i < (Header.ofBytes packet).blockCount := by
  rw [← decodes.toAdmitted.counts.1]
  exact (List.getElem?_eq_some_iff.1 found).1

theorem header_withoutBlock :
    Header.ofBytes (format.withoutBlock packet i) = (Header.ofBytes packet).fewer := by
  obtain ⟨-, -, -, -, -, whole⟩ := Format.parse_eq_ok_iff.1 decodes.parsed
  exact Format.ofBytes_withoutBlock whole (lt_blockCount_of_found decodes found)

variable (outside : c.field? (blockAzimuth b) = none)

include outside

/-- A packet without a block that is passed over makes the same points. -/
theorem decodes_withoutBlock :
    family.Decodes s (format.withoutBlock packet i) out (correction c)
      { contents with blocks := contents.blocks.eraseIdx i } points := by
  have inside := lt_blockCount_of_found decodes found
  have header := header_withoutBlock decodes found
  obtain ⟨-, -, -, -, -, whole⟩ := Format.parse_eq_ok_iff.1 decodes.parsed
  refine ⟨⟨decodes.loaded, ?_, ?_, ?_⟩, ?_, ?_⟩
  · exact (Format.without_packetOf whole inside).contents? format_lawful format_local decodes.read
  · rw [header]
    exact decodes.covered
  · have fewer := Header.blockCount_fewer (Nat.zero_lt_of_lt inside)
    rw [header]
    exact Nat.le_trans (Nat.mul_le_mul_left _ (by omega)) decodes.roomy
  · exact Format.parse_withoutBlock decodes.parsed inside
  · rw [aimed_withoutBlock found outside packet, header]
    exact decodes.pointed

/-- The report counts one block less, and nothing else is different. -/
theorem decode_withoutBlock {report : Report} {s' : State (Option SweepCalibration)}
    {out' : Buffers} (decoded : family.decode s packet out = (.accepted report, s', out')) :
    family.decode s (format.withoutBlock packet i) out =
      (.accepted { report with blocks := report.blocks - 1 }, s', out') := by
  have without := (decodes_withoutBlock decodes found outside).decode_eq
  rw [aimed_withoutBlock found outside packet, header_withoutBlock decodes found] at without
  cases decodes.decode_eq.symm.trans decoded
  exact without

end

end AT128

namespace Decoder

theorem decode_at128 {s s' : State (Option SweepCalibration)} {packet : Bytes}
    {out out' : Buffers} {verdict : Verdict}
    (h : AT128.family.decode s packet out = (verdict, s', out')) :
    (at128 s).decode packet out = (verdict, at128 s', out') := by
  rw [decode, h]

/-- Only the blocks in some field count. They give as many points as lasers are declared for each,
close together in wire order; each return is turned by the angles that its channel has in the field
of its block, and the reported azimuths are the bounds of those blocks. So a block outside every
field may be taken out of the packet, and nothing changes but the number of blocks reported. -/
theorem kept_blocks_close_up (s : State (Option SweepCalibration)) (packet : Bytes) (out : Buffers)
    (report : Report) (accepted : ((at128 s).decode packet out).1 = .accepted report) :
    let h := Header.ofBytes packet
    let after := ((at128 s).decode packet out).2
    ∃ c contents, s.tables = some c ∧
      (AT128.format.packetOf packet).contents? = some contents ∧
      let kept := contents.blocks.filter fun b => (c.field? (AT128.blockAzimuth b)).isSome
      report.pointCount = h.laserCount * kept.length ∧
      (∀ m block, kept[m]? = some block → ∀ channel < h.laserCount,
        ∃ ret field elevation azimuth, block.returns[channel]? = some ret ∧
          c.field? (AT128.blockAzimuth block) = some field ∧
          c.elevationAt? channel (AT128.blockAzimuth block) = some elevation ∧
          c.azimuthAt? channel field (AT128.blockAzimuth block) = some azimuth ∧
          after.2.point? (m * h.laserCount + channel) = some (Point.ofPolar .fineDegree
            (ret.distance.toFloat32 * h.distanceScale) { elevation, azimuth }
            (intensity ret.reflectivity))) ∧
      ReportsBounds AT128.fineRadians (kept.map AT128.blockAzimuth) report.azimuths ∧
      ∀ i block, contents.blocks[i]? = some block →
        c.field? (AT128.blockAzimuth block) = none →
        (at128 s).decode (AT128.format.withoutBlock packet i) out =
          (.accepted { report with blocks := report.blocks - 1 }, after) := by
  intro h after
  obtain ⟨k, contents, points, decodes⟩ := Family.exists_decodes (f := AT128.family) accepted
  obtain ⟨c, loaded, rfl⟩ := Option.map_eq_some_iff.1 decodes.loaded
  obtain rfl := decodes.report_eq accepted
  have written : after.2 = out.overwrite points := decodes.buffers_eq
  refine ⟨c, contents, loaded, decodes.read, ?_, ?_, ?_, ?_⟩
  · exact decodes.length_points (AT128.map_fst_aimed c packet contents)
  · intro m block hm channel hchannel
    obtain ⟨field, inField, place⟩ := AT128.getElem?_aimed packet hm
    have count : block.returns.length = h.laserCount :=
      decodes.returns_of_aimed _ (List.mem_of_getElem? place)
    have hret := List.getElem?_eq_getElem (Nat.lt_of_lt_of_eq hchannel count.symm)
    obtain ⟨d, directed, point⟩ := decodes.point? place hret
    obtain ⟨elevation, azimuth⟩ := AT128.direction_ok directed
    refine ⟨_, field, d.elevation, d.azimuth, hret, inField, elevation, azimuth, ?_⟩
    rw [written]
    exact point
  · exact AT128.reports_azimuths c packet contents s.splitter points
  · intro i block found outside
    have without := AT128.decode_withoutBlock decodes found outside decodes.decode_eq
    rw [decode_at128 without]
    exact congrArg (Prod.mk _) (congrArg Prod.snd (decode_at128 decodes.decode_eq)).symm

/-- A calibration of one laser and one field, from 80 to 100 degrees. -/
def oneField : SweepCalibration where
  major := 4
  minor := 3
  channelNumber := 1
  facetNumber := 1
  frameNumber := 1
  frameConfig := .replicate 8 0
  resolution := 1
  fields := #[⟨2048000, 2560000⟩]
  channels := #[⟨1000, 50⟩]
  azimuthOffsets := Array.replicate 180 3
  elevationOffsets := Array.replicate 180 (-2)
  digest := .replicate 32 0

/-- Three blocks of one laser. The second block is outside the field. -/
def stripedPacket : Bytes :=
  #[0xEE, 0xFF, 4, 3, 0, 0, 1, 3, 0, 4, 1, 0,
    0x28, 0x23, 0, 1, 0, 10, 0,
    0x78, 0x69, 0, 2, 0, 20, 0,
    0x32, 0x23, 128, 3, 0, 30, 0] ++ Array.replicate 40 0

def stripedContents : Contents AT128.Tail where
  blocks := [⟨9000, 0, [⟨1, 10⟩]⟩, ⟨27000, 0, [⟨2, 20⟩]⟩, ⟨9010, 128, [⟨3, 30⟩]⟩]
  tail := {
    reserved1 := .replicate 3 0, reserved2 := .replicate 3 0, shutdownFlag := 0
    reserved3 := .replicate 3 0, reserved4 := .replicate 8 0, motorSpeed := .ofInt 0
    timestamp := 0, returnMode := 0, factoryInfo := 0, utc := .replicate 6 0 }
  sequence := none
  imu := none

theorem contents_stripedPacket :
    (AT128.format.packetOf stripedPacket).contents? = some stripedContents := by
  decide +kernel

/-- The third block makes the second point, and the second block may be taken out. -/
theorem kept_blocks_close_up_in_stripedPacket :
    let d := at128 { AT128.family.initial with tables := some oneField }
    ∃ report after, d.decode stripedPacket (.blank 3) = (.accepted report, after) ∧
      report.pointCount = 2 ∧
      after.2.point? 1 = some (Point.ofPolar .fineDegree
        ((3 : UInt16).toFloat32 * (Header.ofBytes stripedPacket).distanceScale)
        { elevation := 488, azimuth := 518094 } (intensity 30)) ∧
      d.decode (AT128.format.withoutBlock stripedPacket 1) (.blank 3) =
        (.accepted { report with blocks := report.blocks - 1 }, after) := by
  intro d
  have sound : d.Sound := by
    intro c loaded
    obtain rfl := Option.some.inj loaded
    exact ⟨by decide +kernel, by decide +kernel, by decide +kernel⟩
  have passed : Test.complaint? (d.tests stripedPacket (Buffers.blank 3).room) = none := rfl
  rcases decode_of_passed sound passed with ⟨-, accepts⟩ | ⟨unfit, -⟩
  · obtain ⟨report, splitter, motion, out', decoded, -⟩ := accepts
    have accepted : (d.decode stripedPacket (.blank 3)).1 = .accepted report := by rw [decoded]
    obtain ⟨c, contents, loaded, read, count, points, -, deletion⟩ :=
      kept_blocks_close_up _ _ _ _ accepted
    obtain rfl := Option.some.inj loaded
    obtain rfl := Option.some.inj (contents_stripedPacket.symm.trans read)
    obtain ⟨ret, field, elevation, azimuth, hret, hfield, helevation, hazimuth, point⟩ :=
      points 1 ⟨9010, 128, [⟨3, 30⟩]⟩ (by decide +kernel) 0 (by decide)
    obtain rfl := Option.some.inj hret
    have first : oneField.field? 2306688 = some 0 := by decide +kernel
    obtain rfl : 0 = field := Option.some.inj (first.symm.trans hfield)
    have lowered : oneField.elevationAt? 0 2306688 = some 488 := by decide +kernel
    obtain rfl : 488 = elevation := Option.some.inj (lowered.symm.trans helevation)
    have turned : oneField.azimuthAt? 0 0 2306688 = some 518094 := by decide +kernel
    obtain rfl : 518094 = azimuth := Option.some.inj (turned.symm.trans hazimuth)
    refine ⟨report, _, ?_, count.trans (by decide +kernel), point, ?_⟩
    · rw [← accepted]
    · exact deletion 1 ⟨27000, 0, [⟨2, 20⟩]⟩ rfl (by decide +kernel)
  · exact absurd trivial unfit

end Decoder

end Lidar
