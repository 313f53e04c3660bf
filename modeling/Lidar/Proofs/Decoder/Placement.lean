import Lidar.Proofs.Decoder.Counts
import Lidar.Proofs.Decoder.Spinning

namespace Lidar

namespace Buffers

/-- The point at an index, if both buffers reach that far. -/
def point? (b : Buffers) (i : Nat) : Option Point := do
  return { cartesian := ← b.cartesian[i]?, spherical := ← b.spherical[i]? }

theorem point?_overwrite {b : Buffers} {points : List Point} {i : Nat} {p : Point}
    (h : points[i]? = some p) : (b.overwrite points).point? i = some p := by
  obtain ⟨inside, rfl⟩ := List.getElem?_eq_some_iff.1 h
  have front {α : Type} (f : Point → α) (old : Array α) :
      ((points.map f).toArray ++ old)[i]? = some (f points[i]) := by
    rw [Array.getElem?_append_left (by simpa using inside)]
    simp [inside]
  simp only [point?, overwrite, append, ofPoints, front]
  rfl

end Buffers

/-- The least and the greatest of some angles. -/
structure Bounds.Spans (b : Bounds) (xs : List Int) : Prop where
  least : b.least ∈ xs
  greatest : b.greatest ∈ xs
  between : ∀ x ∈ xs, b.least ≤ x ∧ x ≤ b.greatest

/-- Two angles in radians are the least and the greatest of some angles, or zero without any. -/
inductive ReportsBounds (radians : Int → Float32) : List Int → Float32 × Float32 → Prop
  | none : ReportsBounds radians [] (0, 0)
  | some {xs : List Int} {b : Bounds} (spans : b.Spans xs) :
    ReportsBounds radians xs (radians b.least, radians b.greatest)

theorem reportsBounds_ofList (radians : Int → Float32) (xs : List Int) :
    ReportsBounds radians xs (Bounds.radians radians (Bounds.ofList xs)) := by
  cases found : Bounds.ofList xs with
  | none =>
    obtain rfl := Bounds.ofList_eq_none.1 found
    exact .none
  | some b =>
    obtain ⟨least, greatest⟩ := Bounds.mem_of_ofList found
    exact .some ⟨least, greatest, Bounds.le_of_ofList found⟩

section Walk

variable {angles : AngleTable} {scale : Float32} {aim : Nat → Block → Option Aim}

/-- Each return makes the point of its number. -/
theorem Block.getElem?_points {direction : Nat → Except Fault Direction} {b : Block}
    {points : List Point} (h : b.points angles scale direction = .ok points) {j : Nat}
    {r : WireReturn} (hr : b.returns[j]? = some r) :
    ∃ d, direction j = .ok d ∧ points[j]? =
      some (Point.ofPolar angles (r.distance.toFloat32 * scale) d (intensity r.reflectivity)) := by
  obtain ⟨hj, rfl⟩ := List.getElem?_eq_some_iff.1 hr
  have each := mapM_eq_ok_iff.1 h
  have listed : j < b.returns.zipIdx.length := by rwa [List.length_zipIdx]
  have made : j < points.length := by rwa [← each.length_eq]
  have point := each.get listed made
  rw [List.get_eq_getElem, List.get_eq_getElem, List.getElem_zipIdx, Nat.zero_add] at point
  obtain ⟨d, directed, same⟩ := bind_eq_ok_iff.1 point
  refine ⟨d, directed, ?_⟩
  rw [List.getElem?_eq_getElem made, ← Except.ok.inj same]

/-- The aimed blocks stand one behind the other, each with `n` points. -/
theorem getElem?_pointsOf {aimed : List (Block × Aim)} {points : List Point} {n : Nat}
    (h : pointsOf angles scale aimed = .ok points)
    (returns : ∀ x ∈ aimed, x.1.returns.length = n) {m j : Nat} {b : Block} {a : Aim}
    {r : WireReturn} (hm : aimed[m]? = some (b, a)) (hr : b.returns[j]? = some r) :
    ∃ d, a.direction j = .ok d ∧ points[m * n + j]? =
      some (Point.ofPolar angles (r.distance.toFloat32 * scale) d (intensity r.reflectivity)) := by
  induction aimed generalizing points m with
  | nil => simp at hm
  | cons x rest ih =>
    obtain ⟨b', a'⟩ := x
    rw [pointsOf_cons] at h
    obtain ⟨first, here, h⟩ := bind_eq_ok_iff.1 h
    obtain ⟨later, behind, made⟩ := bind_eq_ok_iff.1 h
    obtain rfl := Except.ok.inj made
    have count : first.length = n :=
      (Block.points_ok here).1.trans (returns _ List.mem_cons_self)
    cases m with
    | zero =>
      obtain ⟨rfl, rfl⟩ := Prod.mk.inj (Option.some.inj hm)
      obtain ⟨d, directed, point⟩ := Block.getElem?_points here hr
      refine ⟨d, directed, ?_⟩
      obtain ⟨inside, -⟩ := List.getElem?_eq_some_iff.1 point
      rw [Nat.zero_mul, Nat.zero_add, List.getElem?_append_left inside]
      exact point
    | succ m =>
      obtain ⟨d, directed, point⟩ :=
        ih behind (fun x hx => returns x (List.mem_cons_of_mem _ hx)) hm
      refine ⟨d, directed, ?_⟩
      have place : (m + 1) * n + j - first.length = m * n + j := by
        rw [count, Nat.succ_mul]
        omega
      rw [List.getElem?_append_right (by rw [count, Nat.succ_mul]; omega), place]
      exact point

/-- If no block is passed over, the aimed blocks are the blocks. -/
theorem aimedBlocks_of_total {direct : Nat → Block → Aim}
    (total : ∀ i b, aim i b = some (direct i b)) (blocks : List (Block × Nat)) :
    aimedBlocks aim blocks = blocks.map fun block => (block.1, direct block.2 block.1) := by
  simp only [aimedBlocks, total, Option.map_some, List.filterMap_eq_map']

/-- If the block alone decides its aim, the numbers of the blocks do not matter. -/
theorem aimedBlocks_zipIdx (place : Block → Option Aim) (known : ∀ i b, aim i b = place b)
    (blocks : List Block) :
    aimedBlocks aim blocks.zipIdx = blocks.filterMap fun b => (place b).map (b, ·) := by
  conv_rhs => rw [← List.zipIdx_map_fst 0 blocks, List.filterMap_map]
  simp only [aimedBlocks, known, Function.comp_def]

end Walk

/-- The blocks of a packet that the correction aims at. -/
def Correction.aimed {Tail : Type} (c : Correction Tail) (packet : Bytes)
    (contents : Contents Tail) : List (Block × Aim) :=
  aimedBlocks (c.aim (.ofBytes packet) contents.tail) contents.blocks.zipIdx

namespace Correction

variable {Tail : Type} {c : Correction Tail} {packet : Bytes} {contents : Contents Tail}

theorem getElem?_aimed {direct : Nat → Block → Aim}
    (total : ∀ i b, c.aim (.ofBytes packet) contents.tail i b = some (direct i b)) (m : Nat) :
    (c.aimed packet contents)[m]? = (contents.blocks[m]?).map fun b => (b, direct m b) := by
  rw [aimed, aimedBlocks_of_total total, List.getElem?_map, List.getElem?_zipIdx, Option.map_map]
  simp only [Function.comp_def, Nat.zero_add]

theorem map_fst_aimed {keep : Block → Bool}
    (decides : ∀ i b, (c.aim (.ofBytes packet) contents.tail i b).isSome = keep b) :
    (c.aimed packet contents).map (·.1) = contents.blocks.filter keep := by
  rw [aimed, map_fst_aimedBlocks decides, List.zipIdx_map_fst]

end Correction

namespace Family

variable {Tail Tables : Type} {f : Family Tail Tables} {s : State Tables} {packet : Bytes}
  {out : Buffers} {c : Correction Tail} {contents : Contents Tail} {points : List Point}

/-- All that is known of an accepted packet: it is admitted, and its aimed blocks make points. -/
structure Decodes (f : Family Tail Tables) (s : State Tables) (packet : Bytes) (out : Buffers)
    (c : Correction Tail) (contents : Contents Tail) (points : List Point) : Prop
    extends f.Admitted s packet out.room c contents where
  parsed : f.format.parse packet = .ok (f.format.packetOf packet)
  pointed : pointsOf f.angles (Header.ofBytes packet).distanceScale (c.aimed packet contents) =
    .ok points

theorem admission_of_admitted (admitted : f.Admitted s packet out.room c contents)
    (parsed : f.format.parse packet = .ok (f.format.packetOf packet)) :
    f.admission s packet out.room = .ok (f.format.packetOf packet, c) := by
  rw [admission_of_parsed parsed admitted.loaded, if_neg (Nat.not_lt.2 admitted.covered),
    if_neg (Nat.not_lt.2 admitted.roomy)]

/-- The walk over an admitted packet makes the points of its aimed blocks. -/
theorem scan_of_admitted (admitted : f.Admitted s packet out.room c contents) :
    f.scan s.splitter (f.format.packetOf packet) c =
      (pointsOf f.angles (Header.ofBytes packet).distanceScale (c.aimed packet contents)).map
        fun points => (contents, Scan.ofAimed (c.aimed packet contents) s.splitter points) := by
  rw [admitted.scan_eq, Scan.run_eq]
  change (pointsOf _ _ (c.aimed packet contents) >>= _) >>= _ = _
  cases pointsOf f.angles (Header.ofBytes packet).distanceScale (c.aimed packet contents) <;> rfl

theorem exists_decodes {report : Report} (accepted : (f.decode s packet out).1 = .accepted report) :
    ∃ c contents points, f.Decodes s packet out c contents points := by
  cases admission : f.admission s packet out.room with
  | error reason =>
    rw [decode, admission] at accepted
    cases accepted
  | ok read =>
    obtain ⟨p, c⟩ := read
    obtain ⟨p', parsed, -⟩ := bind_eq_ok_iff.1 admission
    obtain rfl := Format.eq_packetOf parsed
    obtain ⟨rfl, loaded, covered, roomy⟩ := admission_ok admission
    rw [decode, admission] at accepted
    dsimp only at accepted
    cases known : (f.format.packetOf packet).contents? with
    | none =>
      rw [scan, known] at accepted
      cases accepted
    | some contents =>
      have admitted : f.Admitted s packet out.room c contents := ⟨loaded, known, covered, roomy⟩
      rw [scan_of_admitted admitted] at accepted
      cases pointed : pointsOf f.angles (Header.ofBytes packet).distanceScale
          (c.aimed packet contents) with
      | error fault =>
        rw [pointed] at accepted
        cases accepted
      | ok points => exact ⟨c, contents, points, admitted, parsed, pointed⟩

/-- The reported azimuths are the least and the greatest of the blocks that give points. -/
theorem reports_azimuths (f : Family Tail Tables) {azimuth : Block → Int}
    (splitter : Splitter) (points : List Point)
    (turned : ∀ i b a, c.aim (.ofBytes packet) contents.tail i b = some a →
      a.azimuth = azimuth b) :
    ReportsBounds f.azimuthRadians (((c.aimed packet contents).map (·.1)).map azimuth)
      (f.report (.ofBytes packet) c contents
        (Scan.ofAimed (c.aimed packet contents) splitter points)).azimuths := by
  have same : ((c.aimed packet contents).map (·.1)).map azimuth =
      (c.aimed packet contents).map (·.2.azimuth) := by
    rw [List.map_map]
    apply List.map_congr_left
    intro x hx
    obtain ⟨⟨b, i⟩, -, found⟩ := List.mem_filterMap.1 hx
    obtain ⟨a, aimed, rfl⟩ := Option.map_eq_some_iff.1 found
    exact (turned i b a aimed).symm
  rw [same]
  exact reportsBounds_ofList f.azimuthRadians _

namespace Decodes

variable (h : f.Decodes s packet out c contents points)

include h

theorem decode_eq : f.decode s packet out =
    (.accepted (f.report (.ofBytes packet) c contents
        (Scan.ofAimed (c.aimed packet contents) s.splitter points)),
      { s with
        splitter := (s.splitter.feed ((c.aimed packet contents).map (·.1.azimuth))).2
        motion := f.motion contents.tail },
      out.overwrite points) := by
  rw [decode, admission_of_admitted h.toAdmitted h.parsed]
  dsimp only
  rw [scan_of_admitted h.toAdmitted, h.pointed]
  rfl

theorem report_eq {report : Report} (accepted : (f.decode s packet out).1 = .accepted report) :
    report = f.report (.ofBytes packet) c contents
      (Scan.ofAimed (c.aimed packet contents) s.splitter points) := by
  rw [h.decode_eq] at accepted
  exact (Verdict.accepted.inj accepted).symm

theorem buffers_eq : (f.decode s packet out).2.2 = out.overwrite points := by
  rw [h.decode_eq]

theorem returns_of_aimed : ∀ x ∈ c.aimed packet contents,
    x.1.returns.length = (Header.ofBytes packet).laserCount := by
  intro x hx
  have listed := fst_mem_of_mem_aimedBlocks hx
  obtain ⟨⟨b, i⟩, found, same⟩ := List.mem_map.1 listed
  rw [← same]
  exact h.toAdmitted.counts.2 b i found

/-- As many points as lasers are declared for each aimed block. -/
theorem length_points {blocks : List Block} (aimed : (c.aimed packet contents).map (·.1) = blocks) :
    points.length = (Header.ofBytes packet).laserCount * blocks.length := by
  rw [← aimed, List.length_map]
  exact length_pointsOf h.pointed h.returns_of_aimed

/-- The point of a return stands in both buffers at the place of its block and its laser. -/
theorem point? {m j : Nat} {b : Block} {a : Aim} {r : WireReturn}
    (hm : (c.aimed packet contents)[m]? = some (b, a)) (hr : b.returns[j]? = some r) :
    ∃ d, a.direction j = .ok d ∧
      (out.overwrite points).point? (m * (Header.ofBytes packet).laserCount + j) =
        some (Point.ofPolar f.angles
          (r.distance.toFloat32 * (Header.ofBytes packet).distanceScale) d
          (intensity r.reflectivity)) := by
  obtain ⟨d, directed, point⟩ := getElem?_pointsOf h.pointed h.returns_of_aimed hm hr
  exact ⟨d, directed, Buffers.point?_overwrite point⟩

/-- There is a return for every declared block and laser. -/
theorem exists_return {i j : Nat} (hi : i < (Header.ofBytes packet).blockCount)
    (hj : j < (Header.ofBytes packet).laserCount) :
    ∃ b r, contents.blocks[i]? = some b ∧ b.returns[j]? = some r := by
  obtain ⟨count, returns⟩ := h.toAdmitted.counts
  rw [← count] at hi
  have listed : (contents.blocks[i], i) ∈ contents.blocks.zipIdx :=
    List.mem_zipIdx_iff_getElem?.2 (List.getElem?_eq_getElem hi)
  rw [← returns _ _ listed] at hj
  exact ⟨_, _, List.getElem?_eq_getElem hi, List.getElem?_eq_getElem hj⟩

variable {direct : Nat → Block → Aim}
  (total : ∀ i b, c.aim (.ofBytes packet) contents.tail i b = some (direct i b))

include total

omit h in
theorem map_fst_of_total : (c.aimed packet contents).map (·.1) = contents.blocks := by
  have all (i : Nat) (b : Block) : (c.aim (.ofBytes packet) contents.tail i b).isSome = true := by
    rw [total]
    rfl
  rw [Correction.map_fst_aimed all, List.filter_true]

theorem length_of_total : points.length =
    (Header.ofBytes packet).laserCount * (Header.ofBytes packet).blockCount := by
  rw [← h.toAdmitted.counts.1]
  exact h.length_points (map_fst_of_total total)

/-- The point of every return stands at the place of its block and its laser. -/
theorem placed_of_total {i j : Nat} (hi : i < (Header.ofBytes packet).blockCount)
    (hj : j < (Header.ofBytes packet).laserCount) :
    ∃ b r d, contents.blocks[i]? = some b ∧ b.returns[j]? = some r ∧
      (direct i b).direction j = .ok d ∧
      (out.overwrite points).point? (i * (Header.ofBytes packet).laserCount + j) =
        some (Point.ofPolar f.angles
          (r.distance.toFloat32 * (Header.ofBytes packet).distanceScale) d
          (intensity r.reflectivity)) := by
  obtain ⟨b, r, hb, hr⟩ := h.exists_return hi hj
  have place := Correction.getElem?_aimed total i
  rw [hb, Option.map_some] at place
  obtain ⟨d, directed, point⟩ := h.point? place hr
  exact ⟨b, r, d, hb, hr, directed, point⟩

end Decodes

end Family

namespace Packet

variable {Tail : Type} {p : Packet Tail} {blocks : List Block}

theorem azimuth_of_blocks? (h : p.blocks? = some blocks) {i : Nat} (hi : i < p.layout.blocks) :
    p.bytes.word16? (p.layout.blockStart i) = (blocks[i]?).map (·.azimuth) := by
  obtain ⟨count, each⟩ := mapM_range_eq_some_iff.1 h
  rw [← count] at hi
  rw [List.getElem?_eq_getElem hi, Option.map_some]
  exact (block?_eq_some_iff.1 (each i hi)).1

theorem return_of_blocks? (h : p.blocks? = some blocks) {i j : Nat} {b : Block} {r : WireReturn}
    (hb : blocks[i]? = some b) (hr : b.returns[j]? = some r) :
    p.bytes.word16? (p.layout.returnStart i j) = some r.distance ∧
      p.bytes.byte? (p.layout.returnStart i j + 2) = some r.reflectivity := by
  obtain ⟨hi, rfl⟩ := List.getElem?_eq_some_iff.1 hb
  obtain ⟨hj, rfl⟩ := List.getElem?_eq_some_iff.1 hr
  have block := (mapM_range_eq_some_iff.1 h).2 i hi
  have read := (mapM_range_eq_some_iff.1 (block?_eq_some_iff.1 block).2.2).2 j hj
  simp only [return?, Option.bind_eq_bind, Option.bind_eq_some_iff, Option.pure_def,
    Option.some.injEq] at read
  obtain ⟨distance, hd, reflectivity, hf, same⟩ := read
  rw [← same]
  exact ⟨hd, hf⟩

end Packet

/-- A direction that is known comes from the entry of its channel. -/
theorem Spinning.direction_ok {c : AngleCorrection} {blockAzimuth : UInt16} {channel : Nat}
    {d : Direction} (h : direction c blockAzimuth channel = .ok d) :
    ∃ base, c.channels[channel]? = some base ∧ d = {
      elevation := base.elevation
      azimuth := azimuthScale * blockAzimuth.toNat + base.azimuth } := by
  rw [direction] at h
  cases found : c.channels[channel]? with
  | none =>
    rw [found] at h
    cases h
  | some base =>
    rw [found] at h
    exact ⟨base, rfl, (Except.ok.inj h).symm⟩

namespace P128

/-- No block is passed over. -/
theorem aim_total (c : AngleCorrection) (packet : Bytes) (contents : Contents Tail) (i : Nat)
    (b : Block) : (correction c).aim (.ofBytes packet) contents.tail i b = some {
      azimuth := b.azimuth.toNat
      direction := Spinning.direction c b.azimuth } := rfl

theorem reports_azimuths (c : AngleCorrection) (packet : Bytes) (contents : Contents Tail)
    (splitter : Splitter) (points : List Point) :
    ReportsBounds Spinning.azimuthRadians
      ((contents.blocks.map (·.azimuth)).map fun a => (a.toNat : Int))
      (family.report (.ofBytes packet) (correction c) contents
        (Scan.ofAimed ((correction c).aimed packet contents) splitter points)).azimuths := by
  have turned (i : Nat) (b : Block) (a : Aim)
      (aim : (correction c).aim (.ofBytes packet) contents.tail i b = some a) :
      a.azimuth = b.azimuth.toNat := by
    obtain rfl := Option.some.inj (aim.symm.trans (aim_total c packet contents i b))
    rfl
  have bounds := family.reports_azimuths splitter points turned
  rw [Family.Decodes.map_fst_of_total (aim_total c packet contents)] at bounds
  rw [List.map_map]
  exact bounds

theorem reports_elevations (c : AngleCorrection) (h : Header) (contents : Contents Tail)
    (scan : Scan) :
    ReportsBounds Spinning.elevationRadians
      ((c.channels.toList.take h.laserCount).map (·.elevation))
      (family.report h (correction c) contents scan).elevations := by
  have same : (correction c).elevations.toList.take h.laserCount =
      (c.channels.toList.take h.laserCount).map (·.elevation) := by
    rw [List.map_take, ← Array.toList_map]
    rfl
  rw [← same]
  exact reportsBounds_ofList Spinning.elevationRadians _

end P128

namespace Decoder

/-- Every return of an accepted packet stands at a fixed distance behind the header, and its point
at the place that its block and its laser give. Its range and its reflectivity are the three bytes
that are read there; its direction is the calibrated one of its laser, turned by the azimuth in
front of the block. The reported bounds are those of all block azimuths, and of the elevations of
the declared lasers. -/
theorem returns_placed_by_bytes (s : State (Option AngleCorrection)) (packet : Bytes)
    (out : Buffers) (report : Report)
    (accepted : ((p128 s).decode packet out).1 = .accepted report) :
    let lasers := (packet.peek 6).toNat
    let blocks := (packet.peek 7).toNat
    let returnSize := if (Header.ofBytes packet).flags.confidence then 4 else 3
    let block (b : Nat) : Nat := 12 + b * (2 + lasers * returnSize)
    let after := ((p128 s).decode packet out).2.2
    ∃ (c : AngleCorrection) (azimuths : List UInt16), s.tables = some c ∧
      lasers ≤ c.size ∧ azimuths.length = blocks ∧
      (∀ b < blocks, packet.word16? (block b) = azimuths[b]?) ∧
      report.pointCount = lasers * blocks ∧
      (∀ b < blocks, ∀ l < lasers, ∃ azimuth distance reflectivity base,
        packet.word16? (block b) = some azimuth ∧
        packet.word16? (block b + 2 + l * returnSize) = some distance ∧
        packet.byte? (block b + 2 + l * returnSize + 2) = some reflectivity ∧
        c.channels[l]? = some base ∧
        after.point? (b * lasers + l) = some (Point.ofPolar .milliDegree
          (distance.toFloat32 * (Header.ofBytes packet).distanceScale)
          { elevation := base.elevation, azimuth := 10 * azimuth.toNat + base.azimuth }
          (intensity reflectivity))) ∧
      ReportsBounds Spinning.azimuthRadians (azimuths.map fun a => (a.toNat : Int))
        report.azimuths ∧
      ReportsBounds Spinning.elevationRadians ((c.channels.toList.take lasers).map (·.elevation))
        report.elevations := by
  intro lasers blocks returnSize block after
  obtain ⟨k, contents, points, decodes⟩ := Family.exists_decodes (f := P128.family) accepted
  obtain ⟨c, loaded, rfl⟩ := Option.map_eq_some_iff.1 decodes.loaded
  obtain rfl := decodes.report_eq accepted
  have written : after = out.overwrite points := decodes.buffers_eq
  have read : (P128.format.packetOf packet).blocks? = some contents.blocks :=
    (Packet.contents?_eq_some_iff.1 decodes.read).1
  have azimuth (b : Nat) (hb : b < blocks) :
      packet.word16? (block b) = (contents.blocks[b]?).map (·.azimuth) :=
    Packet.azimuth_of_blocks? read hb
  have total := P128.aim_total c packet contents
  refine ⟨c, contents.blocks.map (·.azimuth), loaded, ?_, ?_, ?_, ?_, ?_, ?_, ?_⟩
  · exact Nat.le_trans decodes.covered (Nat.le_of_eq Array.size_map)
  · rw [List.length_map]
    exact decodes.toAdmitted.counts.1
  · intro b hb
    rw [azimuth b hb, List.getElem?_map]
  · exact decodes.length_of_total total
  · intro b hb l hl
    obtain ⟨wire, r, d, hwire, hr, directed, point⟩ := decodes.placed_of_total total hb hl
    obtain ⟨base, known, rfl⟩ := Spinning.direction_ok directed
    obtain ⟨distance, reflectivity⟩ := Packet.return_of_blocks? read hwire hr
    refine ⟨wire.azimuth, r.distance, r.reflectivity, base, ?_, distance, reflectivity, known, ?_⟩
    · rw [azimuth b hb, hwire, Option.map_some]
    · rw [written]
      exact point
  · exact P128.reports_azimuths c packet contents s.splitter points
  · exact P128.reports_elevations c (.ofBytes packet) contents _

/-- Two blocks of two lasers with confidence bytes, which count up from block to block and from
laser to laser. -/
def countingPacket : Bytes :=
  #[0xEE, 0xFF, 1, 4, 0, 0, 2, 2, 0, 4, 1, 0x10,
    0x10, 0x27, 1, 0, 10, 99, 2, 0, 20, 99,
    0x74, 0x27, 3, 0, 30, 99, 4, 0, 40, 99] ++ Array.replicate 34 0

def twoLasers : AngleCorrection := ⟨#[⟨1000, 50⟩, ⟨-2000, -30⟩]⟩

/-- The second laser of the second block makes the fourth point. -/
theorem returns_placed_in_countingPacket :
    let d := p128 { P128.family.initial with tables := some twoLasers }
    ∃ report, (d.decode countingPacket (.blank 4)).1 = .accepted report ∧ report.pointCount = 4 ∧
      (d.decode countingPacket (.blank 4)).2.2.point? 3 = some (Point.ofPolar .milliDegree
        ((4 : UInt16).toFloat32 * (Header.ofBytes countingPacket).distanceScale)
        { elevation := -2000, azimuth := 100970 } (intensity 40)) := by
  intro d
  have parsed := (Format.parse_of_opens (f := P128.format) (b := countingPacket)
    ⟨by decide, rfl, rfl, rfl, rfl⟩).trans (if_pos (by decide))
  have plain := P128.plain_correction twoLasers (.ofBytes countingPacket)
  have roomy : (Header.ofBytes countingPacket).capacity ≤ (Buffers.blank 4).room := by decide
  obtain ⟨contents, scan, -, -, decoded⟩ := Family.decode_of_covered (f := P128.family)
    (s := { P128.family.initial with tables := some twoLasers })
    (p := P128.format.packetOf countingPacket) P128.format_lawful parsed rfl plain roomy (by decide)
  have accepted := congrArg Prod.fst (decode_p128 decoded)
  obtain ⟨c, azimuths, loaded, -, -, -, count, points, -⟩ :=
    returns_placed_by_bytes _ _ _ _ accepted
  obtain rfl := Option.some.inj loaded
  refine ⟨_, accepted, count, ?_⟩
  obtain ⟨azimuth, distance, reflectivity, base, hazimuth, hdistance, hreflectivity, hbase,
    point⟩ := points 1 (by decide) 1 (by decide)
  obtain rfl : 10100 = azimuth := Option.some.inj hazimuth
  obtain rfl : 4 = distance := Option.some.inj hdistance
  obtain rfl : 40 = reflectivity := Option.some.inj hreflectivity
  obtain rfl : ⟨-2000, -30⟩ = base := Option.some.inj hbase
  exact point

end Decoder

end Lidar
