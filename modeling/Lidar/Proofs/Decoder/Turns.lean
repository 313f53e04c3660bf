import Lidar.Proofs.Angle
import Lidar.Proofs.Decoder.Placement

namespace Lidar

/-- Blocks of the same returns whose azimuths differ by whole turns, in hundredths of a degree. -/
structure Block.SameButTurns (b b' : Block) : Prop where
  returns : b.returns = b'.returns
  azimuth : b.azimuth.toNat ≡ b'.azimuth.toNat [MOD 36000]

/-- Packets of such blocks, in the same units. -/
structure Packet.SameButTurns {Tail : Type} (p q : Packet Tail) : Prop where
  lasers : p.header.lasers = q.header.lasers
  distanceUnit : p.header.distanceUnit = q.header.distanceUnit
  blocks : ∃ bs cs, p.blocks? = some bs ∧ q.blocks? = some cs ∧
    List.Forall₂ Block.SameButTurns bs cs

/-- Both packets are refused for the same reason, or both give the same number of points. -/
inductive Verdict.SamePoints : Verdict → Verdict → Prop
  | rejected (reason : Rejection) : SamePoints (.rejected reason) (.rejected reason)
  | accepted {r r' : Report} (pointCount : r.pointCount = r'.pointCount) :
    SamePoints (.accepted r) (.accepted r')

namespace Spinning

variable {c : AngleCorrection} {b b' : Block} {scale : Float32}

/-- A turn of the wire azimuth is a turn of every direction. -/
theorem point_of_sameButTurns (same : b.azimuth.toNat ≡ b'.azimuth.toNat [MOD 36000])
    (channel : Nat) (range intensity : Float32) :
    (do return Point.ofPolar .milliDegree range (← direction c b.azimuth channel) intensity) =
      (do return Point.ofPolar .milliDegree range (← direction c b'.azimuth channel) intensity :
        Except Fault Point) := by
  cases known : c.channels[channel]? with
  | none => rw [direction, direction, known]; rfl
  | some base =>
    have wire : (b.azimuth.toNat : Int) ≡ b'.azimuth.toNat [ZMOD 36000] :=
      Int.natCast_modEq_iff.2 same
    have turned : azimuthScale * b.azimuth.toNat + base.azimuth ≡
        azimuthScale * b'.azimuth.toNat + base.azimuth
        [ZMOD 360 * AngleTable.milliDegree.unitsPerDegree] :=
      wire.mul_left'.add_right base.azimuth
    have point := Point.ofPolar_congr (Int.ModEq.refl base.elevation) turned range intensity
    rw [direction, direction, known]
    exact congrArg Except.ok point

/-- A block makes the same points in every turn. -/
theorem points_of_sameButTurns (same : b.SameButTurns b') :
    b.points .milliDegree scale (direction c b.azimuth) =
      b'.points .milliDegree scale (direction c b'.azimuth) := by
  rw [Block.points, Block.points, ← same.returns]
  apply mapM_congr
  rintro ⟨r, j⟩ -
  exact point_of_sameButTurns same.azimuth j _ _

end Spinning

/-- Blocks that make the same points, one by one, make the same points together. -/
theorem pointsOf_congr {angles : AngleTable} {scale : Float32} {xs ys : List (Block × Aim)}
    (same : List.Forall₂ (fun x y =>
      x.1.points angles scale x.2.direction = y.1.points angles scale y.2.direction) xs ys) :
    pointsOf angles scale xs = pointsOf angles scale ys := by
  induction same with
  | nil => rfl
  | @cons x y _ _ first _ ih =>
    obtain ⟨b, a⟩ := x
    obtain ⟨b', a'⟩ := y
    rw [pointsOf_cons, pointsOf_cons, first, ih]

namespace P128

variable {s : State (Option AngleCorrection)} {packet packet' : Bytes} {out : Buffers}
  {contents contents' : Contents Tail}

/-- Every block is aimed at by its own azimuth, whatever the header and the tail say. -/
theorem aimed_eq (c : AngleCorrection) (packet : Bytes) (contents : Contents Tail) :
    (correction c).aimed packet contents = contents.blocks.map fun b =>
      (b, { azimuth := b.azimuth.toNat, direction := Spinning.direction c b.azimuth }) := by
  rw [Correction.aimed, aimedBlocks_zipIdx (Spinning.aim c) (aim_total c packet contents)]
  simp only [Spinning.aim, Option.map_some, List.filterMap_eq_map']

theorem pointsOf_aimed_of_turned (c : AngleCorrection) (scale : Float32)
    (turned : List.Forall₂ Block.SameButTurns contents.blocks contents'.blocks) :
    pointsOf .milliDegree scale ((correction c).aimed packet contents) =
      pointsOf .milliDegree scale ((correction c).aimed packet' contents') := by
  rw [aimed_eq, aimed_eq]
  apply pointsOf_congr
  rw [List.forall₂_map_left_iff, List.forall₂_map_right_iff]
  exact turned.imp fun _ _ same => Spinning.points_of_sameButTurns same

/-- A packet that passes all tests is decoded: nothing else can go wrong. -/
theorem exists_decodes_of_passed
    (passed : Test.complaint? ((Decoder.p128 s).tests packet out.room) = none) :
    ∃ c contents points, s.tables = some c ∧
      family.Decodes s packet out (correction c) contents points := by
  obtain ⟨report, accepted⟩ :=
    Decoder.exists_accepted (show (Decoder.p128 s).Sound from trivial) passed trivial
  obtain ⟨k, contents, points, decodes⟩ := Family.exists_decodes (f := family) accepted
  obtain ⟨c, loaded, rfl⟩ := Option.map_eq_some_iff.1 decodes.loaded
  exact ⟨c, contents, points, loaded, decodes⟩

end P128

namespace Decoder

variable {s : State (Option AngleCorrection)} {packet packet' : Bytes} {p q : Packet P128.Tail}

/-- The tests of packets that parse ask for the same channels and the same room. -/
theorem complaint?_of_sameButTurns (parsed : P128.format.parse packet = .ok p)
    (parsed' : P128.format.parse packet' = .ok q) (same : p.SameButTurns q) (room : Nat) :
    Test.complaint? ((p128 s).tests packet room) =
      Test.complaint? ((p128 s).tests packet' room) := by
  obtain rfl := Format.eq_packetOf parsed
  obtain rfl := Format.eq_packetOf parsed'
  obtain ⟨bs, cs, read, read', turned⟩ := same.blocks
  have lasers : (Header.ofBytes packet).laserCount = (Header.ofBytes packet').laserCount :=
    congrArg UInt8.toNat same.lasers
  have blocks : (Header.ofBytes packet).blockCount = (Header.ofBytes packet').blockCount :=
    calc (Header.ofBytes packet).blockCount
        = bs.length := (Packet.counts_of_blocks? read).1.symm
      _ = cs.length := turned.length_eq
      _ = (Header.ofBytes packet').blockCount := (Packet.counts_of_blocks? read').1
  have capacity : (Header.ofBytes packet).capacity = (Header.ofBytes packet').capacity := by
    rw [Header.capacity, Header.capacity, lasers, blocks]
  have needed : (p128 s).neededChannels (.ofBytes packet) =
      (p128 s).neededChannels (.ofBytes packet') := lasers
  have passed := Format.parse_eq_ok_packetOf_iff.1 parsed
  have passed' := Format.parse_eq_ok_packetOf_iff.1 parsed'
  calc Test.complaint? ((p128 s).tests packet room)
      = Test.complaint? (Test.ofDecoding (p128 s).isCalibrated
          ((p128 s).neededChannels (.ofBytes packet)) ((p128 s).channelCount?.getD 0)
          (Header.ofBytes packet).capacity room) := Test.complaint?_append_of_passed passed _
    _ = Test.complaint? (Test.ofDecoding (p128 s).isCalibrated
          ((p128 s).neededChannels (.ofBytes packet')) ((p128 s).channelCount?.getD 0)
          (Header.ofBytes packet').capacity room) := by rw [needed, capacity]
    _ = Test.complaint? ((p128 s).tests packet' room) :=
        (Test.complaint?_append_of_passed passed' _).symm

/-- A packet whose blocks are turned is decoded to the same points. -/
theorem samePoints_of_sameButTurns (parsed : P128.format.parse packet = .ok p)
    (parsed' : P128.format.parse packet' = .ok q) (same : p.SameButTurns q) (out : Buffers) :
    ((p128 s).decode packet out).1.SamePoints ((p128 s).decode packet' out).1 ∧
      ((p128 s).decode packet out).2.2 = ((p128 s).decode packet' out).2.2 := by
  have tests := complaint?_of_sameButTurns (s := s) parsed parsed' same out.room
  cases decided : Test.complaint? ((p128 s).tests packet out.room) with
  | some reason =>
    rw [decode_of_refused decided, decode_of_refused (tests.symm.trans decided)]
    exact ⟨.rejected reason, rfl⟩
  | none =>
    obtain ⟨c, contents, points, loaded, decodes⟩ := P128.exists_decodes_of_passed decided
    obtain ⟨c', contents', points', loaded', decodes'⟩ :=
      P128.exists_decodes_of_passed (tests.symm.trans decided)
    obtain rfl := Option.some.inj (loaded.symm.trans loaded')
    obtain rfl := Format.eq_packetOf parsed
    obtain rfl := Format.eq_packetOf parsed'
    obtain ⟨bs, cs, read, read', turned⟩ := same.blocks
    obtain ⟨blocks, -⟩ := Packet.contents?_eq_some_iff.1 decodes.read
    obtain ⟨blocks', -⟩ := Packet.contents?_eq_some_iff.1 decodes'.read
    obtain rfl := Option.some.inj (read.symm.trans blocks)
    obtain rfl := Option.some.inj (read'.symm.trans blocks')
    have unit : (Header.ofBytes packet).distanceUnit = (Header.ofBytes packet').distanceUnit :=
      same.distanceUnit
    have pointed := decodes.pointed
    rw [Header.distanceScale, unit, ← Header.distanceScale] at pointed
    have one : points = points' := Except.ok.inj <| pointed.symm.trans <|
      (P128.pointsOf_aimed_of_turned c _ turned).trans decodes'.pointed
    rw [decode_p128 decodes.decode_eq, decode_p128 decodes'.decode_eq, one]
    exact ⟨.accepted rfl, rfl⟩

/-- Points know their angles up to whole turns only. The tables are read at the one entry of the
first turn that an angle comes down to, and the angles of the other representation are those of the
same entry and of the one angle within half a turn; so whole turns of both angles change neither
representation, and whole turns of the wire azimuths change no point of a packet. -/
theorem points_ignore_turns (t : AngleTable) (range intensity : Float32) (e a : Int) :
    let circle : Int := 360 * t.unitsPerDegree
    let point := Point.ofPolar t range { elevation := e, azimuth := a } intensity
    (∀ m n : Int, Point.ofPolar t range
      { elevation := e + m * circle, azimuth := a + n * circle } intensity = point) ∧
    (∃! v, t.IsEntry e v) ∧ (∃! w, t.IsEntry a w) ∧ (∃! s, t.IsSigned e s) ∧
    (∀ v w s, t.IsEntry e v → t.IsEntry a w → t.IsSigned e s →
      ∃ sinE cosE sinA cosA, t.sines[v]? = some sinE ∧ t.cosines[v]? = some cosE ∧
        t.sines[w]? = some sinA ∧ t.cosines[w]? = some cosA ∧
        point = {
          cartesian := {
            x := range * cosE * sinA
            y := range * cosE * cosA
            z := range * sinE
            intensity }
          spherical := {
            radius := range
            theta := t.unitsToRadians w
            phi := t.unitsToRadians s
            intensity } }) ∧
    ∀ (s : State (Option AngleCorrection)) (packet packet' : Bytes) (p q : Packet P128.Tail)
      (out : Buffers), P128.format.parse packet = .ok p → P128.format.parse packet' = .ok q →
      p.SameButTurns q →
      ((p128 s).decode packet out).1.SamePoints ((p128 s).decode packet' out).1 ∧
        ((p128 s).decode packet out).2.2 = ((p128 s).decode packet' out).2.2 := by
  intro circle point
  refine ⟨?_, t.existsUnique_isEntry e, t.existsUnique_isEntry a, t.existsUnique_isSigned e, ?_, ?_⟩
  · intro m n
    have turned (b k : Int) : b + k * circle ≡ b [ZMOD circle] :=
      Int.add_mul_modulus_modEq_iff.2 (Int.ModEq.refl b)
    exact Point.ofPolar_congr (turned e m) (turned a n) range intensity
  · intro v w s elevation azimuth signed
    exact Point.ofPolar_of_entries elevation azimuth signed range intensity
  · intro s packet packet' p q out parsed parsed' same
    exact samePoints_of_sameButTurns parsed parsed' same out

/-- The blocks of `countingPacket`, the second one turn on. -/
def turnedPacket : Bytes :=
  #[0xEE, 0xFF, 1, 4, 0, 0, 2, 2, 0, 4, 1, 0x10,
    0x10, 0x27, 1, 0, 10, 99, 2, 0, 20, 99,
    0x14, 0xB4, 3, 0, 30, 99, 4, 0, 40, 99] ++ Array.replicate 34 0

/-- The angles at the edges: half a turn down is half a turn up, and a step before zero is the last
entry. The packets are accepted, and both give the same four points. -/
theorem points_ignore_turns_at_edges :
    let d := p128 { P128.family.initial with tables := some twoLasers }
    (∃ sinE cosE sinA cosA, AngleTable.milliDegree.sines[180000]? = some sinE ∧
      AngleTable.milliDegree.cosines[180000]? = some cosE ∧
      AngleTable.milliDegree.sines[359999]? = some sinA ∧
      AngleTable.milliDegree.cosines[359999]? = some cosA ∧
      Point.ofPolar .milliDegree 2 { elevation := -180000, azimuth := -1 } 1 = {
        cartesian := { x := 2 * cosE * sinA, y := 2 * cosE * cosA, z := 2 * sinE, intensity := 1 }
        spherical := {
          radius := 2
          theta := AngleTable.milliDegree.unitsToRadians 359999
          phi := AngleTable.milliDegree.unitsToRadians 180000
          intensity := 1 } }) ∧
    (∃ report, (d.decode countingPacket (.blank 4)).1 = .accepted report) ∧
    (d.decode countingPacket (.blank 4)).1.SamePoints (d.decode turnedPacket (.blank 4)).1 ∧
    (d.decode countingPacket (.blank 4)).2.2 = (d.decode turnedPacket (.blank 4)).2.2 := by
  intro d
  obtain ⟨-, -, -, -, entries, packets⟩ := points_ignore_turns .milliDegree 2 1 (-180000) (-1)
  have parsed := (Format.parse_of_opens (f := P128.format) (b := countingPacket)
    ⟨by decide, rfl, rfl, rfl, rfl⟩).trans (if_pos (by decide))
  have parsed' := (Format.parse_of_opens (f := P128.format) (b := turnedPacket)
    ⟨by decide, rfl, rfl, rfl, rfl⟩).trans (if_pos (by decide))
  have read : (P128.format.packetOf countingPacket).blocks? = some
      [⟨10000, 0, [⟨1, 10⟩, ⟨2, 20⟩]⟩, ⟨10100, 0, [⟨3, 30⟩, ⟨4, 40⟩]⟩] := by decide +kernel
  have read' : (P128.format.packetOf turnedPacket).blocks? = some
      [⟨10000, 0, [⟨1, 10⟩, ⟨2, 20⟩]⟩, ⟨46100, 0, [⟨3, 30⟩, ⟨4, 40⟩]⟩] := by decide +kernel
  have same : (P128.format.packetOf countingPacket).SameButTurns
      (P128.format.packetOf turnedPacket) :=
    ⟨by decide, by decide, _, _, read, read',
      .cons ⟨rfl, by decide⟩ (.cons ⟨rfl, by decide⟩ .nil)⟩
  have passed : Test.complaint? (d.tests countingPacket (Buffers.blank 4).room) = none := rfl
  obtain ⟨c, contents, points, -, decodes⟩ := P128.exists_decodes_of_passed passed
  have accepted := congrArg Prod.fst (decode_p128 decodes.decode_eq)
  refine ⟨?_, ⟨_, accepted⟩, packets _ _ _ _ _ _ parsed parsed' same⟩
  exact entries 180000 359999 180000 ⟨by decide, by decide⟩ ⟨by decide, by decide⟩
    ⟨by decide, by decide, by decide⟩

end Decoder

end Lidar
