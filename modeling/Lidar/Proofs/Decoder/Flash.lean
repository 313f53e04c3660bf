import Lidar.Proofs.Decoder.Made
import Lidar.Proofs.Wire.Draft

namespace Lidar

/-- The smallest packet with a point: one return, in one block of the sensor with one azimuth for
all channels. The azimuth counts hundredths of a degree, the distance units of four millimetres. -/
structure Flash where
  azimuth : UInt16
  distance : UInt16
  reflectivity : UInt8
  speed : UInt16 := 600
  returnMode : UInt8 := 0x37
  timestamp : UInt32 := 0

namespace Flash

def header : Header where
  major := 1
  minor := 4
  statusInfo := 0
  lasers := 1
  blocks := 1
  echoCount := 0
  distanceUnit := 4
  echoNumber := 1
  flags := ⟨0⟩

variable (f : Flash)

def tail : P128.Tail where
  reserved1 := .replicate 3 0
  reserved2 := .replicate 3 0
  reserved3 := .replicate 3 0
  azimuthFlag := 0
  runningMode := 0
  returnMode := f.returnMode
  motorSpeed := f.speed
  utc := .replicate 6 0
  timestamp := f.timestamp
  factoryInfo := 0

def draft : Draft .p128 where
  header := header
  major_eq := rfl
  minor_eq := rfl
  reserved := 0
  blocks := #v[⟨f.azimuth, 0, #v[⟨⟨f.distance, f.reflectivity⟩, #v[]⟩]⟩]
  bodyChecksum := .replicate _ 0
  functionSafety := .replicate _ 0
  tail := f.tail
  sequence := 0
  imu := .replicate _ 0
  tailChecksum := .replicate _ 0
  signature := .replicate _ 0
  behind := #[]

def bytes : Bytes := f.draft.bytes

def block : Block := ⟨f.azimuth, 0, [⟨f.distance, f.reflectivity⟩]⟩

def contents : Contents P128.Tail where
  blocks := [f.block]
  tail := f.tail
  sequence := none
  imu := none

theorem packetOf_bytes : P128.format.packetOf f.bytes = f.draft.packet :=
  (Format.eq_packetOf f.draft.parse_bytes).symm

theorem parse_bytes : P128.format.parse f.bytes = .ok (P128.format.packetOf f.bytes) := by
  rw [packetOf_bytes]
  exact f.draft.parse_bytes

theorem header_bytes : Header.ofBytes f.bytes = header := congrArg Packet.header f.packetOf_bytes

theorem contents?_bytes : (P128.format.packetOf f.bytes).contents? = some f.contents := by
  have read : f.draft.packet.contents? = some f.draft.contents :=
    Packet.contents?_eq_some_iff.2 ⟨Draft.blocks?_packet,
      Model.readTail?_of_holds f.draft.sections_held.2.1, Draft.sequence?_packet,
      Draft.imu?_packet⟩
  have same : f.draft.contents = f.contents := by
    have sequence : header.flags.sequence = false := by decide
    have imu : header.flags.imu = false := by decide
    simp only [Draft.contents, draft, sequence, imu]
    rfl
  rw [packetOf_bytes, ← same]
  exact read

/-- The point of the return, if the channel is level and looks ahead. -/
def point : Point :=
  .ofPolar .milliDegree (f.distance.toFloat32 * 0.004)
    { elevation := 0, azimuth := 10 * f.azimuth.toNat } (intensity f.reflectivity)

def motion : Motion := { speed := f.speed.toNat, dualReturn := isDualReturn f.returnMode }

/-- The report of a decoder with that channel and some frame in progress. -/
def report (splitter : Splitter) : Report where
  pointCount := 1
  scanComplete := splitter.crosses f.azimuth
  time := some f.timestamp.toNat
  azimuths := (Spinning.azimuthRadians f.azimuth.toNat, Spinning.azimuthRadians f.azimuth.toNat)
  elevations := (Spinning.elevationRadians 0, Spinning.elevationRadians 0)
  motorSpeed := f.motion.speed
  returnMode := f.returnMode
  dualReturn := f.motion.dualReturn
  sequence := none
  lasers := 1
  blocks := 1

end Flash

namespace Decoder

/-- A flash of a sensor that turns twenty times a second with two returns, five degrees before the
full turn. -/
def beforeTurn : Flash :=
  { azimuth := 35500, distance := 500, reflectivity := 10, speed := 1200, returnMode := 0x39
    timestamp := 1 }

/-- A flash one degree behind the full turn. -/
def afterTurn : Flash := { azimuth := 100, distance := 250, reflectivity := 20, timestamp := 2 }

def levelChannel : AngleCorrection := ⟨#[⟨0, 0⟩]⟩

/-- A decoder whose one channel is level and looks ahead. -/
def leveled (splitter : Splitter) (motion : Motion) : Decoder :=
  p128 { tables := some levelChannel, splitter, motion }

theorem after_oneLaser :
    (ofModel .p128).after [.loadCalibration oneLaser] = leveled .start Spinning.initialMotion :=
  parts_injective (parts_of_oneLaser (by decide))

variable (f : Flash) (splitter : Splitter)

theorem points_flash : f.block.points .milliDegree 0.004
    (Spinning.direction levelChannel f.azimuth) = .ok [f.point] := by
  have directed : Spinning.direction levelChannel f.azimuth 0 =
      .ok { elevation := 0, azimuth := 10 * f.azimuth.toNat } := by
    refine congrArg Except.ok ?_
    rw [Direction.mk.injEq]
    exact ⟨rfl, Int.add_zero _⟩
  simp only [Block.points, Flash.block, List.zipIdx_singleton, List.mapM_cons, List.mapM_nil,
    directed]
  rfl

theorem scan_flash :
    P128.family.scan splitter (P128.format.packetOf f.bytes) (P128.correction levelChannel) =
      .ok (f.contents, {
        points := [f.point]
        complete := splitter.crosses f.azimuth
        splitter := ⟨f.azimuth⟩
        azimuths := some ⟨f.azimuth.toNat, f.azimuth.toNat⟩ }) := by
  have scale : (P128.format.packetOf f.bytes).header.distanceScale = 0.004 := by
    rw [f.packetOf_bytes]
    show Flash.header.distanceScale = 0.004
    decide +kernel
  have walked : Scan.run .milliDegree 0.004 ((P128.correction levelChannel).aim
      (P128.format.packetOf f.bytes).header f.tail) [(f.block, 0)] splitter = .ok {
        points := [f.point]
        complete := splitter.crosses f.azimuth
        splitter := ⟨f.azimuth⟩
        azimuths := some ⟨f.azimuth.toNat, f.azimuth.toNat⟩ } := by
    have pointed := points_flash f
    rw [Scan.run, P128.correction]
    dsimp only
    rw [show f.block.azimuth = f.azimuth from rfl, pointed]
    simp only [Scan.run, bind, Except.bind, List.append_nil, Bool.or_false]
    rfl
  rw [Family.scan, f.contents?_bytes, scale]
  exact congrArg (· >>= fun scan => Except.ok (f.contents, scan)) walked

theorem report_flash (points : List Point) (one : points.length = 1) :
    P128.family.report Flash.header (P128.correction levelChannel) f.contents {
        points
        complete := splitter.crosses f.azimuth
        splitter := ⟨f.azimuth⟩
        azimuths := some ⟨f.azimuth.toNat, f.azimuth.toNat⟩ } = f.report splitter := by
  have time : sensorTime? (P128.family.status f.contents.tail).utc
      (P128.family.status f.contents.tail).timestamp = some f.timestamp.toNat := by
    refine congrArg some ?_
    show 0 * 1000000 + (f.timestamp.toNat : Int) = f.timestamp.toNat
    omega
  have level : Bounds.ofList ((P128.correction levelChannel).elevations.toList.take
      Flash.header.laserCount) = some ⟨0, 0⟩ := by
    decide +kernel
  simp only [Family.report, level, time, one]
  rfl

theorem capacity_flash : capacity f.bytes = .ok 1 := by
  have parsed := (Format.parse_eq_ok_iff.1 f.draft.parse_bytes).1
  rw [capacity, Flash.bytes, parsed]
  rfl

/-- A flash is accepted wherever there is room for its point. -/
theorem decode_flash (motion : Motion) {out : Buffers} (roomy : 0 < out.room) :
    (leveled splitter motion).decode f.bytes out =
      (.accepted (f.report splitter), leveled ⟨f.azimuth⟩ f.motion, out.overwrite [f.point]) := by
  let s : State (Option AngleCorrection) := { tables := some levelChannel, splitter, motion }
  have admitted : P128.family.admission s f.bytes out.room =
      .ok (P128.format.packetOf f.bytes, P128.correction levelChannel) := by
    have decided := Family.admission_of_parsed (f := P128.family) (s := s) f.parse_bytes rfl
      out.room
    have covered : ¬(P128.correction levelChannel).elevations.size <
        (P128.correction levelChannel).needed Flash.header := by decide +kernel
    have enough : ¬out.room < Flash.header.capacity := Nat.not_lt.2 roomy
    rw [f.header_bytes, if_neg covered, if_neg enough] at decided
    exact decided
  have reported := report_flash f splitter [f.point] rfl
  rw [← f.header_bytes] at reported
  have decoded : P128.family.decode s f.bytes out = (.accepted (f.report splitter),
      { s with splitter := ⟨f.azimuth⟩, motion := f.motion }, out.overwrite [f.point]) := by
    rw [Family.decode, admitted]
    dsimp only
    rw [scan_flash]
    dsimp only
    rw [← reported]
    rfl
  rw [leveled, decode, decoded]
  rfl

/-- A packet that ends in its delimiter is refused by every decoder. -/
theorem decode_delimiter (d : Decoder) (out : Buffers) :
    d.decode #[0xEE, 0xFF] out = (.rejected (.truncated 12 2), d, out) := by
  cases d <;> rfl

theorem apply_flash (motion : Motion) {out : Buffers} (roomy : 0 < out.room) :
    (leveled splitter motion).apply (.decode f.bytes out) = leveled ⟨f.azimuth⟩ f.motion := by
  rw [apply, decode_flash f splitter motion roomy]

end Decoder

end Lidar
