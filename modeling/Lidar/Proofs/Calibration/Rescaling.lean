import Lidar.Proofs.Calibration.AngleWords
import Lidar.Proofs.Calibration.SweepAcceptance

namespace Lidar.SweepCalibration

variable {b : Bytes} {h : BlobHeader} {e : Encoding} {c : SweepCalibration}

/-- What is kept is the factor times what is written, each number at its place in the blob; of the
product for an angle what `kept` leaves of it. -/
structure Rescaled (b : Bytes) (h : BlobHeader) (kept : Int → Int) (c : SweepCalibration) :
    Prop where
  fieldCount : c.fields.size = h.frames.toNat
  channelCount : c.channels.size = h.channels.toNat
  azimuthOffsetCount : c.azimuthOffsets.size = 180 * h.channels.toNat
  elevationOffsetCount : c.elevationOffsets.size = 180 * h.channels.toNat
  fields : ∀ i < h.frames.toNat, ∃ start stop,
    b.word32? (16 + 4 * i) = some start ∧
    b.word32? (16 + 4 * h.frames.toNat + 4 * i) = some stop ∧
    c.fields[i]? = some {
      start := h.resolution.toNat * start.toNat
      stop := h.resolution.toNat * stop.toNat }
  channels : ∀ i < h.channels.toNat, ∃ azimuth elevation,
    b.word32? (16 + 8 * h.frames.toNat + 4 * i) = some azimuth ∧
    b.word32? (16 + 8 * h.frames.toNat + 4 * h.channels.toNat + 4 * i) = some elevation ∧
    c.channels[i]? = some {
      elevation := kept (h.resolution.toNat * elevation.toInt32.toInt)
      azimuth := kept (h.resolution.toNat * azimuth.toInt32.toInt) }
  azimuthOffsets : ∀ i < 180 * h.channels.toNat, ∃ offset,
    signedByte? b (16 + 8 * h.frames.toNat + 8 * h.channels.toNat + i) = some offset ∧
    c.azimuthOffsets[i]? = some (h.resolution.toNat * offset)
  elevationOffsets : ∀ i < 180 * h.channels.toNat, ∃ offset,
    signedByte? b (16 + 8 * h.frames.toNat + 8 * h.channels.toNat + 180 * h.channels.toNat + i) =
      some offset ∧
    c.elevationOffsets[i]? = some (h.resolution.toNat * offset)
  digest : b.vector? (16 + 8 * h.frames.toNat + 8 * h.channels.toNat + 360 * h.channels.toNat) 32 =
    some c.digest

/-- The product for every angle that is written fits 32 bits. -/
structure AnglesFit (b : Bytes) (h : BlobHeader) : Prop where
  azimuths : ∀ i < h.channels.toNat, ∀ azimuth,
    b.word32? (16 + 8 * h.frames.toNat + 4 * i) = some azimuth →
      WordRange.int32.contains (h.resolution.toNat * azimuth.toInt32.toInt) = true
  elevations : ∀ i < h.channels.toNat, ∀ elevation,
    b.word32? (16 + 8 * h.frames.toNat + 4 * h.channels.toNat + 4 * i) = some elevation →
      WordRange.int32.contains (h.resolution.toNat * elevation.toInt32.toInt) = true

/-- Products of bytes are small. -/
theorem offset_longWords (channels : UInt8) {resolution : UInt8} {i : Nat} {x : Int}
    (read : signedByte? b i = some x) :
    (longWords channels resolution).offset x = resolution.toNat * x := by
  obtain ⟨low, high⟩ := signedByte?_fits i x read
  have factor := resolution.toNat_lt
  have positive : (0 : Int) ≤ resolution.toNat := Int.natCast_nonneg _
  have least := Int.mul_le_mul_of_nonneg_left low positive
  have greatest := Int.mul_le_mul_of_nonneg_left (Int.le_of_lt high) positive
  change wrap32 (x * resolution.toNat) = resolution.toNat * x
  rw [Int.mul_comm x]
  exact wrap32_of_fits (by omega) (by omega)

theorem Sections.ReadFrom.rescaled {s : Sections}
    (read : s.ReadFrom b h (longWords h.channels h.resolution)) :
    Rescaled b h wrap32 (s.calibration h (longWords h.channels h.resolution)) := by
  obtain ⟨stops, azimuths, elevations, azimuthOffsets, elevationOffsets, digest⟩ :=
    Encoding.places_longWords h h.resolution
  have count : h.channels.toNat * offsetsPerChannel = 180 * h.channels.toNat := Nat.mul_comm _ _
  obtain ⟨around, level⟩ := read.size_offsets
  refine ⟨read.size_fields, read.size_channels, around.trans count, level.trans count,
    ?_, ?_, ?_, ?_, ?_⟩
  · intro i hi
    obtain ⟨_, _, first, last, place⟩ := read.field hi
    obtain ⟨start, hstart, rfl⟩ := Option.map_eq_some_iff.1 first
    obtain ⟨stop, hstop, rfl⟩ := Option.map_eq_some_iff.1 last
    rw [stops] at hstop
    refine ⟨start, stop, hstart, hstop, ?_⟩
    rw [place, Int.mul_comm _ (start.toNat : Int), Int.mul_comm _ (stop.toNat : Int)]
    rfl
  · intro i hi
    obtain ⟨_, _, around, level, place⟩ := read.channel hi
    obtain ⟨azimuth, hazimuth, rfl⟩ := Option.map_eq_some_iff.1 around
    obtain ⟨elevation, helevation, rfl⟩ := Option.map_eq_some_iff.1 level
    rw [azimuths] at hazimuth
    rw [elevations] at helevation
    refine ⟨azimuth, elevation, hazimuth, helevation, ?_⟩
    rw [place, Int.mul_comm _ azimuth.toInt32.toInt, Int.mul_comm _ elevation.toInt32.toInt]
    rfl
  · intro i hi
    obtain ⟨offset, written, place⟩ := read.azimuthOffset (Nat.lt_of_lt_of_eq hi count.symm)
    rw [azimuthOffsets] at written
    exact ⟨offset, written, place.trans (congrArg some (offset_longWords _ written))⟩
  · intro i hi
    obtain ⟨offset, written, place⟩ := read.elevationOffset (Nat.lt_of_lt_of_eq hi count.symm)
    rw [elevationOffsets] at written
    exact ⟨offset, written, place.trans (congrArg some (offset_longWords _ written))⟩
  · rw [← digest]
    exact read.digest

theorem rescaled_of_parse (parsed : parse b = .ok c) (long : b.peek 3 = 5) :
    Rescaled b (.ofBytes b) wrap32 c := by
  obtain ⟨e, s, encoded, sections, rfl⟩ := exists_sections parsed
  obtain rfl := Option.some.inj ((encoding?_longWords long).symm.trans encoded)
  exact sections.rescaled

/-- Nothing is lost exactly if no product is too large for 32 bits. -/
theorem Rescaled.exact_iff (scaled : Rescaled b h wrap32 c) :
    Rescaled b h id c ↔ AnglesFit b h := by
  constructor
  · intro exact
    have same {i : Nat} (hi : i < h.channels.toNat) :
        ∃ azimuth elevation, b.word32? (16 + 8 * h.frames.toNat + 4 * i) = some azimuth ∧
          b.word32? (16 + 8 * h.frames.toNat + 4 * h.channels.toNat + 4 * i) = some elevation ∧
          WordRange.int32.contains (h.resolution.toNat * azimuth.toInt32.toInt) = true ∧
          WordRange.int32.contains (h.resolution.toNat * elevation.toInt32.toInt) = true := by
      obtain ⟨azimuth, elevation, around, level, wrapped⟩ := scaled.channels i hi
      obtain ⟨azimuth', elevation', around', level', whole⟩ := exact.channels i hi
      obtain rfl := Option.some.inj (around.symm.trans around')
      obtain rfl := Option.some.inj (level.symm.trans level')
      have directions := Option.some.inj (wrapped.symm.trans whole)
      exact ⟨azimuth, elevation, around, level,
        wrap32_eq_self_iff.1 (congrArg Direction.azimuth directions),
        wrap32_eq_self_iff.1 (congrArg Direction.elevation directions)⟩
    constructor
    · intro i hi word written
      obtain ⟨azimuth, -, around, -, fits, -⟩ := same hi
      obtain rfl := Option.some.inj (around.symm.trans written)
      exact fits
    · intro i hi word written
      obtain ⟨-, elevation, -, level, -, fits⟩ := same hi
      obtain rfl := Option.some.inj (level.symm.trans written)
      exact fits
  · intro fit
    refine { scaled with channels := fun i hi => ?_ }
    obtain ⟨azimuth, elevation, around, level, wrapped⟩ := scaled.channels i hi
    refine ⟨azimuth, elevation, around, level, ?_⟩
    rw [wrapped, wrap32_eq_self_iff.2 (fit.azimuths i hi azimuth around),
      wrap32_eq_self_iff.2 (fit.elevations i hi elevation level)]
    rfl

/-- Boundaries of fields fit 64 bits, angles and offsets 32. -/
structure Worded (c : SweepCalibration) : Prop where
  fields : ∀ s ∈ c.fields,
    WordRange.int64.contains s.start = true ∧ WordRange.int64.contains s.stop = true
  channels : ∀ d ∈ c.channels, d.Worded
  azimuthOffsets : ∀ x ∈ c.azimuthOffsets, WordRange.int32.contains x = true
  elevationOffsets : ∀ x ∈ c.elevationOffsets, WordRange.int32.contains x = true

theorem forall_mem_of_places {α : Type} {xs : Array α} {n : Nat} {p : α → Prop}
    (count : xs.size = n) (each : ∀ i < n, ∃ x, xs[i]? = some x ∧ p x) : ∀ x ∈ xs, p x := by
  intro x listed
  obtain ⟨i, place⟩ := Array.mem_iff_getElem?.1 listed
  obtain ⟨inside, -⟩ := Array.getElem?_eq_some_iff.1 place
  obtain ⟨y, place', holds⟩ := each i (count ▸ inside)
  obtain rfl := Option.some.inj (place.symm.trans place')
  exact holds

theorem contains_boundary (factor : UInt8) (word : UInt32) :
    WordRange.int64.contains (factor.toNat * word.toNat) = true := by
  have bound : factor.toNat * word.toNat ≤ 2 ^ 8 * 2 ^ 32 :=
    Nat.mul_le_mul (Nat.le_of_lt factor.toNat_lt) (Nat.le_of_lt word.toNat_lt)
  rw [← Int.natCast_mul]
  refine decide_eq_true ?_
  simp only [WordRange.int64]
  omega

theorem contains_offset {factor : UInt8} {i : Nat} {x : Int} (read : signedByte? b i = some x) :
    WordRange.int32.contains (factor.toNat * x) = true := by
  rw [← offset_longWords 0 read]
  exact contains_wrap32 _

theorem Rescaled.worded (scaled : Rescaled b h wrap32 c) : c.Worded := by
  constructor
  · refine forall_mem_of_places scaled.fieldCount fun i hi => ?_
    obtain ⟨start, stop, -, -, place⟩ := scaled.fields i hi
    exact ⟨_, place, contains_boundary _ _, contains_boundary _ _⟩
  · refine forall_mem_of_places scaled.channelCount fun i hi => ?_
    obtain ⟨azimuth, elevation, -, -, place⟩ := scaled.channels i hi
    exact ⟨_, place, contains_wrap32 _, contains_wrap32 _⟩
  · refine forall_mem_of_places scaled.azimuthOffsetCount fun i hi => ?_
    obtain ⟨offset, written, place⟩ := scaled.azimuthOffsets i hi
    exact ⟨_, place, contains_offset written⟩
  · refine forall_mem_of_places scaled.elevationOffsetCount fun i hi => ?_
    obtain ⟨offset, written, place⟩ := scaled.elevationOffsets i hi
    exact ⟨_, place, contains_offset written⟩

/-- Every number of a blob of version 5 is kept at its place, multiplied by the factor: boundaries
and offsets as they are, angles in 32 bits. The angles, and with them everything, are exact
products if and only if all of them fit. -/
theorem factor_applied (b : Bytes) (c : SweepCalibration) (parsed : parse b = .ok c)
    (long : b.peek 3 = 5) :
    Rescaled b (.ofBytes b) wrap32 c ∧ c.Worded ∧
      (Rescaled b (.ofBytes b) id c ↔ AnglesFit b (.ofBytes b)) := by
  have scaled := rescaled_of_parse parsed long
  exact ⟨scaled, scaled.worded, scaled.exact_iff⟩

/-- The header and the words of a blob of version 5 with one field, one channel and the factor 2.
The azimuth is half of what 32 bits with a sign can count. -/
def wideHead : Bytes :=
  #[0xEE, 0xFF, 1, 5, 1, 3, 1, 0, 0, 0, 0, 0, 0, 0, 0, 2,
    0xFF, 0xFF, 0xFF, 0xFF, 1, 0, 0, 0, 0, 0, 0, 0x40, 0xFE, 0xFF, 0xFF, 0xFF]

/-- The whole blob. -/
def wideBlob : Bytes := wideHead ++ Array.replicate 392 0x80

theorem wideBlob_head : (⟨0, 32⟩ : Span).Agree wideBlob wideHead :=
  Span.agree_append _ (by decide)

theorem complete_wideBlob : Complete wideBlob := by
  refine .of_agree wideBlob_head rfl (by decide) (by decide) (by decide) (by decide) ?_
  rw [wideBlob, Array.size_append, Array.size_replicate]
  decide

theorem wideBlob_header : BlobHeader.ofBytes wideBlob = BlobHeader.ofBytes wideHead := by
  have same := BlobHeader.read?_congr wideBlob_head rfl (by decide)
  rw [BlobHeader.read?_eq_ofBytes complete_wideBlob.header,
    BlobHeader.read?_eq_ofBytes (by decide)] at same
  exact Option.some.inj same

/-- The start of the field is beyond 32 bits and is kept. The azimuth turns around. -/
theorem factor_applied_wideBlob : ∃ c, parse wideBlob = .ok c ∧ wideBlob.peek 3 = 5 ∧
    Rescaled wideBlob (.ofBytes wideBlob) wrap32 c ∧ c.Worded ∧
    c.fields[0]? = some { start := 8589934590, stop := 2 } ∧
    c.channels[0]? = some { elevation := -4, azimuth := -2147483648 } := by
  have long : wideBlob.peek 3 = 5 := wideBlob_head.peek_eq (by decide)
  obtain ⟨c, parsed⟩ := exists_parse_iff.2 complete_wideBlob
  obtain ⟨scaled, worded, -⟩ := factor_applied wideBlob c parsed long
  refine ⟨c, parsed, long, scaled, worded, ?_⟩
  rw [wideBlob_header] at scaled
  obtain ⟨start, stop, first, last, swept⟩ := scaled.fields 0 (by decide)
  obtain ⟨azimuth, elevation, around, level, aimed⟩ := scaled.channels 0 (by decide)
  rw [wideBlob_head.word32? (by decide) (by decide)] at first last around level
  obtain rfl : start = 0xFFFFFFFF := Option.some.inj (first.symm.trans (by decide))
  obtain rfl : stop = 1 := Option.some.inj (last.symm.trans (by decide))
  obtain rfl : azimuth = 0x40000000 := Option.some.inj (around.symm.trans (by decide))
  obtain rfl : elevation = 0xFFFFFFFE := Option.some.inj (level.symm.trans (by decide))
  exact ⟨swept, aimed⟩

/-- Twice the azimuth is one more than 32 bits with a sign can count. -/
theorem azimuth_narrowed_wideBlob : ∃ c, parse wideBlob = .ok c ∧ wideBlob.peek 3 = 5 ∧
    ¬Rescaled wideBlob (.ofBytes wideBlob) id c := by
  have long : wideBlob.peek 3 = 5 := wideBlob_head.peek_eq (by decide)
  obtain ⟨c, parsed⟩ := exists_parse_iff.2 complete_wideBlob
  refine ⟨c, parsed, long, fun exact => ?_⟩
  have fit := (rescaled_of_parse parsed long).exact_iff.1 exact
  rw [wideBlob_header] at fit
  have written : wideBlob.word32? 24 = some 0x40000000 :=
    (wideBlob_head.word32? (by decide) (by decide)).trans (by decide)
  exact absurd (fit.azimuths 0 (by decide) 0x40000000 written) (by decide)

end Lidar.SweepCalibration
