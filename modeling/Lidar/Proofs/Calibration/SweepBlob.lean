import Lidar.Calibration.Sweep
import Lidar.Proofs.Except

namespace Lidar.SweepCalibration

theorem require_eq_ok_iff {α : Type} {part : BlobSection} {x : Option α} {a : α} :
    require part x = .ok a ↔ x = some a := by
  cases x <;> simp [require]

section Words

variable {read read' : Nat → Option Int} {start start' width width' m n : Nat} {ws : List Int}

theorem words?_eq_some_iff : words? read start width n = some ws ↔
    ws.length = n ∧ ∀ k (h : k < ws.length), read (start + width * k) = some ws[k] :=
  mapM_range_eq_some_iff

theorem length_words? (h : words? read start width n = some ws) : ws.length = n :=
  (words?_eq_some_iff.1 h).1

theorem words?_congr
    (same : ∀ i < n, read' (start' + width' * i) = read (start + width * i)) :
    words? read' start' width' n = words? read start width n :=
  mapM_congr fun i hi => same i (List.mem_range.1 hi)

/-- Words that are written elsewhere in another way are read as other numbers. -/
theorem words?_map {f : Int → Int}
    (same : ∀ i < n, read' (start' + width' * i) = (read (start + width * i)).map f)
    (h : words? read start width n = some ws) :
    words? read' start' width' n = some (ws.map f) := by
  obtain ⟨rfl, each⟩ := words?_eq_some_iff.1 h
  refine words?_eq_some_iff.2 ⟨List.length_map f, fun k hk => ?_⟩
  have inside : k < ws.length := by rwa [List.length_map] at hk
  rw [same k inside, each k inside, Option.map_some, List.getElem_map]

theorem words?_take (fewer : m ≤ n) (h : words? read start width n = some ws) :
    words? read start width m = some (ws.take m) := by
  obtain ⟨rfl, each⟩ := words?_eq_some_iff.1 h
  refine words?_eq_some_iff.2 ⟨by rw [List.length_take, Nat.min_eq_left fewer], fun k hk => ?_⟩
  have inside : k < ws.length := by
    rw [List.length_take] at hk
    omega
  rw [each k inside, List.getElem_take]

/-- What holds of everything that can be read holds of the words. -/
theorem forall_mem_words? {p : Int → Prop} (each : ∀ i x, read i = some x → p x)
    (h : words? read start width n = some ws) : ∀ x ∈ ws, p x := by
  obtain ⟨-, place⟩ := words?_eq_some_iff.1 h
  intro x listed
  obtain ⟨k, hk, rfl⟩ := List.mem_iff_getElem.1 listed
  exact each _ _ (place k hk)

end Words

theorem BlobHeader.read?_eq_some_iff {b : Bytes} {h : BlobHeader} : read? b = some h ↔
    b.vector? 0 2 = some h.delimiter ∧ b.byte? 2 = some h.major ∧ b.byte? 3 = some h.minor ∧
      b.byte? 4 = some h.channels ∧ b.byte? 5 = some h.facets ∧ b.byte? 6 = some h.frames ∧
      b.vector? 7 8 = some h.frameConfig ∧ b.byte? 15 = some h.resolution := by
  simp only [read?, Option.bind_eq_bind, Option.bind_eq_some_iff, Option.pure_def,
    Option.some.injEq]
  constructor
  · rintro ⟨_, delimiter, _, major, _, minor, _, channels, _, facets, _, frames, _, config, _,
      resolution, rfl⟩
    exact ⟨delimiter, major, minor, channels, facets, frames, config, resolution⟩
  · rintro ⟨delimiter, major, minor, channels, facets, frames, config, resolution⟩
    exact ⟨_, delimiter, _, major, _, minor, _, channels, _, facets, _, frames, _, config, _,
      resolution, rfl⟩

theorem encoding?_shortWords {h : BlobHeader} (minor : h.minor = 3) :
    encoding? h = some shortWords := if_pos minor

theorem encoding?_longWords {h : BlobHeader} (minor : h.minor = 5) :
    encoding? h = some (longWords h.channels h.resolution) := by
  have other : h.minor ≠ 3 := by
    rw [minor]
    decide
  rw [encoding?, if_neg other, if_pos minor]

theorem wrap32_eq_self_iff {x : Int} : wrap32 x = x ↔ WordRange.int32.contains x = true := by
  have half : ((UInt32.size : Nat) : Int) / 2 = 2147483648 := by decide
  have rounded : (((UInt32.size : Nat) : Int) + 1) / 2 = 2147483648 := by decide
  rw [wrap32, Int.bmod_eq_iff (by decide), half, rounded, Int.sub_self, WordRange.contains,
    decide_eq_true_iff]
  simp only [WordRange.int32]
  constructor
  · rintro ⟨low, high, -⟩
    omega
  · rintro ⟨low, high⟩
    exact ⟨low, by omega, Int.dvd_zero _⟩

theorem contains_wrap32 (x : Int) : WordRange.int32.contains (wrap32 x) = true :=
  wrap32_eq_self_iff.1 Int.bmod_bmod

theorem wrap32_of_fits {x : Int} (low : -2147483648 ≤ x) (high : x < 2147483648) :
    wrap32 x = x :=
  wrap32_eq_self_iff.2 (decide_eq_true ⟨low, Int.le_of_lt_add_one high⟩)

theorem signed?_shortWords_fits {b : Bytes} (i : Nat) (x : Int)
    (read : shortWords.signed? b i = some x) : -32768 ≤ x ∧ x < 32768 := by
  obtain ⟨w, -, rfl⟩ := Option.map_eq_some_iff.1 read
  exact ⟨w.le_toInt, w.toInt_lt⟩

/-- The boundaries of fields are angles from zero on, far below what 64 bits hold. -/
theorem boundary_fits {b : Bytes} {h : BlobHeader} {e : Encoding} (encoded : encoding? h = some e)
    (i : Nat) (x : Int) (read : e.unsigned? b i = some x) :
    0 ≤ e.boundary x ∧ e.boundary x ≤ 1095216660225 := by
  rw [encoding?] at encoded
  split_ifs at encoded
  · obtain rfl := Option.some.inj encoded
    obtain ⟨w, -, rfl⟩ := Option.map_eq_some_iff.1 read
    have word := w.toNat_lt
    simp only [shortWords, fineSteps]
    omega
  · obtain rfl := Option.some.inj encoded
    obtain ⟨w, -, rfl⟩ := Option.map_eq_some_iff.1 read
    have word : w.toNat ≤ 4294967295 := Nat.le_of_lt_succ w.toNat_lt
    have factor : h.resolution.toNat ≤ 255 := Nat.le_of_lt_succ h.resolution.toNat_lt
    have product := Nat.mul_le_mul word factor
    simp only [longWords]
    rw [← Int.natCast_mul]
    omega

theorem signedByte?_fits {b : Bytes} (i : Nat) (x : Int) (read : signedByte? b i = some x) :
    -128 ≤ x ∧ x < 128 := by
  obtain ⟨w, -, rfl⟩ := Option.map_eq_some_iff.1 read
  exact ⟨w.toInt8.le_toInt, w.toInt8.toInt_lt⟩

namespace Encoding

variable (e : Encoding) (h : BlobHeader)

def stopsAt : Nat := BlobHeader.size + e.wordSize * h.frames.toNat

def azimuthsAt : Nat := e.stopsAt h + e.wordSize * h.frames.toNat

def elevationsAt : Nat := e.azimuthsAt h + e.wordSize * h.channels.toNat

def azimuthOffsetsAt : Nat := e.elevationsAt h + e.wordSize * h.channels.toNat

def elevationOffsetsAt : Nat := e.azimuthOffsetsAt h + e.offsetCount

def digestAt : Nat := e.elevationOffsetsAt h + e.offsetCount

/-- The sections follow one another, and the digest is the last of them. -/
theorem sections_follow :
    BlobHeader.size + e.wordSize * h.frames.toNat = e.stopsAt h ∧
    e.stopsAt h + e.wordSize * h.frames.toNat = e.azimuthsAt h ∧
    e.azimuthsAt h + e.wordSize * h.channels.toNat = e.elevationsAt h ∧
    e.elevationsAt h + e.wordSize * h.channels.toNat = e.azimuthOffsetsAt h ∧
    e.azimuthOffsetsAt h + 1 * e.offsetCount = e.elevationOffsetsAt h ∧
    e.elevationOffsetsAt h + 1 * e.offsetCount = e.digestAt h := by
  rw [Nat.one_mul]
  exact ⟨rfl, rfl, rfl, rfl, rfl, rfl⟩

theorem places_shortWords :
    shortWords.stopsAt h = 16 + 2 * h.frames.toNat ∧
    shortWords.azimuthsAt h = 16 + 4 * h.frames.toNat ∧
    shortWords.elevationsAt h = 16 + 4 * h.frames.toNat + 2 * h.channels.toNat ∧
    shortWords.azimuthOffsetsAt h = 16 + 4 * h.frames.toNat + 4 * h.channels.toNat ∧
    shortWords.elevationOffsetsAt h = 16 + 4 * h.frames.toNat + 4 * h.channels.toNat + 36000 ∧
    shortWords.digestAt h = 16 + 4 * h.frames.toNat + 4 * h.channels.toNat + 72000 := by
  simp only [stopsAt, azimuthsAt, elevationsAt, azimuthOffsetsAt, elevationOffsetsAt, digestAt,
    shortWords, BlobHeader.size, true_and]
  omega

theorem places_longWords (resolution : UInt8) :
    let e := longWords h.channels resolution
    e.stopsAt h = 16 + 4 * h.frames.toNat ∧
    e.azimuthsAt h = 16 + 8 * h.frames.toNat ∧
    e.elevationsAt h = 16 + 8 * h.frames.toNat + 4 * h.channels.toNat ∧
    e.azimuthOffsetsAt h = 16 + 8 * h.frames.toNat + 8 * h.channels.toNat ∧
    e.elevationOffsetsAt h =
      16 + 8 * h.frames.toNat + 8 * h.channels.toNat + 180 * h.channels.toNat ∧
    e.digestAt h = 16 + 8 * h.frames.toNat + 8 * h.channels.toNat + 360 * h.channels.toNat := by
  simp only [stopsAt, azimuthsAt, elevationsAt, azimuthOffsetsAt, elevationOffsetsAt, digestAt,
    longWords, BlobHeader.size, offsetsPerChannel, true_and]
  omega

end Encoding

/-- The words of a blob as they are written, and the digest behind them. -/
structure Sections where
  starts : List Int
  stops : List Int
  azimuths : List Int
  elevations : List Int
  azimuthOffsets : List Int
  elevationOffsets : List Int
  digest : Vector UInt8 32

namespace Sections

/-- The sections stand in a blob where its encoding puts them, and every channel has offsets. -/
structure ReadFrom (s : Sections) (b : Bytes) (h : BlobHeader) (e : Encoding) : Prop where
  starts : words? (e.unsigned? b) BlobHeader.size e.wordSize h.frames.toNat = some s.starts
  stops : words? (e.unsigned? b) (e.stopsAt h) e.wordSize h.frames.toNat = some s.stops
  azimuths : words? (e.signed? b) (e.azimuthsAt h) e.wordSize h.channels.toNat = some s.azimuths
  elevations :
    words? (e.signed? b) (e.elevationsAt h) e.wordSize h.channels.toNat = some s.elevations
  enough : h.channels.toNat * offsetsPerChannel ≤ e.offsetCount
  azimuthOffsets :
    words? (signedByte? b) (e.azimuthOffsetsAt h) 1 e.offsetCount = some s.azimuthOffsets
  elevationOffsets :
    words? (signedByte? b) (e.elevationOffsetsAt h) 1 e.offsetCount = some s.elevationOffsets
  digest : b.vector? (e.digestAt h) 32 = some s.digest

/-- The calibration that the words stand for. -/
def calibration (s : Sections) (h : BlobHeader) (e : Encoding) : SweepCalibration where
  major := h.major
  minor := h.minor
  channelNumber := h.channels
  facetNumber := h.facets
  frameNumber := h.frames
  frameConfig := h.frameConfig
  resolution := h.resolution
  fields := (List.zipWith (fun s t => ⟨e.boundary s, e.boundary t⟩) s.starts s.stops).toArray
  channels := (List.zipWith (fun v a => ⟨e.angle v, e.angle a⟩) s.elevations s.azimuths).toArray
  azimuthOffsets := (s.azimuthOffsets.map e.offset).toArray
  elevationOffsets := (s.elevationOffsets.map e.offset).toArray
  digest := s.digest

end Sections

variable {b : Bytes} {h : BlobHeader} {e : Encoding} {c : SweepCalibration}

theorem Sections.ReadFrom.size_channels {s : Sections} (read : s.ReadFrom b h e) :
    (s.calibration h e).channels.size = h.channels.toNat := by
  rw [calibration, List.size_toArray, List.length_zipWith, length_words? read.azimuths,
    length_words? read.elevations, Nat.min_self]

theorem Sections.ReadFrom.starts_fit {s : Sections} (read : s.ReadFrom b h e)
    (encoded : encoding? h = some e) : ∀ field ∈ (s.calibration h e).fields,
      0 ≤ field.start ∧ WordRange.int64.contains field.start = true := by
  intro field listed
  obtain ⟨k, inside, rfl⟩ := List.mem_iff_getElem.1 (List.mem_toArray.1 listed)
  obtain ⟨low, high⟩ := forall_mem_words? (boundary_fits encoded) read.starts _
    (List.getElem_mem (List.lt_length_left_of_zipWith inside))
  rw [List.getElem_zipWith]
  refine ⟨low, decide_eq_true ?_⟩
  simp only [WordRange.int64]
  omega

theorem Sections.ReadFrom.size_offsets {s : Sections} (read : s.ReadFrom b h e) :
    (s.calibration h e).azimuthOffsets.size = e.offsetCount ∧
      (s.calibration h e).elevationOffsets.size = e.offsetCount := by
  rw [calibration, List.size_toArray, List.size_toArray, List.length_map, List.length_map]
  exact ⟨length_words? read.azimuthOffsets, length_words? read.elevationOffsets⟩

theorem Sections.ReadFrom.size_fields {s : Sections} (read : s.ReadFrom b h e) :
    (s.calibration h e).fields.size = h.frames.toNat := by
  rw [calibration, List.size_toArray, List.length_zipWith, length_words? read.starts,
    length_words? read.stops, Nat.min_self]

section Places

variable {s : Sections} {i : Nat}

theorem Sections.ReadFrom.field (read : s.ReadFrom b h e) (hi : i < h.frames.toNat) :
    ∃ start stop, e.unsigned? b (BlobHeader.size + e.wordSize * i) = some start ∧
      e.unsigned? b (e.stopsAt h + e.wordSize * i) = some stop ∧
      (s.calibration h e).fields[i]? = some ⟨e.boundary start, e.boundary stop⟩ := by
  obtain ⟨starts, start⟩ := words?_eq_some_iff.1 read.starts
  obtain ⟨stops, stop⟩ := words?_eq_some_iff.1 read.stops
  have first : i < s.starts.length := by rwa [starts]
  have last : i < s.stops.length := by rwa [stops]
  refine ⟨_, _, start i first, stop i last, ?_⟩
  rw [calibration, List.getElem?_toArray, List.getElem?_zipWith_eq_some]
  exact ⟨_, _, List.getElem?_eq_getElem first, List.getElem?_eq_getElem last, rfl⟩

theorem Sections.ReadFrom.channel (read : s.ReadFrom b h e) (hi : i < h.channels.toNat) :
    ∃ azimuth elevation, e.signed? b (e.azimuthsAt h + e.wordSize * i) = some azimuth ∧
      e.signed? b (e.elevationsAt h + e.wordSize * i) = some elevation ∧
      (s.calibration h e).channels[i]? = some ⟨e.angle elevation, e.angle azimuth⟩ := by
  obtain ⟨azimuths, azimuth⟩ := words?_eq_some_iff.1 read.azimuths
  obtain ⟨elevations, elevation⟩ := words?_eq_some_iff.1 read.elevations
  have level : i < s.elevations.length := by rwa [elevations]
  have around : i < s.azimuths.length := by rwa [azimuths]
  refine ⟨_, _, azimuth i around, elevation i level, ?_⟩
  rw [calibration, List.getElem?_toArray, List.getElem?_zipWith_eq_some]
  exact ⟨_, _, List.getElem?_eq_getElem level, List.getElem?_eq_getElem around, rfl⟩

theorem getElem?_offsets {read : Nat → Option Int} {start n : Nat} {ws : List Int} {f : Int → Int}
    (words : words? read start 1 n = some ws) (hi : i < n) :
    ∃ x, read (start + i) = some x ∧ (ws.map f).toArray[i]? = some (f x) := by
  obtain ⟨count, each⟩ := words?_eq_some_iff.1 words
  have inside : i < ws.length := by rwa [count]
  have place := each i inside
  rw [Nat.one_mul] at place
  refine ⟨ws[i], place, ?_⟩
  rw [List.getElem?_toArray, List.getElem?_map, List.getElem?_eq_getElem inside, Option.map_some]

theorem Sections.ReadFrom.azimuthOffset (read : s.ReadFrom b h e) (hi : i < e.offsetCount) :
    ∃ x, signedByte? b (e.azimuthOffsetsAt h + i) = some x ∧
      (s.calibration h e).azimuthOffsets[i]? = some (e.offset x) :=
  getElem?_offsets read.azimuthOffsets hi

theorem Sections.ReadFrom.elevationOffset (read : s.ReadFrom b h e) (hi : i < e.offsetCount) :
    ∃ x, signedByte? b (e.elevationOffsetsAt h + i) = some x ∧
      (s.calibration h e).elevationOffsets[i]? = some (e.offset x) :=
  getElem?_offsets read.elevationOffsets hi

end Places

theorem parseBody_eq_ok_iff :
    parseBody b h e = .ok c ↔ ∃ s : Sections, s.ReadFrom b h e ∧ c = s.calibration h e := by
  simp only [parseBody, bind_eq_ok_iff, guard_eq_ok_iff, require_eq_ok_iff]
  constructor
  · rintro ⟨starts, hstarts, stops, hstops, azimuths, hazimuths, elevations, helevations, enough,
      azimuthOffsets, hazimuthOffsets, elevationOffsets, helevationOffsets, digest, hdigest, made⟩
    refine ⟨⟨starts, stops, azimuths, elevations, azimuthOffsets, elevationOffsets, digest⟩,
      ⟨hstarts, hstops, hazimuths, helevations, Nat.not_lt.1 enough, hazimuthOffsets,
        helevationOffsets, hdigest⟩, (Except.ok.inj made).symm⟩
  · rintro ⟨s, read, rfl⟩
    exact ⟨s.starts, read.starts, s.stops, read.stops, s.azimuths, read.azimuths, s.elevations,
      read.elevations, Nat.not_lt.2 read.enough, s.azimuthOffsets, read.azimuthOffsets,
      s.elevationOffsets, read.elevationOffsets, s.digest, read.digest, rfl⟩

theorem parse_eq_ok_iff : parse b = .ok c ↔
    ∃ h e, BlobHeader.read? b = some h ∧ h.delimiter = #v[0xEE, 0xFF] ∧
      ¬(h.channels = 0 ∨ h.frames = 0) ∧ encoding? h = some e ∧ parseBody b h e = .ok c := by
  simp only [parse, bind_eq_ok_iff, guard_eq_ok_iff, require_eq_ok_iff]
  constructor
  · rintro ⟨h, read, delimited, counted, body⟩
    cases encoded : encoding? h with
    | none =>
      rw [encoded] at body
      cases body
    | some e =>
      rw [encoded] at body
      exact ⟨h, e, read, not_not.1 delimited, counted, encoded, body⟩
  · rintro ⟨h, e, read, delimited, counted, encoded, body⟩
    refine ⟨h, read, not_not.2 delimited, counted, ?_⟩
    rw [encoded]
    exact body

end Lidar.SweepCalibration
