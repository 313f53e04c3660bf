import Lidar.Proofs.Calibration.SweepAcceptance
import Lidar.Proofs.Decoder.Alike
import Lidar.Proofs.Decoder.Directions

namespace Lidar

namespace SweepCalibration

/-- A blob of version 5 that restates a blob of version 3 with some number of channels and fields.
Its words say the same in steps of 1/256 of what the old ones count, and its offset tables are the
front of the old tables. Bytes that no angle depends on may be any: version and configuration in the
header, the digest, and what stands behind it. -/
structure Restates (new old : Bytes) (channels frames : Nat) : Prop where
  delimiter : new.vector? 0 2 = some #v[0xEE, 0xFF]
  oldVersion : old.byte? 3 = some 3
  newVersion : new.byte? 3 = some 5
  counts : ∀ i, 4 ≤ i → i < 7 → new.byte? i = old.byte? i
  resolution : new.byte? 15 = some 1
  starts : ∀ i < frames, (new.word32? (16 + 4 * i)).map (·.toNat) =
    (old.word16? (16 + 2 * i)).map (256 * ·.toNat)
  stops : ∀ i < frames, (new.word32? (16 + 4 * frames + 4 * i)).map (·.toNat) =
    (old.word16? (16 + 2 * frames + 2 * i)).map (256 * ·.toNat)
  azimuths : ∀ i < channels, (new.word32? (16 + 8 * frames + 4 * i)).map (·.toInt32.toInt) =
    (old.int16? (16 + 4 * frames + 2 * i)).map (256 * ·.toInt)
  elevations : ∀ i < channels,
    (new.word32? (16 + 8 * frames + 4 * channels + 4 * i)).map (·.toInt32.toInt) =
      (old.int16? (16 + 4 * frames + 2 * channels + 2 * i)).map (256 * ·.toInt)
  azimuthOffsets : ∀ i < 180 * channels, new.byte? (16 + 8 * frames + 8 * channels + i) =
    old.byte? (16 + 4 * frames + 4 * channels + i)
  elevationOffsets : ∀ i < 180 * channels,
    new.byte? (16 + 8 * frames + 8 * channels + 180 * channels + i) =
      old.byte? (16 + 4 * frames + 4 * channels + 36000 + i)
  complete : 16 + 8 * frames + 8 * channels + 360 * channels + 32 ≤ new.size

/-- Both calibrations give the same directions without offsets, find the same field for every
azimuth, and correct it alike for each of their channels. -/
structure Agree (c c' : SweepCalibration) : Prop where
  channels : c.channels = c'.channels
  field : ∀ a, c.field? a = c'.field? a
  /-- Each channel has angles, unless an azimuth is too far from the start of its field. -/
  answers : ∀ channel < c.channels.size, ∀ a, (∃ x, c.elevationAt? channel a = some x) ∧
    ∀ field (inside : field < c.fields.size),
      WordRange.int64.contains (a - c.fields[field].start) = true →
        ∃ x, c.azimuthAt channel field a = .ok x
  elevationOffset : ∀ channel < c.channels.size, ∀ a,
    c.elevationOffset? channel a = c'.elevationOffset? channel a
  azimuthOffset : ∀ channel < c.channels.size, ∀ a,
    c.azimuthOffset? channel a = c'.azimuthOffset? channel a
  elevation : ∀ channel < c.channels.size, ∀ a,
    c.elevationAt? channel a = c'.elevationAt? channel a
  azimuth : ∀ channel < c.channels.size, ∀ field a,
    c.azimuthAt channel field a = c'.azimuthAt channel field a

/-- Calibrations agree if they hold the same, except behind the offsets of the last channel. -/
theorem agree_of_entries {c c' : SweepCalibration} (filled : c.Filled)
    (fields : c.fields = c'.fields) (channels : c.channels = c'.channels)
    (azimuths : ∀ k < c.channels.size * offsetsPerChannel,
      c.azimuthOffsets[k]? = c'.azimuthOffsets[k]?)
    (elevations : ∀ k < c.channels.size * offsetsPerChannel,
      c.elevationOffsets[k]? = c'.elevationOffsets[k]?) : Agree c c' := by
  have own {channel k : Nat} (known : channel < c.channels.size)
      (inside : k < (channel + 1) * offsetsPerChannel) :
      k < c.channels.size * offsetsPerChannel :=
    Nat.lt_of_lt_of_le inside (Nat.mul_le_mul_right _ known)
  have elevationOffset (channel : Nat) (known : channel < c.channels.size) (a : Int) :
      c.elevationOffset? channel a = c'.elevationOffset? channel a :=
    offset?_congr (fun k inside => elevations k (own known inside)) a
  have azimuthOffset (channel : Nat) (known : channel < c.channels.size) (a : Int) :
      c.azimuthOffset? channel a = c'.azimuthOffset? channel a :=
    offset?_congr (fun k inside => azimuths k (own known inside)) a
  refine ⟨channels, ?_, ?_, elevationOffset, azimuthOffset, ?_, ?_⟩
  · intro a
    rw [field?, field?, fields]
  · intro channel known a
    exact ⟨exists_elevationAt filled known a,
      fun field inside near => exists_azimuthAt filled known inside near⟩
  · intro channel known a
    rw [elevationAt?, elevationAt?, elevationOffset channel known, channels]
  · intro channel known field a
    rw [azimuthAt, azimuthAt, azimuthOffset channel known, channels, fields]

/-- The words of version 5 that restate those of version 3. -/
def Sections.restated (s : Sections) (channels : Nat) (digest : Vector UInt8 32) : Sections where
  starts := s.starts.map (256 * ·)
  stops := s.stops.map (256 * ·)
  azimuths := s.azimuths.map (256 * ·)
  elevations := s.elevations.map (256 * ·)
  azimuthOffsets := s.azimuthOffsets.take (channels * offsetsPerChannel)
  elevationOffsets := s.elevationOffsets.take (channels * offsetsPerChannel)
  digest

section Restated

variable {new old : Bytes} {h h' : BlobHeader} {s : Sections}

theorem Restates.exists_header {channels frames : Nat} (restates : Restates new old channels frames)
    (read : BlobHeader.read? old = some h) :
    ∃ h', BlobHeader.read? new = some h' ∧ h'.delimiter = #v[0xEE, 0xFF] ∧ h'.minor = 5 ∧
      h'.channels = h.channels ∧ h'.frames = h.frames ∧ h'.resolution = 1 := by
  obtain ⟨-, -, -, hchannels, hfacets, hframes, -, -⟩ := BlobHeader.read?_eq_some_iff.1 read
  have complete := restates.complete
  obtain ⟨major, hmajor⟩ := Option.isSome_iff_exists.1
    (Bytes.byte?_isSome (b := new) (i := 2) |>.2 (by omega))
  obtain ⟨config, hconfig⟩ := Option.isSome_iff_exists.1
    (Bytes.vector?_isSome (b := new) (i := 7) (n := 8) |>.2 (by omega))
  refine ⟨⟨#v[0xEE, 0xFF], major, 5, h.channels, h.facets, h.frames, config, 1⟩,
    BlobHeader.read?_eq_some_iff.2 ⟨restates.delimiter, hmajor, restates.newVersion, ?_, ?_, ?_,
      hconfig, restates.resolution⟩, rfl, rfl, rfl, rfl, rfl⟩
  · rw [restates.counts 4 (by decide) (by decide), hchannels]
  · rw [restates.counts 5 (by decide) (by decide), hfacets]
  · rw [restates.counts 6 (by decide) (by decide), hframes]

theorem unsigned?_restated {channels resolution : UInt8} {i j : Nat}
    (same : (new.word32? i).map (·.toNat) = (old.word16? j).map (256 * ·.toNat)) :
    (longWords channels resolution).unsigned? new i =
      (shortWords.unsigned? old j).map (256 * ·) := by
  have cast := congrArg (Option.map Int.ofNat) same
  simp only [longWords, shortWords, Option.map_map, Function.comp_def, Int.ofNat_eq_natCast,
    Int.natCast_mul] at cast ⊢
  exact cast

theorem signed?_restated {channels resolution : UInt8} {i j : Nat}
    (same : (new.word32? i).map (·.toInt32.toInt) = (old.int16? j).map (256 * ·.toInt)) :
    (longWords channels resolution).signed? new i = (shortWords.signed? old j).map (256 * ·) := by
  simpa only [longWords, shortWords, Option.map_map, Function.comp_def] using same

/-- The front of an offset table that is written elsewhere. -/
theorem offsets?_restated {i j m n : Nat} {ws : List Int} (fewer : m ≤ n)
    (same : ∀ k < m, new.byte? (i + k) = old.byte? (j + k))
    (read : words? (signedByte? old) j 1 n = some ws) :
    words? (signedByte? new) i 1 m = some (ws.take m) := by
  have moved : words? (signedByte? new) i 1 m = words? (signedByte? old) j 1 m := by
    apply words?_congr
    intro k hk
    rw [signedByte?, signedByte?, Nat.one_mul, same k hk]
  rw [moved, words?_take fewer read]

theorem Restates.readFrom (restates : Restates new old h.channels.toNat h.frames.toNat)
    (read : s.ReadFrom old h shortWords) (channels : h'.channels = h.channels)
    (frames : h'.frames = h.frames) :
    ∃ digest, (s.restated h.channels.toNat digest).ReadFrom new h'
      (longWords h'.channels h'.resolution) := by
  obtain ⟨stops, azimuths, elevations, azimuthOffsets, elevationOffsets, -⟩ :=
    Encoding.places_shortWords h
  obtain ⟨stops', azimuths', elevations', azimuthOffsets', elevationOffsets', digest'⟩ :=
    Encoding.places_longWords h' h'.resolution
  have fewer : h.channels.toNat * offsetsPerChannel ≤ shortWords.offsetCount := read.enough
  have front {i : Nat} (inside : i < h.channels.toNat * offsetsPerChannel) :
      i < 180 * h.channels.toNat := by
    rwa [Nat.mul_comm] at inside
  obtain ⟨digest, hdigest⟩ := Option.isSome_iff_exists.1
    (Bytes.vector?_isSome.2 restates.complete)
  refine ⟨digest, ?_⟩
  constructor
  · rw [frames]
    exact words?_map (fun i hi => unsigned?_restated (restates.starts i hi)) read.starts
  · rw [stops', frames]
    refine words?_map (fun i hi => unsigned?_restated ?_) (stops ▸ read.stops)
    exact restates.stops i hi
  · rw [azimuths', frames, channels]
    refine words?_map (fun i hi => signed?_restated ?_) (azimuths ▸ read.azimuths)
    exact restates.azimuths i hi
  · rw [elevations', frames, channels]
    refine words?_map (fun i hi => signed?_restated ?_) (elevations ▸ read.elevations)
    exact restates.elevations i hi
  · exact Nat.le_refl _
  · rw [azimuthOffsets', frames, channels]
    refine offsets?_restated fewer (fun k hk => ?_) (azimuthOffsets ▸ read.azimuthOffsets)
    exact restates.azimuthOffsets k (front hk)
  · rw [elevationOffsets', frames, channels]
    refine offsets?_restated fewer (fun k hk => ?_) (elevationOffsets ▸ read.elevationOffsets)
    exact restates.elevationOffsets k (front hk)
  · rw [digest', frames, channels]
    exact hdigest

end Restated

section Values

variable {channels : UInt8}

theorem angle_restated {x : Int} (fits : -32768 ≤ x ∧ x < 32768) :
    (longWords channels 1).angle (256 * x) = shortWords.angle x := by
  have product : (256 * x) * ((1 : UInt8).toNat : Int) = x * fineSteps := by
    rw [fineSteps]
    change 256 * x * 1 = x * 256
    omega
  have wrapped : wrap32 (x * fineSteps) = x * fineSteps := by
    rw [fineSteps]
    exact wrap32_of_fits (by omega) (by omega)
  change wrap32 (256 * x * ((1 : UInt8).toNat : Int)) = x * fineSteps
  rw [product, wrapped]

theorem boundary_restated (x : Int) :
    (longWords channels 1).boundary (256 * x) = shortWords.boundary x := by
  change 256 * x * 1 = x * 256
  omega

theorem offset_restated {x : Int} (fits : -128 ≤ x ∧ x < 128) :
    (longWords channels 1).offset x = x := by
  change wrap32 (x * 1) = x
  rw [Int.mul_one]
  exact wrap32_of_fits (by omega) (by omega)

/-- Both tables have the same entries for the channels that version 5 has entries for. -/
theorem offsets_restated {b : Bytes} {i n k m : Nat} {ws : List Int}
    (read : words? (signedByte? b) i 1 n = some ws) (inside : k < m) :
    ((ws.map shortWords.offset).toArray)[k]? =
      (((ws.take m).map (longWords channels 1).offset).toArray)[k]? := by
  have fits (x : Int) (listed : x ∈ ws.take m) : (longWords channels 1).offset x = id x :=
    offset_restated (forall_mem_words? signedByte?_fits read x (List.mem_of_mem_take listed))
  rw [List.map_congr_left fits, List.map_id, List.getElem?_toArray, List.getElem?_toArray,
    List.getElem?_take_of_lt inside]
  exact congrArg (·[k]?) (List.map_id ws)

end Values

section Calibrations

variable {old : Bytes} {h h' : BlobHeader} {s : Sections} {digest : Vector UInt8 32} {n : Nat}

theorem fields_restated :
    ((s.restated n digest).calibration h' (longWords h'.channels 1)).fields =
      (s.calibration h shortWords).fields := by
  simp only [Sections.calibration, Sections.restated, List.zipWith_map, boundary_restated]

theorem channels_restated (read : s.ReadFrom old h shortWords) :
    ((s.restated n digest).calibration h' (longWords h'.channels 1)).channels =
      (s.calibration h shortWords).channels := by
  have azimuths := forall_mem_words? signed?_shortWords_fits read.azimuths
  have elevations := forall_mem_words? signed?_shortWords_fits read.elevations
  have angles {ws : List Int} (fits : ∀ x ∈ ws, -32768 ≤ x ∧ x < 32768) :
      (ws.map (256 * ·)).map (longWords h'.channels 1).angle = ws.map shortWords.angle := by
    rw [List.map_map]
    exact List.map_congr_left fun x listed => angle_restated (fits x listed)
  have apart (e : Encoding) (vs as : List Int) :
      List.zipWith (fun v a => (⟨e.angle v, e.angle a⟩ : Direction)) vs as =
        List.zipWith Direction.mk (vs.map e.angle) (as.map e.angle) :=
    (List.zipWith_map).symm
  simp only [Sections.calibration, Sections.restated, apart, angles azimuths, angles elevations]

theorem agree_restated (read : s.ReadFrom old h shortWords)
    (filled : (s.calibration h shortWords).Filled) (n_eq : n = h.channels.toNat) :
    Agree (s.calibration h shortWords)
      ((s.restated n digest).calibration h' (longWords h'.channels 1)) := by
  have count : (s.calibration h shortWords).channels.size = n := by
    rw [read.size_channels, n_eq]
  apply agree_of_entries filled fields_restated.symm (channels_restated read).symm
  · intro k inside
    rw [count] at inside
    exact offsets_restated read.azimuthOffsets inside
  · intro k inside
    rw [count] at inside
    exact offsets_restated read.elevationOffsets inside

theorem exists_parse_restated {new : Bytes} {c : SweepCalibration} (parsed : parse old = .ok c)
    (restates : Restates new old c.channelNumber.toNat c.frameNumber.toNat) :
    ∃ c', parse new = .ok c' ∧ Agree c c' := by
  obtain ⟨h, e, header, -, counted, encoded, body⟩ := parse_eq_ok_iff.1 parsed
  have minor : h.minor = 3 := by
    obtain ⟨-, -, hminor, -⟩ := BlobHeader.read?_eq_some_iff.1 header
    exact Option.some.inj (hminor.symm.trans restates.oldVersion)
  obtain rfl := Option.some.inj ((encoding?_shortWords minor).symm.trans encoded)
  obtain ⟨s, read, rfl⟩ := parseBody_eq_ok_iff.1 body
  obtain ⟨h', header', delimiter, minor', channels, frames, resolution⟩ :=
    restates.exists_header header
  obtain ⟨digest, read'⟩ := restates.readFrom read channels frames
  have counted' : ¬(h'.channels = 0 ∨ h'.frames = 0) := by rwa [channels, frames]
  have body' := parseBody_eq_ok_iff.2 ⟨_, read', rfl⟩
  refine ⟨_, parse_eq_ok_iff.2 ⟨h', _, header', delimiter, counted', encoding?_longWords minor',
    body'⟩, ?_⟩
  rw [resolution]
  exact agree_restated read (filled_of_parse parsed) rfl

end Calibrations

end SweepCalibration

/-- Calibrations that agree serve alike. -/
theorem AT128.alike_of_agree {c c' : SweepCalibration} (agree : c.Agree c') :
    (correction c).Alike (correction c') := by
  constructor
  · rw [correction, correction, agree.channels]
  · rfl
  · intro h covered _ _ b returns
    have known : b.returns.length ≤ c.channels.size := by
      rw [returns]
      exact Nat.le_trans covered (Nat.le_of_eq Array.size_map)
    change Aim.Alike b.returns.length (aim c b) (aim c' b)
    rw [aim, aim, ← agree.field]
    cases c.field? (blockAzimuth b) with
    | none => trivial
    | some field =>
      refine ⟨rfl, fun channel fired => ?_⟩
      have inside : channel < c.channels.size := Nat.lt_of_lt_of_le fired known
      dsimp only
      rw [direction, direction, agree.elevation channel inside, agree.azimuth channel inside]

namespace Decoder

/-- What a decoder answers to packets one after the other, and what it leaves in their buffers. -/
def answers (d : Decoder) : List (Bytes × Buffers) → List (Verdict × Buffers)
  | [] => []
  | (packet, out) :: rest =>
    let (verdict, next, left) := d.decode packet out
    (verdict, left) :: next.answers rest

theorem answers_of_agree {c c' : SweepCalibration} (agree : c.Agree c')
    {s t : State (Option SweepCalibration)} (loaded : s.tables = some c)
    (loaded' : t.tables = some c') (splitters : s.splitter = t.splitter)
    (calls : List (Bytes × Buffers)) : (at128 s).answers calls = (at128 t).answers calls := by
  induction calls generalizing s t with
  | nil => rfl
  | cons call rest ih =>
    obtain ⟨packet, out⟩ := call
    have here : AT128.family.correction? s.tables = some (AT128.correction c) :=
      congrArg (Option.map AT128.correction) loaded
    have there : AT128.family.correction? t.tables = some (AT128.correction c') :=
      congrArg (Option.map AT128.correction) loaded'
    obtain ⟨verdict, frame, left⟩ :=
      Family.decode_congr here there (AT128.alike_of_agree agree) splitters packet out
    have later := ih ((AT128.family.decode_tables s packet out).trans loaded)
      ((AT128.family.decode_tables t packet out).trans loaded') frame
    rw [answers, answers]
    exact congrArg₂ List.cons (congrArg₂ Prod.mk verdict left) later

/-- Loading a calibration of version 3 or one of version 5 that restates it makes no difference. If
the first is read, so is the second; both give the same fields, angles and offsets; and two decoders
that remember the same azimuth answer all packets alike, whichever of the two each has loaded. -/
theorem sweep_versions_agree (old new : Bytes) (c : SweepCalibration)
    (parsed : SweepCalibration.parse old = .ok c)
    (restates : SweepCalibration.Restates new old c.channelNumber.toNat c.frameNumber.toNat) :
    ∃ c', SweepCalibration.parse new = .ok c' ∧ c.Agree c' ∧
      ∀ s t : State (Option SweepCalibration), s.splitter = t.splitter →
        ∃ d e, (at128 s).loadCalibration old = .ok d ∧ (at128 t).loadCalibration new = .ok e ∧
          (∀ channel, d.verticalAngle channel = e.verticalAngle channel) ∧
          ∀ calls, d.answers calls = e.answers calls := by
  obtain ⟨c', parsed', agree⟩ := SweepCalibration.exists_parse_restated parsed restates
  refine ⟨c', parsed', agree, fun s t splitters => ?_⟩
  refine ⟨at128 { s with tables := some c }, at128 { t with tables := some c' }, ?_, ?_, ?_, ?_⟩
  · rw [loadCalibration, load, parsed]
    rfl
  · rw [loadCalibration, load, parsed']
    rfl
  · intro channel
    have elevations := (AT128.alike_of_agree agree).elevations
    exact congrArg (elevationDegrees AT128.family.angles · channel) elevations
  · intro calls
    exact answers_of_agree (s := { s with tables := some c }) (t := { t with tables := some c' })
      agree rfl rfl splitters calls

open SweepCalibration

def padded (front : Bytes) (n : Nat) : Bytes := front ++ Array.replicate n 0xFE

section Padded

variable (front : Bytes) (n : Nat)

theorem padded_front : Span.Agree ⟨0, front.size⟩ (padded front n) front := by
  rw [padded]
  exact Span.agree_append _ (Nat.le_of_eq (Span.stop_front _))

variable {front n} in
theorem padded_behind {i : Nat} (behind : front.size ≤ i) (inside : i < front.size + n) :
    (padded front n).byte? i = some 0xFE := by
  rw [padded, Bytes.byte?, Array.getElem?_append_right behind, Array.getElem?_replicate,
    if_pos (by omega)]

theorem size_padded : (padded front n).size = front.size + n := by
  rw [padded, Array.size_append, Array.size_replicate]

end Padded

def shortFront : Bytes :=
  #[0xEE, 0xFF, 1, 3, 1, 3, 1, 0, 0, 0, 0, 0, 0, 0, 0, 100,
    0xFF, 0xFF, 0, 0, 0x00, 0x80, 0xFF, 0x7F]

def longFront : Bytes :=
  #[0xEE, 0xFF, 2, 5, 1, 3, 1, 0, 0, 0, 0, 0, 0, 0, 0, 1,
    0, 0xFF, 0xFF, 0, 0, 0, 0, 0, 0, 0x00, 0x80, 0xFF, 0, 0xFF, 0x7F, 0]

theorem exists_parse_shortFront : ∃ c, parse (padded shortFront 72032) = .ok c ∧
    c.channelNumber = 1 ∧ c.frameNumber = 1 := by
  have front := padded_front shortFront 72032
  have complete : Complete (padded shortFront 72032) := by
    refine .of_agree front rfl (by decide) (by decide) (by decide) (by decide) ?_
    rw [size_padded]
    decide
  obtain ⟨c, parsed⟩ := exists_parse_iff.2 complete
  obtain ⟨channels, frames⟩ := counts_of_parse parsed
  exact ⟨c, parsed, channels.trans (front.peek_eq (by decide)),
    frames.trans (front.peek_eq (by decide))⟩

theorem restates_longFront : Restates (padded longFront 392) (padded shortFront 72032) 1 1 := by
  have old := padded_front shortFront 72032
  have new := padded_front longFront 392
  have shortSize : shortFront.size = 24 := rfl
  have longSize : longFront.size = 32 := rfl
  constructor
  · rw [new.vector? (by decide) (by decide) (by decide)]
    decide
  · rw [old.byte? (by decide) (by decide)]
    decide
  · rw [new.byte? (by decide) (by decide)]
    decide
  · intro i low high
    have short : i + 1 ≤ 24 := by omega
    have long : i + 1 ≤ 32 := by omega
    rw [old.byte? (Nat.zero_le i) short, new.byte? (Nat.zero_le i) long]
    obtain rfl | rfl | rfl : i = 4 ∨ i = 5 ∨ i = 6 := by omega
    all_goals rfl
  · rw [new.byte? (by decide) (by decide)]
    decide
  · intro i hi
    obtain rfl := Nat.lt_one_iff.1 hi
    rw [new.word32? (by decide) (by decide), old.word16? (by decide) (by decide)]
    decide
  · intro i hi
    obtain rfl := Nat.lt_one_iff.1 hi
    rw [new.word32? (by decide) (by decide), old.word16? (by decide) (by decide)]
    decide
  · intro i hi
    obtain rfl := Nat.lt_one_iff.1 hi
    rw [new.word32? (by decide) (by decide), old.int16? (by decide) (by decide)]
    decide
  · intro i hi
    obtain rfl := Nat.lt_one_iff.1 hi
    rw [new.word32? (by decide) (by decide), old.int16? (by decide) (by decide)]
    decide
  · intro i hi
    rw [padded_behind (by omega) (by omega), padded_behind (by omega) (by omega)]
  · intro i hi
    rw [padded_behind (by omega) (by omega), padded_behind (by omega) (by omega)]
  · rw [size_padded]
    decide

/-- Extreme words and negative offsets come out the same. -/
theorem sweep_versions_agree_longFront :
    ∃ c c', parse (padded shortFront 72032) = .ok c ∧ parse (padded longFront 392) = .ok c' ∧
      c.Agree c' := by
  obtain ⟨c, parsed, channels, frames⟩ := exists_parse_shortFront
  have restates : Restates (padded longFront 392) (padded shortFront 72032)
      c.channelNumber.toNat c.frameNumber.toNat := by
    rw [channels, frames]
    exact restates_longFront
  obtain ⟨c', parsed', agree, -⟩ := sweep_versions_agree _ _ c parsed restates
  exact ⟨c, c', parsed, parsed', agree⟩

end Decoder

end Lidar
