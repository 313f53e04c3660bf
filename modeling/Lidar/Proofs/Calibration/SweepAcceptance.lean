import Lidar.Proofs.Calibration.SweepBlob
import Lidar.Proofs.Wire.Sections

namespace Lidar.SweepCalibration

variable {b b' : Bytes} {h : BlobHeader} {e : Encoding}

/-- The header in the first bytes of a blob. -/
def BlobHeader.ofBytes (b : Bytes) : BlobHeader where
  delimiter := #v[b.peek 0, b.peek 1]
  major := b.peek 2
  minor := b.peek 3
  channels := b.peek 4
  facets := b.peek 5
  frames := b.peek 6
  frameConfig := Vector.ofFn fun i => b.peek (7 + i)
  resolution := b.peek 15

theorem BlobHeader.read?_eq_ofBytes (whole : 16 ≤ b.size) : read? b = some (ofBytes b) := by
  have peeked (i : Nat) (hi : i < 16) : b[i]? = some (b.peek i) := Bytes.getElem?_peek (by omega)
  refine read?_eq_some_iff.2 ⟨?_, peeked 2 (by decide), peeked 3 (by decide), peeked 4 (by decide),
    peeked 5 (by decide), peeked 6 (by decide), ?_, peeked 15 (by decide)⟩
  · rw [Bytes.vector?_eq_some_iff (by decide)]
    intro k hk
    obtain rfl | rfl : k = 0 ∨ k = 1 := by omega
    · exact peeked 0 (by decide)
    · exact peeked 1 (by decide)
  · rw [Bytes.vector?_eq_some_iff (by decide)]
    intro k hk
    rw [peeked (7 + k) (by omega), ofBytes, Vector.getElem_ofFn]

theorem BlobHeader.isSome_read?_iff : (read? b).isSome ↔ 16 ≤ b.size := by
  constructor
  · intro read
    obtain ⟨h, read⟩ := Option.isSome_iff_exists.1 read
    obtain ⟨-, -, -, -, -, -, -, last⟩ := read?_eq_some_iff.1 read
    exact Bytes.byte?_isSome.1 (Option.isSome_iff_exists.2 ⟨_, last⟩)
  · intro whole
    rw [read?_eq_ofBytes whole]
    rfl

theorem BlobHeader.eq_ofBytes (read : read? b = some h) : h = ofBytes b := by
  have whole := isSome_read?_iff.1 (Option.isSome_iff_exists.2 ⟨h, read⟩)
  exact Option.some.inj (read.symm.trans (read?_eq_ofBytes whole))

/-- An encoding as the version of a header asks for it: how long words and tables are, and that a
word is there if its bytes are, and is known from them. -/
structure Encoding.Suits (e : Encoding) (h : BlobHeader) : Prop where
  wordSize : e.wordSize = if h.minor = 3 then 2 else 4
  offsetCount : e.offsetCount = if h.minor = 3 then 36000 else 180 * h.channels.toNat
  unsigned : ∀ b i, (e.unsigned? b i).isSome ↔ i + e.wordSize ≤ b.size
  signed : ∀ b i, (e.signed? b i).isSome ↔ i + e.wordSize ≤ b.size
  unsigned_congr : ∀ {s : Span} {b b' i}, s.Agree b b' → s.start ≤ i → i + e.wordSize ≤ s.stop →
    e.unsigned? b i = e.unsigned? b' i
  signed_congr : ∀ {s : Span} {b b' i}, s.Agree b b' → s.start ≤ i → i + e.wordSize ≤ s.stop →
    e.signed? b i = e.signed? b' i

theorem suits_shortWords (minor : h.minor = 3) : shortWords.Suits h where
  wordSize := (if_pos minor).symm
  offsetCount := (if_pos minor).symm
  unsigned b i := by rw [shortWords, Option.isSome_map, Bytes.word16?_isSome]
  signed b i := by rw [shortWords, Option.isSome_map, Bytes.int16?_isSome]
  unsigned_congr same front back :=
    congrArg (Option.map fun w : UInt16 => (w.toNat : Int)) (same.word16? front back)
  signed_congr same front back := congrArg (Option.map Int16.toInt) (same.int16? front back)

theorem suits_longWords (minor : h.minor = 5) : (longWords h.channels h.resolution).Suits h := by
  have other : h.minor ≠ 3 := by
    rw [minor]
    decide
  exact {
    wordSize := (if_neg other).symm
    offsetCount := (Nat.mul_comm _ _).trans (if_neg other).symm
    unsigned := fun b i => by rw [longWords, Option.isSome_map, Bytes.word32?_isSome]
    signed := fun b i => by rw [longWords, Option.isSome_map, Bytes.word32?_isSome]
    unsigned_congr := fun same front back =>
      congrArg (Option.map fun w : UInt32 => (w.toNat : Int)) (same.word32? front back)
    signed_congr := fun same front back =>
      congrArg (Option.map fun w : UInt32 => w.toInt32.toInt) (same.word32? front back) }

/-- There are two versions. -/
theorem encoding?_eq_some_iff : encoding? h = some e ↔
    (h.minor = 3 ∧ e = shortWords) ∨ (h.minor = 5 ∧ e = longWords h.channels h.resolution) := by
  constructor
  · intro encoded
    by_cases short : h.minor = 3
    · rw [encoding?_shortWords short] at encoded
      exact .inl ⟨short, (Option.some.inj encoded).symm⟩
    · by_cases long : h.minor = 5
      · rw [encoding?_longWords long] at encoded
        exact .inr ⟨long, (Option.some.inj encoded).symm⟩
      · rw [encoding?, if_neg short, if_neg long] at encoded
        cases encoded
  · rintro (⟨short, rfl⟩ | ⟨long, rfl⟩)
    · exact encoding?_shortWords short
    · exact encoding?_longWords long

theorem suits_of_encoding? (encoded : encoding? h = some e) : e.Suits h := by
  obtain ⟨short, rfl⟩ | ⟨long, rfl⟩ := encoding?_eq_some_iff.1 encoded
  · exact suits_shortWords short
  · exact suits_longWords long

theorem encoding?_eq_none_iff : encoding? h = none ↔ ¬(h.minor = 3 ∨ h.minor = 5) := by
  rw [← Option.not_isSome_iff_eq_none, Option.isSome_iff_exists]
  simp only [encoding?_eq_some_iff, exists_or, exists_and_left, exists_eq, and_true]

theorem require_eq_error_iff {α β : Type} {part : BlobSection} {x : Option α}
    {f : α → Except LoadError β} {error : LoadError} {there : Prop}
    {rs : List (Prop × LoadError)} (found : x.isSome ↔ there)
    (behind : ∀ a, x = some a → (f a = .error error ↔ FirstUnmet rs error)) :
    (require part x >>= f) = .error error ↔
      FirstUnmet ((there, .truncated part) :: rs) error := by
  rw [FirstUnmet, ← found]
  cases x with
  | none => simp [require, bind, Except.bind, eq_comm]
  | some a => simp [require, bind, Except.bind, behind a rfl]

/-- The words of a section are there if its last byte is. -/
theorem isSome_words?_iff {read : Nat → Option Int} {start width n size : Nat} (some : 0 < n)
    (each : ∀ i, (read i).isSome ↔ i + width ≤ size) :
    (words? read start width n).isSome ↔ start + width * n ≤ size := by
  rw [words?, isSome_mapM_iff]
  simp only [List.mem_range, each]
  constructor
  · intro all
    have last := all (n - 1) (by omega)
    rwa [Nat.add_assoc, ← Nat.mul_succ, Nat.succ_eq_add_one, Nat.sub_add_cancel some] at last
  · intro whole i hi
    have front : width * (i + 1) ≤ width * n := Nat.mul_le_mul_left width hi
    rw [Nat.mul_succ] at front
    omega

theorem isSome_signedByte?_iff (b : Bytes) (i : Nat) :
    (signedByte? b i).isSome ↔ i + 1 ≤ b.size := by
  rw [signedByte?, Option.isSome_map, Bytes.byte?_isSome]

/-- The sections behind the header, each up to its end: those of the fields, those of the channels,
the offsets, and the digest. The tables of version 3 have room for 200 channels. -/
def sectionRequirements (b : Bytes) : List (Prop × LoadError) :=
  let version := b.peek 3
  let channels := (b.peek 4).toNat
  let frames := (b.peek 6).toNat
  let wordSize := if version = 3 then 2 else 4
  let offsets := if version = 3 then 36000 else 180 * channels
  let stopsAt := 16 + wordSize * frames
  let azimuthsAt := stopsAt + wordSize * frames
  let elevationsAt := azimuthsAt + wordSize * channels
  let azimuthOffsetsAt := elevationsAt + wordSize * channels
  let elevationOffsetsAt := azimuthOffsetsAt + offsets
  let digestAt := elevationOffsetsAt + offsets
  [(stopsAt ≤ b.size, .truncated .startFrames),
    (azimuthsAt ≤ b.size, .truncated .endFrames),
    (elevationsAt ≤ b.size, .truncated .azimuth),
    (azimuthOffsetsAt ≤ b.size, .truncated .elevation),
    (version = 3 → channels ≤ 200, .unsupportedVersion version),
    (elevationOffsetsAt ≤ b.size, .truncated .azimuthOffsets),
    (digestAt ≤ b.size, .truncated .elevationOffsets),
    (digestAt + 32 ≤ b.size, .truncated .digest)]

/-- What reading asks of a blob, in the order of reading. -/
def requirements (b : Bytes) : List (Prop × LoadError) :=
  [(16 ≤ b.size, .truncated .header),
    (b.peek 0 = 0xEE ∧ b.peek 1 = 0xFF, .invalidDelimiter),
    (b.peek 4 ≠ 0 ∧ b.peek 6 ≠ 0, .empty),
    (b.peek 3 = 3 ∨ b.peek 3 = 5, .unsupportedVersion (b.peek 3))] ++ sectionRequirements b

theorem parseBody_eq_error_iff (suits : e.Suits (.ofBytes b)) (channels : b.peek 4 ≠ 0)
    (frames : b.peek 6 ≠ 0) {error : LoadError} :
    parseBody b (.ofBytes b) e = .error error ↔ FirstUnmet (sectionRequirements b) error := by
  have wordSize : (if b.peek 3 = 3 then 2 else 4) = e.wordSize := suits.wordSize.symm
  have offsetCount : (if b.peek 3 = 3 then 36000 else 180 * (b.peek 4).toNat) = e.offsetCount :=
    suits.offsetCount.symm
  have someFrames : 0 < (b.peek 6).toNat :=
    Nat.pos_of_ne_zero fun none => frames (UInt8.toNat_inj.1 none)
  have someChannels : 0 < (b.peek 4).toNat :=
    Nat.pos_of_ne_zero fun none => channels (UInt8.toNat_inj.1 none)
  have someOffsets : 0 < e.offsetCount := by
    rw [← offsetCount]
    split_ifs <;> omega
  have offsets (start : Nat) : (words? (signedByte? b) start 1 e.offsetCount).isSome ↔
      start + e.offsetCount ≤ b.size := by
    rw [isSome_words?_iff someOffsets (isSome_signedByte?_iff b), Nat.one_mul]
  have limit : e.offsetCount < (b.peek 4).toNat * offsetsPerChannel ↔
      ¬(b.peek 3 = 3 → (b.peek 4).toNat ≤ 200) := by
    rw [← offsetCount, offsetsPerChannel, Classical.not_imp]
    by_cases short : b.peek 3 = 3
    · rw [if_pos short, and_iff_right short]
      omega
    · rw [if_neg short]
      exact ⟨fun less => by omega, fun both => absurd both.1 short⟩
  dsimp only [sectionRequirements]
  rw [wordSize, offsetCount]
  refine require_eq_error_iff (isSome_words?_iff someFrames (suits.unsigned b)) fun _ _ => ?_
  refine require_eq_error_iff (isSome_words?_iff someFrames (suits.unsigned b)) fun _ _ => ?_
  refine require_eq_error_iff (isSome_words?_iff someChannels (suits.signed b)) fun _ _ => ?_
  refine require_eq_error_iff (isSome_words?_iff someChannels (suits.signed b)) fun _ _ => ?_
  refine guard_eq_error_iff limit fun _ => ?_
  refine require_eq_error_iff (offsets _) fun _ _ => ?_
  refine require_eq_error_iff (offsets _) fun _ _ => ?_
  refine require_eq_error_iff Bytes.vector?_isSome fun _ _ => ?_
  constructor
  · intro made
    cases made
  · exact False.elim

/-- A blob is refused for the first thing that it lacks. -/
theorem parse_eq_error_iff (b : Bytes) (error : LoadError) :
    parse b = .error error ↔ FirstUnmet (requirements b) error := by
  refine require_eq_error_iff BlobHeader.isSome_read?_iff fun h read => ?_
  obtain rfl := BlobHeader.eq_ofBytes read
  have delimiter : (BlobHeader.ofBytes b).delimiter ≠ #v[0xEE, 0xFF] ↔
      ¬(b.peek 0 = 0xEE ∧ b.peek 1 = 0xFF) := by
    simp [BlobHeader.ofBytes]
  have counts : ((BlobHeader.ofBytes b).channels = 0 ∨ (BlobHeader.ofBytes b).frames = 0) ↔
      ¬(b.peek 4 ≠ 0 ∧ b.peek 6 ≠ 0) := by
    rw [not_and_or, not_not, not_not]
    exact Iff.rfl
  refine guard_eq_error_iff delimiter fun _ => guard_eq_error_iff counts fun counted => ?_
  cases encoded : encoding? (BlobHeader.ofBytes b) with
  | none =>
    have other : ¬(b.peek 3 = 3 ∨ b.peek 3 = 5) := encoding?_eq_none_iff.1 encoded
    exact ⟨fun refused => .inl ⟨other, (Except.error.inj refused).symm⟩,
      fun unmet => unmet.elim (fun this => congrArg Except.error this.2.symm)
        fun this => absurd this.1 other⟩
  | some e =>
    have known : b.peek 3 = 3 ∨ b.peek 3 = 5 :=
      (encoding?_eq_some_iff.1 encoded).imp And.left And.left
    have body : parseBody b (.ofBytes b) e = .error error ↔
        FirstUnmet (sectionRequirements b) error :=
      parseBody_eq_error_iff (suits_of_encoding? encoded) counted.1 counted.2
    exact ⟨fun refused => .inr ⟨known, body.1 refused⟩,
      fun unmet => unmet.elim (fun this => absurd known this.1) fun this => body.2 this.2⟩

/-- How long a blob has to be, from its header. -/
def blobSize (b : Bytes) : Nat :=
  let channels := (b.peek 4).toNat
  let frames := (b.peek 6).toNat
  if b.peek 3 = 3 then 16 + 4 * frames + 4 * channels + 72000 + 32
  else 16 + 8 * frames + 8 * channels + 360 * channels + 32

/-- Header, delimiter and counts are there, the version is known and has room for the channels, and
the blob is long enough. -/
structure Complete (b : Bytes) : Prop where
  header : 16 ≤ b.size
  delimiter : b.peek 0 = 0xEE ∧ b.peek 1 = 0xFF
  counts : b.peek 4 ≠ 0 ∧ b.peek 6 ≠ 0
  version : (b.peek 3 = 3 ∧ (b.peek 4).toNat ≤ 200) ∨ b.peek 3 = 5
  whole : blobSize b ≤ b.size

/-- The last section decides. -/
theorem requirements_met_iff : (∀ r ∈ requirements b, r.1) ↔ Complete b := by
  simp only [requirements, sectionRequirements, List.forall_mem_append, List.forall_mem_cons,
    List.not_mem_nil, false_implies, implies_true, and_true]
  constructor
  · rintro ⟨⟨header, delimiter, counts, version⟩, -, -, -, -, limit, -, -, whole⟩
    refine ⟨header, delimiter, counts, version.imp_left fun short => ⟨short, limit short⟩, ?_⟩
    rw [blobSize]
    split_ifs at whole ⊢ <;> omega
  · rintro ⟨header, delimiter, counts, version, whole⟩
    rw [blobSize] at whole
    have limit (short : b.peek 3 = 3) : (b.peek 4).toNat ≤ 200 := by
      rcases version with ⟨-, few⟩ | long
      · exact few
      · rw [short] at long
        exact absurd long (by decide)
    refine ⟨⟨header, delimiter, counts, version.imp_left And.left⟩, ?_⟩
    split_ifs at whole ⊢ <;> refine ⟨?_, ?_, ?_, ?_, limit, ?_, ?_, ?_⟩ <;> omega

theorem exists_parse_iff : (∃ c, parse b = .ok c) ↔ Complete b := by
  rw [← requirements_met_iff, ← not_iff_not, ← exists_firstUnmet_iff]
  simp only [← parse_eq_error_iff]
  cases parse b <;> simp

/-- A blob with the header of another is complete if it is as long as that header asks for. -/
theorem Complete.of_agree {front : Bytes} {s : Span} (same : s.Agree b front) (start : s.start = 0)
    (stop : 16 ≤ s.stop) (delimiter : front.peek 0 = 0xEE ∧ front.peek 1 = 0xFF)
    (counts : front.peek 4 ≠ 0 ∧ front.peek 6 ≠ 0)
    (version : (front.peek 3 = 3 ∧ (front.peek 4).toNat ≤ 200) ∨ front.peek 3 = 5)
    (whole : blobSize front ≤ b.size) : Complete b := by
  have peeked (i : Nat) (hi : i < 16) : b.peek i = front.peek i :=
    same.peek (by omega) (by omega)
  have size : blobSize b = blobSize front := by
    rw [blobSize, blobSize, peeked 3 (by decide), peeked 4 (by decide), peeked 6 (by decide)]
  refine ⟨?_, ?_, ?_, ?_, Nat.le_trans (Nat.le_of_eq size) whole⟩
  · rw [blobSize] at whole
    split_ifs at whole <;> omega
  · rwa [peeked 0 (by decide), peeked 1 (by decide)]
  · rwa [peeked 4 (by decide), peeked 6 (by decide)]
  · rwa [peeked 3 (by decide), peeked 4 (by decide)]

theorem exists_sections {c : SweepCalibration} (parsed : parse b = .ok c) :
    ∃ (e : Encoding) (s : Sections), encoding? (.ofBytes b) = some e ∧
      s.ReadFrom b (.ofBytes b) e ∧ c = s.calibration (.ofBytes b) e := by
  obtain ⟨h, e, read, -, -, encoded, body⟩ := parse_eq_ok_iff.1 parsed
  obtain ⟨s, sections, made⟩ := parseBody_eq_ok_iff.1 body
  obtain rfl := BlobHeader.eq_ofBytes read
  exact ⟨e, s, encoded, sections, made⟩

theorem blobSize_eq (encoded : encoding? (.ofBytes b) = some e) :
    blobSize b = e.digestAt (.ofBytes b) + 32 := by
  obtain ⟨minor, rfl⟩ | ⟨minor, rfl⟩ := encoding?_eq_some_iff.1 encoded
  · obtain ⟨-, -, -, -, -, digest⟩ := Encoding.places_shortWords (.ofBytes b)
    rw [digest]
    exact if_pos minor
  · obtain ⟨-, -, -, -, -, digest⟩ := Encoding.places_longWords (.ofBytes b) (b.peek 15)
    have other : ¬b.peek 3 = 3 := fun short => absurd (short.symm.trans minor) (by decide)
    exact (if_neg other).trans (congrArg (· + 32) digest.symm)

theorem BlobHeader.read?_congr {s : Span} (same : s.Agree b b') (front : s.start = 0)
    (back : 16 ≤ s.stop) : read? b = read? b' := by
  have byte (i : Nat) (hi : i < 16) : b.byte? i = b'.byte? i := same.byte? (by omega) (by omega)
  rw [read?, read?, byte 2 (by decide), byte 3 (by decide), byte 4 (by decide), byte 5 (by decide),
    byte 6 (by decide), byte 15 (by decide), same.vector? (by decide) (by omega) (by omega),
    same.vector? (by decide) (by omega) (by omega)]

/-- Words are known from the stretch that they stand in. -/
theorem words?_congr_span {s : Span} {read read' : Nat → Option Int} {start width n : Nat}
    (each : ∀ i, s.start ≤ i → i + width ≤ s.stop → read i = read' i)
    (front : s.start ≤ start) (back : start + width * n ≤ s.stop) :
    words? read start width n = words? read' start width n := by
  refine words?_congr fun i hi => each _ (by omega) ?_
  have inside : width * (i + 1) ≤ width * n := Nat.mul_le_mul_left width hi
  rw [Nat.mul_succ] at inside
  omega

/-- What stands in the blob up to its digest stands in every blob that is the same up to there. -/
theorem Sections.ReadFrom.congr {s : Sections} (suits : e.Suits h)
    (same : (⟨0, e.digestAt h + 32⟩ : Span).Agree b b') (read : s.ReadFrom b h e) :
    s.ReadFrom b' h e := by
  obtain ⟨first, second, third, fourth, fifth, sixth⟩ := e.sections_follow h
  have last := Span.stop_front (e.digestAt h + 32)
  have unsigned {start n : Nat} (inside : start + e.wordSize * n ≤ e.digestAt h) :
      words? (e.unsigned? b') start e.wordSize n = words? (e.unsigned? b) start e.wordSize n :=
    (words?_congr_span (s := ⟨0, e.digestAt h + 32⟩) (fun i => suits.unsigned_congr same)
      (Nat.zero_le _) (by omega)).symm
  have signed {start n : Nat} (inside : start + e.wordSize * n ≤ e.digestAt h) :
      words? (e.signed? b') start e.wordSize n = words? (e.signed? b) start e.wordSize n :=
    (words?_congr_span (s := ⟨0, e.digestAt h + 32⟩) (fun i => suits.signed_congr same)
      (Nat.zero_le _) (by omega)).symm
  have bytes {start n : Nat} (inside : start + 1 * n ≤ e.digestAt h) :
      words? (signedByte? b') start 1 n = words? (signedByte? b) start 1 n := by
    refine (words?_congr_span (s := ⟨0, e.digestAt h + 32⟩) (fun i front back => ?_)
      (Nat.zero_le _) (by omega)).symm
    rw [signedByte?, signedByte?, same.byte? front back]
  constructor
  · rw [unsigned (by omega), read.starts]
  · rw [unsigned (by omega), read.stops]
  · rw [signed (by omega), read.azimuths]
  · rw [signed (by omega), read.elevations]
  · exact read.enough
  · rw [bytes (by omega), read.azimuthOffsets]
  · rw [bytes (by omega), read.elevationOffsets]
  · rw [← same.vector? (by decide) (Nat.zero_le _) (Nat.le_of_eq last.symm), read.digest]

/-- Bytes behind the digest have no influence. -/
theorem parse_congr {c : SweepCalibration} (parsed : parse b = .ok c)
    (same : (⟨0, blobSize b⟩ : Span).Agree b b') : parse b' = .ok c := by
  obtain ⟨h, e, read, delimiter, counts, encoded, body⟩ := parse_eq_ok_iff.1 parsed
  obtain ⟨s, sections, rfl⟩ := parseBody_eq_ok_iff.1 body
  obtain rfl := BlobHeader.eq_ofBytes read
  have header : 16 ≤ 0 + (e.digestAt (.ofBytes b) + 32) := by
    obtain ⟨first, second, third, fourth, fifth, sixth⟩ := e.sections_follow (.ofBytes b)
    have size : BlobHeader.size = 16 := rfl
    omega
  rw [blobSize_eq encoded] at same
  refine parse_eq_ok_iff.2 ⟨_, e, ?_, delimiter, counts, encoded, parseBody_eq_ok_iff.2
    ⟨s, sections.congr (suits_of_encoding? encoded) same, rfl⟩⟩
  rw [← BlobHeader.read?_congr same rfl header, read]

/-- As many fields and channels as the header counts, and as many offsets of either kind, enough for
every channel. -/
structure Shaped (b : Bytes) (c : SweepCalibration) : Prop where
  fields : c.fields.size = (b.peek 6).toNat
  channels : c.channels.size = (b.peek 4).toNat
  offsets : c.azimuthOffsets.size = c.elevationOffsets.size
  enough : 180 * (b.peek 4).toNat ≤ c.azimuthOffsets.size

theorem shaped_of_parse {c : SweepCalibration} (parsed : parse b = .ok c) : Shaped b c := by
  obtain ⟨e, s, -, sections, rfl⟩ := exists_sections parsed
  obtain ⟨azimuths, elevations⟩ := sections.size_offsets
  refine ⟨sections.size_fields, sections.size_channels, azimuths.trans elevations.symm, ?_⟩
  rw [azimuths, Nat.mul_comm]
  exact sections.enough

theorem counts_of_parse {c : SweepCalibration} (parsed : parse b = .ok c) :
    c.channelNumber = b.peek 4 ∧ c.frameNumber = b.peek 6 := by
  obtain ⟨e, s, -, sections, rfl⟩ := exists_sections parsed
  exact ⟨rfl, rfl⟩

/-- Every start, stop, azimuth and elevation is 256 times a word of 16 bits. -/
structure HoldsShortWords (b : Bytes) (c : SweepCalibration) : Prop where
  fields : ∀ i < (b.peek 6).toNat, ∃ start stop,
    b.word16? (16 + 2 * i) = some start ∧
    b.word16? (16 + 2 * (b.peek 6).toNat + 2 * i) = some stop ∧
    c.fields[i]? = some { start := 256 * start.toNat, stop := 256 * stop.toNat }
  channels : ∀ i < (b.peek 4).toNat, ∃ azimuth elevation,
    b.int16? (16 + 4 * (b.peek 6).toNat + 2 * i) = some azimuth ∧
    b.int16? (16 + 4 * (b.peek 6).toNat + 2 * (b.peek 4).toNat + 2 * i) = some elevation ∧
    c.channels[i]? = some { elevation := 256 * elevation.toInt, azimuth := 256 * azimuth.toInt }

theorem holdsShortWords_of_parse {c : SweepCalibration} (parsed : parse b = .ok c)
    (short : b.peek 3 = 3) : HoldsShortWords b c := by
  obtain ⟨e, s, encoded, sections, rfl⟩ := exists_sections parsed
  obtain rfl := Option.some.inj ((encoding?_shortWords short).symm.trans encoded)
  obtain ⟨stops, azimuths, elevations, -⟩ := Encoding.places_shortWords (.ofBytes b)
  constructor
  · intro i hi
    obtain ⟨_, _, first, last, place⟩ := sections.field hi
    obtain ⟨start, hstart, rfl⟩ := Option.map_eq_some_iff.1 first
    obtain ⟨stop, hstop, rfl⟩ := Option.map_eq_some_iff.1 last
    rw [stops] at hstop
    refine ⟨start, stop, hstart, hstop, ?_⟩
    rw [place, Int.mul_comm 256, Int.mul_comm 256]
    rfl
  · intro i hi
    obtain ⟨_, _, around, level, place⟩ := sections.channel hi
    obtain ⟨azimuth, hazimuth, rfl⟩ := Option.map_eq_some_iff.1 around
    obtain ⟨elevation, helevation, rfl⟩ := Option.map_eq_some_iff.1 level
    rw [azimuths] at hazimuth
    rw [elevations] at helevation
    refine ⟨azimuth, elevation, hazimuth, helevation, ?_⟩
    rw [place, Int.mul_comm 256, Int.mul_comm 256]
    rfl

/-- A blob is read exactly if it is complete, and otherwise refused for the first thing that it
lacks. What is read has the shape that the header gives, and bytes behind the digest have no
influence on it; the words of version 3 are kept in finer steps. -/
theorem complete_blobs_accepted (b : Bytes) :
    ((∃ c, parse b = .ok c) ↔ Complete b) ∧
    (∀ error, parse b = .error error ↔ FirstUnmet (requirements b) error) ∧
    ∀ c, parse b = .ok c → Shaped b c ∧
      (∀ b', (⟨0, blobSize b⟩ : Span).Agree b b' → parse b' = .ok c) ∧
      (b.peek 3 = 3 → HoldsShortWords b c) :=
  ⟨exists_parse_iff, parse_eq_error_iff b, fun _ parsed => ⟨shaped_of_parse parsed,
    fun _ => parse_congr parsed, holdsShortWords_of_parse parsed⟩⟩

/-- The header and the words of a blob of version 3 with one field and one channel. -/
def shortHead : Bytes :=
  #[0xEE, 0xFF, 1, 3, 1, 3, 1, 0, 0, 0, 0, 0, 0, 0, 0, 0,
    0xE8, 0x03, 0xD0, 0x07, 0xFB, 0xFF, 0x07, 0x00]

/-- The whole blob, with eight bytes behind its digest. -/
def shortBlob : Bytes := shortHead ++ Array.replicate 72040 0xFE

theorem size_shortBlob : shortBlob.size = 72064 := by
  rw [shortBlob, Array.size_append, Array.size_replicate]
  rfl

theorem shortBlob_head : (⟨0, 24⟩ : Span).Agree shortBlob shortHead :=
  Span.agree_append _ (by decide)

theorem complete_shortBlob : Complete shortBlob := by
  refine .of_agree shortBlob_head rfl (by decide) (by decide) (by decide) (by decide) ?_
  rw [size_shortBlob]
  decide

/-- The azimuth is a negative word. Any bytes may follow. -/
theorem complete_blobs_accepted_shortBlob :
    ∃ c, parse shortBlob = .ok c ∧ Shaped shortBlob c ∧
      c.fields[0]? = some { start := 256000, stop := 512000 } ∧
      c.channels[0]? = some { elevation := 1792, azimuth := -1280 } ∧
      ∀ more, parse (shortBlob ++ more) = .ok c := by
  obtain ⟨accepted, -, holds⟩ := complete_blobs_accepted shortBlob
  obtain ⟨c, parsed⟩ := accepted.2 complete_shortBlob
  obtain ⟨shaped, behind, words⟩ := holds c parsed
  have minor : shortBlob.peek 3 = 3 := shortBlob_head.peek_eq (by decide)
  have channels : shortBlob.peek 4 = 1 := shortBlob_head.peek_eq (by decide)
  have frames : shortBlob.peek 6 = 1 := shortBlob_head.peek_eq (by decide)
  obtain ⟨field, channel⟩ := words minor
  rw [channels, frames] at channel
  rw [frames] at field
  obtain ⟨start, stop, first, last, swept⟩ := field 0 (by decide)
  obtain ⟨azimuth, elevation, around, level, aimed⟩ := channel 0 (by decide)
  rw [shortBlob_head.word16? (by decide) (by decide)] at first last
  rw [shortBlob_head.int16? (by decide) (by decide)] at around level
  obtain rfl : start = 1000 := Option.some.inj (first.symm.trans (by decide))
  obtain rfl : stop = 2000 := Option.some.inj (last.symm.trans (by decide))
  obtain rfl : azimuth = -5 := Option.some.inj (around.symm.trans (by decide))
  obtain rfl : elevation = 7 := Option.some.inj (level.symm.trans (by decide))
  have inside : (⟨0, blobSize shortBlob⟩ : Span).stop ≤ shortBlob.size := by
    rw [Span.stop_front]
    exact complete_shortBlob.whole
  exact ⟨c, parsed, shaped, swept, aimed, fun more => behind _ fun i front back =>
    (Span.agree_append more inside i front back).symm⟩

end Lidar.SweepCalibration
