import Lidar.Proofs.Decoder.Outcome

namespace Lidar

theorem Family.exists_verticalAngle_iff {Tail Tables : Type} {f : Family Tail Tables}
    {s : State Tables} {channel : Nat} :
    (∃ x, f.verticalAngle s channel = .ok x) ↔
      ∃ n, (f.correction? s.tables).map (·.elevations.size) = some n ∧ channel < n := by
  rw [verticalAngle]
  cases f.correction? s.tables with
  | none => simp
  | some c =>
    simp only [elevationDegrees, Option.map_some, Option.some.injEq, exists_eq_left']
    by_cases known : channel < c.elevations.size
    · simp [known]
    · simp [known]

namespace Decoder

/-- The table of sines and cosines that the sensor's angles enter. -/
def angles : Decoder → AngleTable
  | p128 _ => P128.family.angles
  | qt128 _ => QT128.family.angles
  | at128 _ => AT128.family.angles

def sweep? : Decoder → Option SweepCalibration
  | at128 s => s.tables
  | _ => none

variable {d : Decoder} {packet : Bytes} {out : Buffers}

theorem isCalibrated_eq_isSome : d.isCalibrated = d.channelCount?.isSome := by
  cases d with
  | p128 s =>
    rw [channelCount?_p128, Option.isSome_map]
    rfl
  | qt128 s =>
    rw [channelCount?_qt128, Option.isSome_map]
    rfl
  | at128 s =>
    rw [channelCount?_at128, Option.isSome_map]
    rfl

theorem exists_verticalAngle_iff {channel : Nat} :
    (∃ x, d.verticalAngle channel = .ok x) ↔ ∃ n, d.channelCount? = some n ∧ channel < n := by
  cases d with
  | p128 s =>
    rw [channelCount?_p128]
    exact Family.exists_verticalAngle_iff
  | qt128 s =>
    rw [channelCount?_qt128]
    exact Family.exists_verticalAngle_iff
  | at128 s =>
    rw [channelCount?_at128]
    exact Family.exists_verticalAngle_iff

theorem laserCount_le_neededChannels (h : Header) : h.laserCount ≤ d.neededChannels h := by
  cases d with
  | p128 s | at128 s => exact Nat.le_refl _
  | qt128 s =>
    rw [neededChannels]
    split
    · exact Nat.le_refl _
    · split
      · exact Nat.le_max_left _ _
      · exact Nat.le_refl _

/-- The elevations of the declared lasers all stand in the table. -/
theorem lasers_le_of_passed (passed : Test.complaint? (d.tests packet out.room) = none) :
    ∃ n, d.channelCount? = some n ∧ (Header.ofBytes packet).laserCount ≤ n := by
  have each := Test.complaint?_eq_none_iff.1 passed
  simp only [tests, Test.ofDecoding, List.forall_mem_append, List.forall_mem_cons,
    decide_eq_true_eq] at each
  obtain ⟨-, calibrated, covered, -⟩ := each
  rw [isCalibrated_eq_isSome] at calibrated
  obtain ⟨n, count⟩ := Option.isSome_iff_exists.1 calibrated
  rw [count, Option.getD_some] at covered
  exact ⟨n, count, Nat.le_trans (laserCount_le_neededChannels _) covered⟩

/-- All answers of decoding, with what is known of an accepted packet. -/
theorem verdict_cases (sound : d.Sound) :
    (∃ reason, (d.decode packet out).1 = .rejected reason) ∨
      (∃ report n, (d.decode packet out).1 = .accepted report ∧ d.channelCount? = some n ∧
        report.lasers.toNat ≤ n) ∨
      ∃ azimuth, (d.decode packet out).1 = .aborted (.azimuthOverflow azimuth) := by
  cases decided : Test.complaint? (d.tests packet out.room) with
  | some reason => exact .inl ⟨reason, by rw [decode_of_refused decided]⟩
  | none =>
    rcases decode_of_passed sound decided with
      ⟨-, report, splitter, motion, out', decoded, lasers, -⟩ | ⟨-, azimuth, -, overflowed⟩
    · obtain ⟨n, count, enough⟩ := lasers_le_of_passed decided
      refine .inr (.inl ⟨report, n, by rw [decoded], count, ?_⟩)
      rw [lasers]
      exact enough
    · exact .inr (.inr ⟨azimuth, overflowed⟩)

theorem fault_of_aborted (sound : d.Sound) {fault : Fault}
    (aborted : (d.decode packet out).1 = .aborted fault) :
    ∃ azimuth, fault = .azimuthOverflow azimuth := by
  rcases verdict_cases sound with
    ⟨reason, rejected⟩ | ⟨report, n, accepted, -⟩ | ⟨azimuth, overflowed⟩
  · cases rejected.symm.trans aborted
  · cases accepted.symm.trans aborted
  · exact ⟨azimuth, Verdict.aborted.inj (aborted.symm.trans overflowed)⟩

theorem lasers_of_accepted (sound : d.Sound) {report : Report}
    (accepted : (d.decode packet out).1 = .accepted report) :
    ∃ n, d.channelCount? = some n ∧ report.lasers.toNat ≤ n := by
  rcases verdict_cases sound with
    ⟨reason, rejected⟩ | ⟨report', n, decoded, known⟩ | ⟨azimuth, overflowed⟩
  · cases rejected.symm.trans accepted
  · obtain rfl := Verdict.accepted.inj (decoded.symm.trans accepted)
    exact ⟨n, known⟩
  · cases overflowed.symm.trans accepted

theorem sweep_inside (sound : d.Sound) {c : SweepCalibration} (loaded : d.sweep? = some c)
    (azimuth : Int) :
    (∀ field, c.field? azimuth = some field → field < c.fields.size) ∧
      ∀ channel < c.channels.size, (∃ x, c.azimuthOffset? channel azimuth = some x) ∧
        ∃ x, c.elevationOffset? channel azimuth = some x := by
  have filled : c.Filled := by
    cases d with
    | p128 s | qt128 s => cases loaded
    | at128 s => exact sound c loaded
  exact ⟨fun field => SweepCalibration.field?_lt, fun channel known =>
    ⟨SweepCalibration.exists_azimuthOffset filled known azimuth,
      SweepCalibration.exists_elevationOffset filled known azimuth⟩⟩

/-- Decoding never ends at an index outside the packet or outside a table: the only fault left is an
azimuth beyond 64 bits. The elevations of all declared lasers are there, every angle has a sine and
a cosine, and each channel of a sweep calibration has its offsets at every azimuth. -/
theorem decode_stays_inside (m : Model) (ops : List Operation) (packet : Bytes) (out : Buffers) :
    let d := (ofModel m).after ops
    (∀ fault, (d.decode packet out).1 = .aborted fault →
      ∃ azimuth, fault = .azimuthOverflow azimuth) ∧
    (∀ report, (d.decode packet out).1 = .accepted report →
      ∃ n, d.channelCount? = some n ∧ report.lasers.toNat ≤ n) ∧
    (∀ angle, 0 ≤ d.angles.wrap angle ∧ d.angles.wrap angle < d.angles.size) ∧
    (∀ c, d.sweep? = some c → ∀ azimuth,
      (∀ field, c.field? azimuth = some field → field < c.fields.size) ∧
      ∀ channel < c.channels.size, (∃ x, c.azimuthOffset? channel azimuth = some x) ∧
        ∃ x, c.elevationOffset? channel azimuth = some x) ∧
    ∀ channel, (∃ x, d.verticalAngle channel = .ok x) ↔
      ∃ n, d.channelCount? = some n ∧ channel < n := by
  intro d
  have sound : d.Sound := sound_after m ops
  exact ⟨fun fault => fault_of_aborted sound, fun report => lasers_of_accepted sound,
    fun angle => ⟨d.angles.wrap_nonneg angle, d.angles.wrap_lt angle⟩,
    fun c loaded => sweep_inside sound loaded, fun channel => exists_verticalAngle_iff⟩

end Decoder

end Lidar
