import Lidar.Proofs.Decoder.Runs
import Lidar.Proofs.Decoder.Walk

namespace Lidar

section

variable {α : Type} {f : Nat → α → Nat}

/-- Steps that never go down end where they start or above. -/
theorem le_foldl (grows : ∀ m x, m ≤ f m x) (xs : List α) (m : Nat) : m ≤ xs.foldl f m := by
  induction xs generalizing m with
  | nil => exact Nat.le_refl m
  | cons x xs ih => exact Nat.le_trans (grows m x) (ih (f m x))

theorem le_foldl_of_mem (grows : ∀ m x, m ≤ f m x) {xs : List α} {x : α} (hx : x ∈ xs) {k : Nat}
    (reached : ∀ m, k ≤ f m x) (m : Nat) : k ≤ xs.foldl f m := by
  induction xs generalizing m with
  | nil => cases hx
  | cons y ys ih =>
    rcases List.mem_cons.1 hx with rfl | hx
    · exact Nat.le_trans (reached m) (le_foldl grows ys _)
    · exact ih hx _

end

namespace ChannelConfig

variable {c : ChannelConfig} {loop position channel : Nat}

theorem remap_le_maxChannel (h : c.remap loop position = some channel) :
    channel ≤ c.maxChannel := by
  obtain ⟨row, hrow, hchannel⟩ := Option.bind_eq_some_iff.1 h
  have listed : channel ∈ row.toList := (Array.mem_of_getElem? hchannel).val
  have inRow (m : Nat) : channel ≤ row.foldl max m := by
    rw [← Array.foldl_toList]
    exact le_foldl_of_mem Nat.le_max_left listed (fun m => Nat.le_max_right m channel) m
  have grows (m : Nat) (row : Array Nat) : m ≤ row.foldl max m := by
    rw [← Array.foldl_toList]
    exact le_foldl Nat.le_max_left row.toList m
  rw [maxChannel, ← Array.foldl_toList]
  exact le_foldl_of_mem grows (Array.mem_of_getElem? hrow).val inRow 0

end ChannelConfig

theorem Spinning.direction_eq {c : AngleCorrection} {channel : Nat} (h : channel < c.channels.size)
    (blockAzimuth : UInt16) :
    direction c blockAzimuth channel = .ok {
      elevation := c.channels[channel].elevation
      azimuth := azimuthScale * blockAzimuth.toNat + c.channels[channel].azimuth } := by
  rw [direction, Array.getElem?_eq_getElem h]
  rfl

namespace QT128.Tables

variable {t : Tables} {c : AngleCorrection} {h : Header} {tail : Tail} {loop position : Nat}

/-- The azimuth of a wire position, before it is put in 64 bits. -/
def correctedAzimuth (t : Tables) (c : AngleCorrection) (h : Header) (tail : Tail) (loop : Nat)
    (blockAzimuth : UInt16) (position : Nat) : Int :=
  let channel := t.channel h loop position
  10 * blockAzimuth.toNat + ((c.channels[channel]?).map (·.azimuth)).getD 0 +
    t.fireOffset loop channel tail.motorSpeed

/-- A packet is only read if its channels are covered, and then so is every channel that the
channel table puts in the place of another. -/
theorem channel_lt {n : Nat} (covered : t.needed h ≤ n) (hposition : position < h.laserCount) :
    t.channel h loop position < n := by
  unfold needed at covered
  unfold channel
  cases used : t.configFor h with
  | none =>
    rw [used] at covered
    exact Nat.lt_of_lt_of_le hposition covered
  | some config =>
    rw [used] at covered
    dsimp only at covered
    rw [Option.bind_some]
    cases remapped : config.remap loop position with
    | none =>
      rw [Option.getD_none]
      omega
    | some channel =>
      have := ChannelConfig.remap_le_maxChannel remapped
      rw [Option.getD_some]
      omega

theorem direction_eq (known : t.channel h loop position < c.channels.size) (blockAzimuth : UInt16) :
    t.direction c h tail loop blockAzimuth position =
      let azimuth := t.correctedAzimuth c h tail loop blockAzimuth position
      if WordRange.int64.contains azimuth then
        .ok { elevation := c.channels[t.channel h loop position].elevation, azimuth }
      else .error (.azimuthOverflow azimuth) := by
  rw [direction, Spinning.direction_eq known, correctedAzimuth, Array.getElem?_eq_getElem known]
  rfl

end QT128.Tables

namespace SweepCalibration

variable {c : SweepCalibration} {channel : Nat}

/-- The circle is exactly as many steps long as a channel has entries. -/
theorem offsetIndex_lt (a : Int) : (a % circle / offsetStep).toNat < offsetsPerChannel := by
  have circled : 0 ≤ a % circle ∧ a % circle < circle := by
    have : (0 : Int) < circle := by decide
    exact ⟨Int.emod_nonneg a (by omega), Int.emod_lt_of_pos a this⟩
  simp only [circle, fineSteps, offsetStep, offsetsPerChannel] at circled ⊢
  omega

/-- Both table entries around an azimuth belong to the channel: the index of the first is below
180, and that of the second turns back to zero behind the last. -/
theorem exists_offset {table : Array Int} (h : (channel + 1) * offsetsPerChannel ≤ table.size)
    (a : Int) : ∃ x, offset? table channel a = some x := by
  have index := offsetIndex_lt a
  have next : ((a % circle / offsetStep).toNat + 1) % offsetsPerChannel < offsetsPerChannel :=
    Nat.mod_lt _ (by decide)
  rw [Nat.succ_mul] at h
  rw [offset?, offsetIn?, Array.getElem?_eq_getElem (by omega),
    Array.getElem?_eq_getElem (by omega)]
  exact ⟨_, rfl⟩

/-- No entry of another channel is looked at. -/
theorem offsetIn?_congr {α : Type} [Interpolating α] {table table' : Array Int}
    (same : ∀ k, channel * offsetsPerChannel ≤ k → k < (channel + 1) * offsetsPerChannel →
      table[k]? = table'[k]?) (a : Int) :
    offsetIn? α table channel a = offsetIn? α table' channel a := by
  have index := offsetIndex_lt a
  have next : ((a % circle / offsetStep).toNat + 1) % offsetsPerChannel < offsetsPerChannel :=
    Nat.mod_lt _ (by decide)
  rw [Nat.succ_mul] at same
  rw [offsetIn?, offsetIn?, same _ (Nat.le_add_right _ _) (by omega),
    same _ (Nat.le_add_right _ _) (by omega)]

theorem offset?_congr {table table' : Array Int}
    (same : ∀ k < (channel + 1) * offsetsPerChannel, table[k]? = table'[k]?) (a : Int) :
    offset? table channel a = offset? table' channel a :=
  offsetIn?_congr (fun k _ inside => same k inside) a

theorem exists_azimuthOffset (filled : c.Filled) (h : channel < c.channels.size) (a : Int) :
    ∃ x, c.azimuthOffset? channel a = some x :=
  exists_offset (Nat.le_trans (Nat.mul_le_mul_right _ h) filled.azimuths) a

theorem exists_elevationOffset (filled : c.Filled) (h : channel < c.channels.size) (a : Int) :
    ∃ x, c.elevationOffset? channel a = some x :=
  exists_offset (Nat.le_trans (Nat.mul_le_mul_right _ h) filled.elevations) a

theorem field?_lt {a : Int} {field : Nat} (h : c.field? a = some field) : field < c.fields.size :=
  (Array.findIdx?_eq_some_iff_getElem.1 h).1

theorem exists_elevationAt (filled : c.Filled) (h : channel < c.channels.size) (a : Int) :
    ∃ x, c.elevationAt? channel a = some x := by
  obtain ⟨offset, hoffset⟩ := exists_elevationOffset filled h a
  rw [elevationAt?, Array.getElem?_eq_getElem h, hoffset]
  exact ⟨_, rfl⟩

theorem azimuthAt_eq_ok_iff {field : Nat} {a x : Int} : c.azimuthAt channel field a = .ok x ↔
    ∃ sector base offset, c.fields[field]? = some sector ∧
      WordRange.int64.contains (a - sector.start) = true ∧ c.channels[channel]? = some base ∧
      c.azimuthOffset? channel a = some offset ∧
      x = (a - sector.start) % circle * 2 - base.azimuth + offset * fineSteps := by
  simp only [azimuthAt, bind_eq_ok_iff, guard_eq_ok_iff, Fault.unless_eq_ok_iff,
    Bool.not_eq_true, Bool.not_eq_false']
  constructor
  · rintro ⟨sector, known, near, base, there, offset, taken, same⟩
    exact ⟨sector, base, offset, known, near, there, taken, (Except.ok.inj same).symm⟩
  · rintro ⟨sector, base, offset, known, near, there, taken, rfl⟩
    exact ⟨sector, known, near, base, there, offset, taken, rfl⟩

theorem exists_azimuthAt (filled : c.Filled) (h : channel < c.channels.size) {field : Nat}
    (inside : field < c.fields.size) {a : Int}
    (near : WordRange.int64.contains (a - c.fields[field].start) = true) :
    ∃ x, c.azimuthAt channel field a = .ok x := by
  obtain ⟨offset, taken⟩ := exists_azimuthOffset filled h a
  exact ⟨_, azimuthAt_eq_ok_iff.2 ⟨_, _, offset, Array.getElem?_eq_getElem inside, near,
    Array.getElem?_eq_getElem h, taken, rfl⟩⟩

/-- On the circle no azimuth is far from the start of a field. -/
theorem contains_way (filled : c.Filled) {field : Nat} (inside : field < c.fields.size) {a : Int}
    (low : 0 ≤ a) (high : a < circle) :
    WordRange.int64.contains (a - c.fields[field].start) = true := by
  obtain ⟨least, fits⟩ := filled.starts _ (Array.getElem_mem inside)
  have greatest : c.fields[field].start ≤ WordRange.int64.greatest := (of_decide_eq_true fits).2
  refine decide_eq_true ?_
  simp only [WordRange.int64, circle, fineSteps] at greatest high ⊢
  omega

end SweepCalibration

theorem AT128.exists_direction {c : SweepCalibration} (filled : c.Filled) {b : Block}
    {field channel : Nat} (hfield : c.field? (blockAzimuth b) = some field)
    (h : channel < c.channels.size) : ∃ d, direction c field (blockAzimuth b) channel = .ok d := by
  have inside := SweepCalibration.field?_lt hfield
  have near := SweepCalibration.contains_way filled inside (a := blockAzimuth b)
    (Int.emod_nonneg _ (by decide)) (Int.emod_lt_of_pos _ (by decide))
  obtain ⟨azimuth, hazimuth⟩ := SweepCalibration.exists_azimuthAt filled h inside near
  obtain ⟨elevation, helevation⟩ :=
    SweepCalibration.exists_elevationAt filled h (blockAzimuth b)
  rw [direction, helevation, hazimuth]
  exact ⟨_, rfl⟩

end Lidar
