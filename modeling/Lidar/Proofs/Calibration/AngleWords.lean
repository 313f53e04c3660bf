import Lidar.Calibration.AngleCorrection
import Lidar.Proofs.Except

namespace Lidar

theorem Binary.contains_nearest {r : WordRange} (below : r.least ≤ 0) (above : 0 ≤ r.greatest)
    (x : Binary) : r.contains (x.nearest r) = true := by
  have ordered : r.least ≤ r.greatest := Int.le_trans below above
  cases x with
  | finite negative mantissa exponent => exact WordRange.contains_clamp ordered _
  | infinite negative =>
    rw [nearest]
    split
    · exact decide_eq_true ⟨Int.le_refl _, ordered⟩
    · exact decide_eq_true ⟨ordered, Int.le_refl _⟩
  | notANumber => exact decide_eq_true ⟨below, above⟩

/-- Elevation and azimuth fit 32 bits. -/
structure Direction.Worded (d : Direction) : Prop where
  elevation : WordRange.int32.contains d.elevation = true
  azimuth : WordRange.int32.contains d.azimuth = true

namespace AngleCorrection

/-- All angles fit 32 bits. -/
def Worded (c : AngleCorrection) : Prop := ∀ d ∈ c.channels, d.Worded

theorem contains_of_readAngle {line : Nat} {text : List Char} {angle : Int}
    (h : readAngle line text = .ok angle) : WordRange.int32.contains angle = true := by
  obtain ⟨degrees, -, made⟩ := bind_eq_ok_iff.1 h
  dsimp only at made
  split at made
  · obtain rfl := Except.ok.inj made
    exact Binary.contains_nearest (by decide) (by decide) _
  · cases made

theorem worded_of_readLine {maxChannels known : Nat} {l : Text.Line} {d : Direction}
    (h : readLine maxChannels known l = .ok d) : d.Worded := by
  obtain ⟨id, -, rest⟩ := bind_eq_ok_iff.1 h
  obtain ⟨-, rest⟩ := guard_eq_ok_iff.1 rest
  obtain ⟨elevation, first, rest⟩ := bind_eq_ok_iff.1 rest
  obtain ⟨azimuth, second, made⟩ := bind_eq_ok_iff.1 rest
  obtain rfl := Except.ok.inj made
  exact ⟨contains_of_readAngle first, contains_of_readAngle second⟩

theorem worded_of_readLines {maxChannels known : Nat} {ls : List Text.Line} {ds : List Direction}
    (h : readLines maxChannels known ls = .ok ds) : ∀ d ∈ ds, d.Worded := by
  induction ls generalizing known ds with
  | nil =>
    obtain rfl := Except.ok.inj h
    intro d hd
    cases hd
  | cons l rest ih =>
    obtain ⟨first, line, h⟩ := bind_eq_ok_iff.1 h
    obtain ⟨others, lines, made⟩ := bind_eq_ok_iff.1 h
    obtain rfl := Except.ok.inj made
    intro d hd
    rcases List.mem_cons.1 hd with rfl | hd
    · exact worded_of_readLine line
    · exact ih lines d hd

theorem worded_of_parse {blob : Bytes} {maxChannels : Nat} {c : AngleCorrection}
    (h : parse blob maxChannels = .ok c) : c.Worded := by
  obtain ⟨text, -, rest⟩ := bind_eq_ok_iff.1 h
  obtain ⟨-, rest⟩ := guard_eq_ok_iff.1 rest
  obtain ⟨channels, lines, rest⟩ := bind_eq_ok_iff.1 rest
  obtain ⟨-, made⟩ := guard_eq_ok_iff.1 rest
  obtain rfl := Except.ok.inj made
  intro d hd
  exact worded_of_readLines lines d (List.mem_toArray.1 hd)

end AngleCorrection

end Lidar
