import Lidar.Proofs.Decoder.FrameState

namespace Lidar

namespace Splitter

/-- What the splitter reports of each of several blocks. -/
def flags (s : Splitter) : List UInt16 → List Bool
  | [] => []
  | a :: rest => (s.update a).1 :: (s.update a).2.flags rest

variable (s : Splitter)

theorem length_flags (as : List UInt16) : (s.flags as).length = as.length := by
  induction as generalizing s with
  | nil => rfl
  | cons a as ih => rw [flags, List.length_cons, List.length_cons, ih]

theorem flags_append (as bs : List UInt16) :
    s.flags (as ++ bs) = s.flags as ++ (s.feed as).2.flags bs := by
  induction as generalizing s with
  | nil => rfl
  | cons a as ih =>
    have behind := ih (s.update a).2
    rw [List.cons_append, flags, flags, behind]
    rfl

theorem feed_eq_any_flags (as : List UInt16) : (s.feed as).1 = (s.flags as).any id := by
  induction as generalizing s with
  | nil => rfl
  | cons a as ih =>
    have behind := ih (s.update a).2
    rw [flags, List.any_cons, ← behind]
    rfl

end Splitter

/-- A turning sensor: the azimuth of its first block, and how far it turns from each block to the
next, in hundredths of a degree. -/
structure Rotation where
  first : Nat
  advance : Nat → Nat
  first_lt : first < 36000
  advance_le : ∀ i, advance i ≤ 1000

namespace Rotation

variable (r : Rotation)

/-- The azimuth of each block. -/
def azimuth : Nat → Nat
  | 0 => r.first
  | i + 1 => (azimuth i + r.advance i) % 36000

/-- Between block `i` and the next the azimuth passes the full turn, or comes to stand on it. -/
def wraps (i : Nat) : Bool := 36000 ≤ r.azimuth i + r.advance i

/-- How far block `n` is from azimuth zero, all revolutions counted: the first azimuth and every
advance since. -/
def turned : Nat → Nat
  | 0 => r.first
  | n + 1 => turned n + r.advance n

/-- The azimuths of the first `n` blocks as they are sent. -/
def words (n : Nat) : List UInt16 := (List.range n).map fun i => UInt16.ofNat (r.azimuth i)

theorem azimuth_lt (i : Nat) : r.azimuth i < 36000 := by
  cases i with
  | zero => exact r.first_lt
  | succ i => exact Nat.mod_lt _ (by decide)

theorem azimuth_eq_turned (n : Nat) : r.azimuth n = r.turned n % 36000 := by
  induction n with
  | zero => exact (Nat.mod_eq_of_lt r.first_lt).symm
  | succ n ih =>
    rw [azimuth, ih, turned, Nat.mod_add_mod]

/-- The revolutions that are complete grow by one with each wrap. -/
theorem turned_div_succ (n : Nat) :
    r.turned (n + 1) / 36000 = r.turned n / 36000 + if r.wraps n then 1 else 0 := by
  have small := r.advance_le n
  have here := r.azimuth_eq_turned n
  rw [turned]
  by_cases wrapped : 36000 ≤ r.azimuth n + r.advance n
  · rw [wraps, decide_eq_true wrapped, if_pos rfl]
    omega
  · rw [wraps, decide_eq_false wrapped, if_neg Bool.false_ne_true]
    omega

/-- A step ends a frame exactly if it wraps. The azimuth before a wrap is far from zero, so the
splitter cannot take it for none. -/
theorem crosses_iff_wraps (i : Nat) :
    Splitter.crosses ⟨UInt16.ofNat (r.azimuth i)⟩ (UInt16.ofNat (r.azimuth (i + 1))) =
      r.wraps i := by
  have here := r.azimuth_lt i
  have next := r.azimuth_lt (i + 1)
  have small := r.advance_le i
  have step : r.azimuth (i + 1) = (r.azimuth i + r.advance i) % 36000 := rfl
  have sent {a : Nat} (inside : a < 36000) : (UInt16.ofNat a).toNat = a :=
    UInt16.toNat_ofNat_of_lt' (Nat.lt_trans inside (by decide))
  have unset : UInt16.ofNat (r.azimuth i) ≠ 0 ↔ r.azimuth i ≠ 0 := by
    rw [ne_eq, ← UInt16.toNat_inj, sent here]
    rfl
  rw [Splitter.crosses, wraps, sent here, sent next]
  refine decide_eq_decide.2 ?_
  rw [unset, Splitter.tolerance]
  omega

theorem words_succ (n : Nat) : r.words (n + 1) = r.words n ++ [UInt16.ofNat (r.azimuth n)] := by
  rw [words, List.range_succ, List.map_append]
  rfl

/-- The first block ends no frame, and a later one does if the step to it wraps. -/
theorem flags_words (n : Nat) :
    Splitter.start.flags (r.words (n + 1)) = false :: (List.range n).map r.wraps := by
  induction n with
  | zero => rfl
  | succ n ih =>
    have last : (Splitter.start.feed (r.words (n + 1))).2 = ⟨UInt16.ofNat (r.azimuth n)⟩ := by
      rw [Splitter.feed_last, words_succ, List.getLast?_concat]
      rfl
    have step : Splitter.flags ⟨UInt16.ofNat (r.azimuth n)⟩ [UInt16.ofNat (r.azimuth (n + 1))] =
        [r.wraps n] := by
      rw [← crosses_iff_wraps]
      rfl
    rw [words_succ, Splitter.flags_append, ih, last, step, List.range_succ, List.map_append]
    rfl

theorem count_flags_words (n : Nat) :
    (Splitter.start.flags (r.words (n + 1))).count true = r.turned n / 36000 := by
  rw [flags_words]
  induction n with
  | zero => exact (Nat.div_eq_of_lt r.first_lt).symm
  | succ n ih =>
    rw [turned_div_succ, ← ih, List.range_succ, List.map_append, List.map_singleton,
      ← List.cons_append, List.count_append]
    cases r.wraps n <;> rfl

/-- Whether block `i` ends a frame. -/
def opens : Nat → Bool
  | 0 => false
  | i + 1 => r.wraps i

theorem flags_words_eq_map (n : Nat) :
    Splitter.start.flags (r.words n) = (List.range n).map r.opens := by
  cases n with
  | zero => rfl
  | succ n =>
    rw [flags_words, List.range_succ_eq_map, List.map_cons, List.map_map]
    rfl

/-- A stretch of the blocks ends a frame if one of its blocks does. -/
theorem feed_stretch {n : Nat} {front stretch back : List UInt16}
    (cut : r.words n = front ++ stretch ++ back) :
    ((Splitter.start.feed front).2.feed stretch).1 = true ↔
      ∃ i, front.length ≤ i ∧ i < front.length + stretch.length ∧ r.opens i = true := by
  have whole := r.flags_words_eq_map n
  rw [cut, Splitter.flags_append, Splitter.flags_append] at whole
  have place (j : Nat) (hj : j < stretch.length) :
      ((Splitter.start.feed front).2.flags stretch)[j]? = some (r.opens (front.length + j)) := by
    have size : front.length + stretch.length ≤ n := by
      have lengths := congrArg List.length cut
      simp only [words, List.length_map, List.length_range, List.length_append] at lengths
      omega
    have at_j := congrArg (·[front.length + j]?) whole
    simp only [List.getElem?_map, List.getElem?_range (show front.length + j < n by omega),
      Option.map_some] at at_j
    rw [← at_j, List.getElem?_append_left, List.getElem?_append_right, Splitter.length_flags,
      Nat.add_sub_cancel_left]
    · rw [Splitter.length_flags]
      omega
    · rw [List.length_append, Splitter.length_flags, Splitter.length_flags]
      omega
  rw [Splitter.feed_eq_any_flags, List.any_eq_true]
  constructor
  · rintro ⟨flag, listed, set⟩
    obtain ⟨j, hj, rfl⟩ := List.mem_iff_getElem.1 listed
    have inside : j < stretch.length := by rwa [Splitter.length_flags] at hj
    have flagged := place j inside
    rw [List.getElem?_eq_getElem hj] at flagged
    refine ⟨front.length + j, Nat.le_add_right _ _, by omega, ?_⟩
    rw [← Option.some.inj flagged]
    exact set
  · rintro ⟨i, above, below, set⟩
    have flagged := place (i - front.length) (by omega)
    rw [Nat.add_sub_cancel' above, set] at flagged
    exact ⟨true, List.mem_of_getElem? flagged, rfl⟩

end Rotation

open Decoder in
/-- A sensor turns by at most ten degrees from block to block. A fresh splitter ends a frame at the
blocks whose step wraps and at no others, so after any number of steps it has ended as many frames
as there are complete revolutions. A decoder that remembers no azimuth and accepts the same blocks,
cut into packets in any way, reports the end of a frame for just the packets that hold a block of
that kind. -/
theorem one_boundary_per_revolution (r : Rotation) :
    (∀ n, Splitter.start.flags (r.words (n + 1)) =
      false :: (List.range n).map fun i => decide (36000 ≤ r.azimuth i + r.advance i)) ∧
    (∀ n, (Splitter.start.flags (r.words (n + 1))).count true = r.turned n / 36000) ∧
    ∀ (d : Decoder) (ops : List Operation) (n : Nat),
      d.splitter = .start → Operation.reset ∉ ops → allAzimuths (d.accepted ops) = r.words n →
      ∀ front p back, d.accepted ops = front ++ p :: back →
        (p.report.scanComplete = true ↔
          ∃ i, (allAzimuths front).length ≤ i + 1 ∧
            i + 1 < (allAzimuths front).length + p.azimuths.length ∧
            36000 ≤ r.azimuth i + r.advance i) := by
  refine ⟨r.flags_words, r.count_flags_words, ?_⟩
  intro d ops n fresh kept stream front p back split
  have cut : r.words n = allAzimuths front ++ p.azimuths ++ allAzimuths back := by
    rw [← stream, split]
    simp [allAzimuths]
  rw [scanComplete_of_split kept split, fresh, r.feed_stretch cut]
  constructor
  · rintro ⟨i, above, below, opened⟩
    cases i with
    | zero => cases opened
    | succ i => exact ⟨i, above, below, of_decide_eq_true opened⟩
  · rintro ⟨i, above, below, wrapped⟩
    exact ⟨i + 1, above, below, decide_eq_true wrapped⟩

open Decoder in
/-- A sensor that stands at 355 degrees and turns by six comes to stand at one: the second of two
packets ends a frame. -/
theorem one_boundary_between_two_packets :
    let ops := [.loadCalibration oneLaser, .decode beforeTurn.bytes (.blank 1),
      .decode #[0xEE, 0xFF] (.blank 1), .decode afterTurn.bytes (.blank 1)]
    ((ofModel .p128).accepted ops).map (·.report.scanComplete) = [false, true] := by
  intro ops
  let r : Rotation := ⟨35500, fun _ => 600, by decide, fun _ => by decide⟩
  have packets : (ofModel .p128).accepted ops =
      [⟨[35500], beforeTurn.report .start⟩, ⟨[100], afterTurn.report ⟨35500⟩⟩] := by
    have loaded : (ofModel .p128).apply (.loadCalibration oneLaser) =
        (ofModel .p128).after [.loadCalibration oneLaser] := by
      rw [after, List.foldl_cons, List.foldl_nil]
    have before : (ofModel .p128).acceptedBy (.loadCalibration oneLaser) = [] := rfl
    rw [accepted, before, List.nil_append, loaded, accepted_over_full_turn]
  have stream : allAzimuths ((ofModel .p128).accepted ops) = r.words 2 := by
    rw [packets]
    change [35500, 100] = r.words 2
    decide
  have cut := (one_boundary_per_revolution r).2.2 (ofModel .p128) ops 2 rfl (by simp [ops])
    stream
  have opened := cut [⟨[35500], beforeTurn.report .start⟩] ⟨[100], afterTurn.report ⟨35500⟩⟩ []
    packets
  have unopened := cut [] ⟨[35500], beforeTurn.report .start⟩
    [⟨[100], afterTurn.report ⟨35500⟩⟩] packets
  have ends : (afterTurn.report ⟨35500⟩).scanComplete = true :=
    opened.2 ⟨0, Nat.le_refl 1, Nat.lt_succ_self 1, by decide⟩
  have goes : (beforeTurn.report .start).scanComplete = false := by
    refine Bool.eq_false_iff.2 fun complete => ?_
    obtain ⟨i, -, inside, -⟩ := unopened.1 complete
    exact absurd inside (by simp [allAzimuths])
  rw [packets, List.map_cons, List.map_singleton, ends, goes]

end Lidar
