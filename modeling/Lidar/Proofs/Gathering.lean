import Lidar.Frames
import Lidar.Proofs.Decoder.Flash
import Lidar.Source.Memory

namespace Lidar

/-- What came of one packet, and the points it left. -/
structure Outcome where
  step : PointSource.Step
  points : Buffers

namespace Outcome

def isAccepted (o : Outcome) : Bool :=
  match o.step with
  | .packet _ (.accepted _) => true
  | _ => false

def isRejected (o : Outcome) : Bool :=
  match o.step with
  | .packet _ (.rejected _) => true
  | _ => false

/-- An accepted packet goes on with the frame unless it completes the scan, a rejected one always
does, and everything else ends it. -/
def ends (o : Outcome) : Bool :=
  match o.step with
  | .packet _ (.accepted report) => report.scanComplete
  | .packet _ (.rejected _) => false
  | _ => true

end Outcome

namespace Buffers

def concat (bs : List Buffers) : Buffers :=
  ⟨(bs.map (·.cartesian)).toArray.flatten, (bs.map (·.spherical)).toArray.flatten⟩

theorem concat_append_singleton (bs : List Buffers) (b : Buffers) :
    concat (bs ++ [b]) = (concat bs).append b := by
  simp [concat, append]

end Buffers

/-- The frame that some outcomes make up, before its time is known. -/
def Frame.ofOutcomes (os : List Outcome) : Frame where
  points := .concat ((os.filter (·.isAccepted)).map (·.points))
  packets := os.countP (·.isAccepted)
  rejected := os.countP (·.isRejected)
  time := none

namespace Frame

theorem ofOutcomes_accepted (os : List Outcome) (o : Outcome) (h : o.isAccepted = true)
    (hr : o.isRejected = false) : ofOutcomes (os ++ [o]) = (ofOutcomes os).add o.points := by
  simp [ofOutcomes, add, h, hr, Buffers.concat_append_singleton]

theorem ofOutcomes_rejected (os : List Outcome) (o : Outcome) (h : o.isAccepted = false)
    (hr : o.isRejected = true) :
    ofOutcomes (os ++ [o]) = { ofOutcomes os with rejected := (ofOutcomes os).rejected + 1 } := by
  simp [ofOutcomes, h, hr]

end Frame

/-- The answer to which an outcome brings the frame gathered up to it, itself included. -/
def Outcome.answer? (o : Outcome) (f : Frame) : Option Gathering :=
  match o.step with
  | .packet _ (.accepted report) =>
    if report.scanComplete then some (.frame { f with time := report.time }) else none
  | .packet _ (.rejected _) => none
  | .packet _ (.aborted fault) => some (.aborted fault)
  | .exhausted => some .exhausted
  | .failed e => some (.failed e)
  | .aborted fault => some (.aborted fault)

theorem Outcome.answer?_isSome (o : Outcome) (f : Frame) : (o.answer? f).isSome = o.ends := by
  obtain ⟨step, points⟩ := o
  cases step with
  | packet sender verdict =>
    cases verdict with
    | accepted report => cases h : report.scanComplete <;> simp [answer?, ends, h]
    | rejected | aborted => rfl
  | exhausted | failed | aborted => rfl

/-- A shortest run of outcomes that ends a frame, and the answer it gives. -/
structure Run where
  body : List Outcome
  last : Outcome
  answer : Gathering
  going : ∀ o ∈ body, o.ends = false
  ended : last.answer? (Frame.ofOutcomes (body ++ [last])) = some answer

def Run.outcomes (r : Run) : List Outcome := r.body ++ [r.last]

namespace PointSource

variable {σ : Type} [PacketSource σ]

def outcome (p : PointSource σ) : Outcome := ⟨p.next.1, p.next.2.points⟩

/-- The outcomes of the next `n` packets. -/
def outcomes (p : PointSource σ) : Nat → List Outcome
  | 0 => []
  | n + 1 => p.outcome :: p.next.2.outcomes n

/-- The point source after `n` packets. -/
def after (p : PointSource σ) : Nat → PointSource σ
  | 0 => p
  | n + 1 => p.next.2.after n

/-- The answers to the next `m` requests for a frame. -/
def frames (limit : Nat) (p : PointSource σ) : Nat → List Gathering
  | 0 => []
  | m + 1 => (p.nextFrame limit).1 :: (p.nextFrame limit).2.frames limit m

/-- The point source after `m` requests for a frame. -/
def afterFrames (limit : Nat) (p : PointSource σ) : Nat → PointSource σ
  | 0 => p
  | m + 1 => (p.nextFrame limit).2.afterFrames limit m

theorem outcomes_length (p : PointSource σ) (n : Nat) : (p.outcomes n).length = n := by
  induction n generalizing p with
  | zero => rfl
  | succ n ih => simp [outcomes, ih]

theorem outcomes_add (p : PointSource σ) (m n : Nat) :
    p.outcomes (m + n) = p.outcomes m ++ (p.after m).outcomes n := by
  induction m generalizing p with
  | zero => simp [outcomes, after]
  | succ m ih => rw [Nat.succ_add, outcomes, ih]; rfl

theorem after_add (p : PointSource σ) (m n : Nat) : p.after (m + n) = (p.after m).after n := by
  induction m generalizing p with
  | zero => rw [Nat.zero_add, after]
  | succ m ih => rw [Nat.succ_add, after, ih]; rfl

theorem outcomes_take (p : PointSource σ) {m n : Nat} (h : m ≤ n) :
    (p.outcomes n).take m = p.outcomes m := by
  obtain ⟨k, rfl⟩ := Nat.exists_eq_add_of_le h
  rw [outcomes_add, List.take_left' (outcomes_length p m)]

end PointSource

namespace Gathering

variable {σ : Type} [PacketSource σ]

/-- One packet more: the frame stays that of the outcomes seen so far. -/
theorem run_succ (limit : Nat) (seen : List Outcome) (p : PointSource σ) :
    run (limit + 1) (.ofOutcomes seen) p =
      match p.outcome.answer? (.ofOutcomes (seen ++ [p.outcome])) with
      | some g => (g, p.next.2)
      | none => run limit (.ofOutcomes (seen ++ [p.outcome])) p.next.2 := by
  have outcome_eq : p.outcome = ⟨p.next.1, p.next.2.points⟩ := rfl
  rcases hn : p.next with ⟨step, q⟩
  rw [hn] at outcome_eq
  rw [outcome_eq, run, hn]
  cases step with
  | packet sender verdict =>
    cases verdict with
    | accepted report =>
      rw [Frame.ofOutcomes_accepted _ _ rfl rfl]
      cases h : report.scanComplete <;> simp [Outcome.answer?, h]
    | rejected reason =>
      rw [Frame.ofOutcomes_rejected _ _ rfl rfl]
      rfl
    | aborted fault => rfl
  | exhausted | failed | aborted => rfl

theorem run_of_outcomes (body seen : List Outcome) (last : Outcome) (g : Gathering) (limit : Nat)
    (p : PointSource σ) (hp : p.outcomes (body.length + 1) = body ++ [last])
    (going : ∀ o ∈ body, o.ends = false)
    (ended : last.answer? (.ofOutcomes (seen ++ body ++ [last])) = some g)
    (enough : body.length < limit) :
    run limit (.ofOutcomes seen) p = (g, p.after (body.length + 1)) := by
  induction body generalizing seen limit p with
  | nil =>
    obtain ⟨k, rfl⟩ : ∃ k, limit = k + 1 := ⟨limit - 1, by simp at enough; omega⟩
    have first : p.outcome = last := by simpa [PointSource.outcomes] using hp
    simp only [List.append_nil] at ended
    rw [run_succ, first, ended]
    rfl
  | cons o body ih =>
    obtain ⟨k, rfl⟩ : ∃ k, limit = k + 1 := ⟨limit - 1, by simp at enough; omega⟩
    have first : p.outcome = o ∧ p.next.2.outcomes (body.length + 1) = body ++ [last] := by
      simpa [PointSource.outcomes] using hp
    have goes : o.answer? (.ofOutcomes (seen ++ [o])) = none := by
      rw [← Option.not_isSome_iff_eq_none, Outcome.answer?_isSome, going o (by simp)]
      simp
    rw [run_succ, first.1, goes]
    apply ih (seen ++ [o]) k p.next.2 first.2 (fun x hx => going x (by simp [hx]))
    · simpa using ended
    · simpa using enough

end Gathering

namespace PointSource

variable {σ : Type} [PacketSource σ]

theorem nextFrame_of_run (p : PointSource σ) (r : Run) (limit : Nat)
    (hp : p.outcomes r.outcomes.length = r.outcomes) (enough : r.body.length < limit) :
    p.nextFrame limit = (r.answer, p.after r.outcomes.length) := by
  have start : Frame.empty = Frame.ofOutcomes [] := by
    simp [Frame.empty, Frame.ofOutcomes, Buffers.concat, Buffers.blank]
  have size : r.outcomes.length = r.body.length + 1 := by simp [Run.outcomes]
  rw [size] at hp ⊢
  rw [nextFrame, start]
  exact Gathering.run_of_outcomes r.body [] r.last r.answer limit p hp r.going r.ended enough

theorem next_source (p : PointSource σ) : p.next.2.source = (PacketSource.next p.source).2 := by
  rw [next]
  rcases PacketSource.next p.source with ⟨pull, source⟩
  cases pull with
  | packet sender payload =>
    simp only [process]
    split <;> rfl
  | exhausted | failed | aborted => rfl

theorem outcome_of_exhausted (p : PointSource σ) (h : (PacketSource.next p.source).1 = .exhausted) :
    p.outcome.step = .exhausted := by
  rw [outcome, next]
  rcases hn : PacketSource.next p.source with ⟨pull, source⟩
  rw [hn] at h
  subst h
  rfl

/-- A run from any list of outcomes that holds an ending one. -/
theorem exists_run (p : PointSource σ) (n : Nat) (h : ∃ o ∈ p.outcomes n, o.ends = true) :
    ∃ r : Run, r.outcomes.length ≤ n ∧ p.outcomes r.outcomes.length = r.outcomes := by
  have found : ((p.outcomes n).find? (·.ends)).isSome = true := by simpa using h
  obtain ⟨last, hlast⟩ := Option.isSome_iff_exists.1 found
  obtain ⟨ends, body, rest, split, going⟩ := List.find?_eq_some_iff_append.1 hlast
  obtain ⟨answer, ended⟩ := Option.isSome_iff_exists.1
    ((last.answer?_isSome (.ofOutcomes (body ++ [last]))).trans ends)
  have short : body.length + 1 ≤ n := by
    have := congrArg List.length split
    simp only [outcomes_length, List.length_append, List.length_cons] at this
    omega
  refine ⟨⟨body, last, answer, fun o ho => by simpa using going o ho, ended⟩, ?_, ?_⟩
  · simpa [Run.outcomes] using short
  · simp only [Run.outcomes, List.length_append, List.length_singleton]
    rw [← outcomes_take p short, split]
    rw [List.take_append, List.take_of_length_le (Nat.le_succ _)]
    simp

end PointSource

namespace PointSource

theorem script_next (p : PointSource Script) :
    p.next.2.source.answers = p.source.answers.tail := by
  rw [next_source]
  change p.source.next.2.answers = _
  rw [Script.next]
  cases h : p.source.answers <;> simp [h]

theorem script_after (p : PointSource Script) (n : Nat) :
    (p.after n).source.answers = p.source.answers.drop n := by
  induction n generalizing p with
  | zero => rfl
  | succ n ih => rw [after, ih, script_next, List.drop_tail]

theorem script_ends (p : PointSource Script) (n : Nat) (h : p.source.answers.length < n) :
    ∃ o ∈ p.outcomes n, o.ends = true := by
  induction n generalizing p with
  | zero => omega
  | succ n ih =>
    cases ha : p.source.answers with
    | nil =>
      have exhausted : (PacketSource.next p.source).1 = .exhausted := by
        change p.source.next.1 = _
        simp [Script.next, ha]
      refine ⟨p.outcome, by simp [outcomes], ?_⟩
      rw [Outcome.ends, outcome_of_exhausted p exhausted]
    | cons a rest =>
      have shorter : p.next.2.source.answers.length < n := by
        rw [script_next, ha, List.tail_cons]
        simp only [ha, List.length_cons] at h
        omega
      obtain ⟨o, ho, ends⟩ := ih p.next.2 shorter
      exact ⟨o, by simp [outcomes, ho], ends⟩

theorem size_grow (b : Buffers) (n : Nat) (even : b.cartesian.size = b.spherical.size) :
    (grow b n).cartesian.size = (grow b n).spherical.size ∧ n ≤ (grow b n).room := by
  rw [grow]
  split
  · simp only [Buffers.room, Array.size_append, Array.size_replicate]
    omega
  · simp only [Buffers.room]
    omega

/-- A script before some of its answers, with a level decoder behind it. -/
structure Before (p : PointSource Script) (answers : List Pull) (splitter : Splitter) : Prop where
  source : p.source = ⟨answers⟩
  decoder : ∃ motion, p.decoder = .leveled splitter motion
  even : p.buffers.cartesian.size = p.buffers.spherical.size

namespace Before

variable {p : PointSource Script} {rest : List Pull} {splitter : Splitter} (limit : Nat)
  (frame : Frame) {sender : Address}

theorem run_flash {f : Flash} (h : p.Before (.packet sender f.bytes :: rest) splitter) :
    ∃ q : PointSource Script, q.Before rest ⟨f.azimuth⟩ ∧ Gathering.run (limit + 1) frame p =
      if splitter.crosses f.azimuth then
        (.frame { frame.add (.ofPoints [f.point]) with time := some f.timestamp.toNat }, q)
      else Gathering.run limit (frame.add (.ofPoints [f.point])) q := by
  obtain ⟨source, decoder, buffers, count⟩ := p
  obtain ⟨rfl, ⟨motion, rfl⟩, even⟩ := h
  obtain ⟨even', roomy⟩ := size_grow buffers 1 even
  have shown := Buffers.take_overwrite (grow buffers 1) [f.point]
  obtain ⟨cartesian, spherical⟩ :=
    Buffers.size_overwrite (show [f.point].length ≤ (grow buffers 1).room from roomy)
  let q : PointSource Script :=
    ⟨⟨rest⟩, .leveled ⟨f.azimuth⟩ f.motion, (grow buffers 1).overwrite [f.point], 1⟩
  have called : next ⟨⟨.packet sender f.bytes :: rest⟩, .leveled splitter motion, buffers, count⟩ =
      (.packet sender (.accepted (f.report splitter)), q) := by
    rw [next]
    simp only [PacketSource.next, Script.next, process, Decoder.capacity_flash,
      Decoder.decode_flash f splitter motion roomy]
    rfl
  refine ⟨q, ⟨rfl, ⟨f.motion, rfl⟩, cartesian.trans (even'.trans spherical.symm)⟩, ?_⟩
  have points : q.points = .ofPoints [f.point] := shown
  rw [Gathering.run, called]
  dsimp only
  rw [points]
  rfl

theorem run_headless {packet : Bytes} {reason : Rejection}
    (headless : Decoder.capacity packet = .error reason)
    (h : p.Before (.packet sender packet :: rest) splitter) :
    ∃ q : PointSource Script, q.Before rest splitter ∧ Gathering.run (limit + 1) frame p =
      Gathering.run limit { frame with rejected := frame.rejected + 1 } q := by
  obtain ⟨source, decoder, buffers, count⟩ := p
  obtain ⟨rfl, ⟨motion, rfl⟩, even⟩ := h
  refine ⟨⟨⟨rest⟩, .leveled splitter motion, buffers, 0⟩, ⟨rfl, ⟨motion, rfl⟩, even⟩, ?_⟩
  rw [Gathering.run, next]
  simp only [PacketSource.next, Script.next, process, headless]

theorem run_exhausted (h : p.Before (.exhausted :: rest) splitter) :
    ∃ q : PointSource Script, q.Before rest splitter ∧
      Gathering.run (limit + 1) frame p = (.exhausted, q) := by
  obtain ⟨source, decoder, buffers, count⟩ := p
  obtain ⟨rfl, ⟨motion, rfl⟩, even⟩ := h
  exact ⟨⟨⟨rest⟩, .leveled splitter motion, buffers, 0⟩, ⟨rfl, ⟨motion, rfl⟩, even⟩, rfl⟩

theorem run_failed {e : TransportError} (h : p.Before (.failed e :: rest) splitter) :
    ∃ q : PointSource Script, q.Before rest splitter ∧
      Gathering.run (limit + 1) frame p = (.failed e, q) := by
  obtain ⟨source, decoder, buffers, count⟩ := p
  obtain ⟨rfl, ⟨motion, rfl⟩, even⟩ := h
  exact ⟨⟨⟨rest⟩, .leveled splitter motion, buffers, 0⟩, ⟨rfl, ⟨motion, rfl⟩, even⟩, rfl⟩

end Before

/-- Requests for frames cut the outcomes of successive packets into runs: each request takes its
own run and no more, and answers with the frame, the end or the failure of that run. The script
may mix packets, pauses and failures, and the decoder is any. -/
theorem frames_partition_outcomes (p : PointSource Script) (limit m : Nat)
    (enough : p.source.answers.length < limit) :
    ∃ runs : List Run, runs.length = m ∧
      p.outcomes (runs.flatMap Run.outcomes).length = runs.flatMap Run.outcomes ∧
      p.frames limit m = runs.map Run.answer ∧
      p.afterFrames limit m = p.after (runs.flatMap Run.outcomes).length := by
  induction m generalizing p with
  | zero => exact ⟨[], rfl, rfl, rfl, rfl⟩
  | succ m ih =>
    obtain ⟨r, short, hr⟩ := exists_run p _ (script_ends p _ (Nat.lt_succ_self _))
    have size : r.outcomes.length = r.body.length + 1 := by simp [Run.outcomes]
    have first : p.nextFrame limit = (r.answer, p.after r.outcomes.length) :=
      nextFrame_of_run p r limit hr (by omega)
    have fewer : (p.after r.outcomes.length).source.answers.length < limit := by
      rw [script_after, List.length_drop]
      omega
    obtain ⟨runs, count, cut, answers, rest⟩ := ih (p.after r.outcomes.length) fewer
    refine ⟨r :: runs, by simp [count], ?_, ?_, ?_⟩
    · rw [List.flatMap_cons, List.length_append, outcomes_add, hr, cut]
    · rw [frames, first, answers, List.map_cons]
    · rw [afterFrames, first, rest, List.flatMap_cons, List.length_append, after_add]

def lost : Flash := { azimuth := 200, distance := 100, reflectivity := 30, timestamp := 3 }

def alone : Flash := { azimuth := 35900, distance := 50, reflectivity := 40, timestamp := 4 }

def mixedScript : PointSource Script :=
  .ofSource ⟨[.packet defaultSender Decoder.beforeTurn.bytes, .packet defaultSender #[0xEE, 0xFF],
    .packet defaultSender Decoder.afterTurn.bytes, .packet defaultSender lost.bytes, .exhausted,
    .failed ⟨.timedOut, none⟩, .packet defaultSender alone.bytes]⟩
    ((Decoder.ofModel .p128).after [.loadCalibration Decoder.oneLaser])

/-- The first frame holds the points of both its packets; the point before the pause is in none. -/
theorem frames_partition_outcomes_of_mixedScript :
    mixedScript.source.answers.length < 8 ∧
    mixedScript.frames 8 4 = [
      .frame {
        points := .ofPoints [Decoder.beforeTurn.point, Decoder.afterTurn.point], packets := 2,
        rejected := 1, time := some 2 },
      .exhausted, .failed ⟨.timedOut, none⟩,
      .frame { points := .ofPoints [alone.point], packets := 1, rejected := 0, time := some 4 }] ∧
    ∃ runs : List Run, runs.length = 4 ∧
      mixedScript.outcomes (runs.flatMap Run.outcomes).length = runs.flatMap Run.outcomes ∧
      mixedScript.frames 8 4 = runs.map Run.answer ∧
      mixedScript.afterFrames 8 4 = mixedScript.after (runs.flatMap Run.outcomes).length := by
  have short : mixedScript.source.answers.length < 8 := Nat.lt_succ_self 7
  refine ⟨short, ?_, frames_partition_outcomes mixedScript 8 4 short⟩
  have start : mixedScript.Before mixedScript.source.answers .start :=
    ⟨rfl, ⟨_, Decoder.after_oneLaser⟩, rfl⟩
  obtain ⟨p₁, h₁, run₁⟩ := start.run_flash 7 .empty
  have headless : Decoder.capacity #[0xEE, 0xFF] = .error (.truncated 12 2) := rfl
  obtain ⟨p₂, h₂, run₂⟩ := h₁.run_headless 6 _ headless
  obtain ⟨p₃, h₃, run₃⟩ := h₂.run_flash 5 _
  have first : mixedScript.nextFrame 8 = (.frame {
      points := .ofPoints [Decoder.beforeTurn.point, Decoder.afterTurn.point], packets := 2,
      rejected := 1, time := some 2 }, p₃) := by
    rw [nextFrame, run₁, if_neg (by decide), run₂, run₃, if_pos (by decide)]
    rfl
  obtain ⟨p₄, h₄, run₄⟩ := h₃.run_flash 7 .empty
  obtain ⟨p₅, h₅, run₅⟩ := h₄.run_exhausted 6 _
  have second : p₃.nextFrame 8 = (.exhausted, p₅) := by
    rw [nextFrame, run₄, if_neg (by decide), run₅]
  obtain ⟨p₆, h₆, third⟩ := h₅.run_failed 7 .empty
  have third : p₅.nextFrame 8 = (.failed ⟨.timedOut, none⟩, p₆) := third
  obtain ⟨p₇, h₇, run₇⟩ := h₆.run_flash 7 .empty
  have fourth : p₆.nextFrame 8 = (.frame {
      points := .ofPoints [alone.point], packets := 1, rejected := 0, time := some 4 }, p₇) := by
    rw [nextFrame, run₇, if_pos (by decide)]
    rfl
  rw [frames, first, frames, second, frames, third, frames, fourth, frames]

end PointSource

end Lidar
