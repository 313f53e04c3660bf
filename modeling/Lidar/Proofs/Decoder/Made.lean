import Lidar.Proofs.Decoder.Outcome

namespace Lidar

/-- The blocks that are not passed over, in wire order. -/
def aimedBlocks (aim : Nat → Block → Option Aim) (blocks : List (Block × Nat)) :
    List (Block × Aim) :=
  blocks.filterMap fun block => (aim block.2 block.1).map (block.1, ·)

/-- The points of aimed blocks, one block behind the other. -/
def pointsOf (angles : AngleTable) (scale : Float32) (aimed : List (Block × Aim)) :
    Except Fault (List Point) := do
  let each ← aimed.mapM fun block => block.1.points angles scale block.2.direction
  return each.flatten

section Walk

variable {angles : AngleTable} {scale : Float32} {aim : Nat → Block → Option Aim}
  {b : Block} {i : Nat} {blocks : List (Block × Nat)}

theorem aimedBlocks_passed (h : aim i b = none) :
    aimedBlocks aim ((b, i) :: blocks) = aimedBlocks aim blocks := by
  simp only [aimedBlocks, List.filterMap_cons, h, Option.map_none]

theorem aimedBlocks_aimed {a : Aim} (h : aim i b = some a) :
    aimedBlocks aim ((b, i) :: blocks) = (b, a) :: aimedBlocks aim blocks := by
  simp only [aimedBlocks, List.filterMap_cons, h, Option.map_some]

theorem pointsOf_cons (a : Aim) (rest : List (Block × Aim)) :
    pointsOf angles scale ((b, a) :: rest) = do
      let points ← b.points angles scale a.direction
      let later ← pointsOf angles scale rest
      return points ++ later := by
  rw [pointsOf, List.mapM_cons]
  cases first : b.points angles scale a.direction with
  | error fault => rfl
  | ok points =>
    rw [pointsOf]
    cases rest.mapM fun block => block.1.points angles scale block.2.direction <;> rfl

/-- What a walk gives that makes these points of these blocks. -/
def Scan.ofAimed (aimed : List (Block × Aim)) (splitter : Splitter) (points : List Point) :
    Scan where
  points
  complete := (splitter.feed (aimed.map (·.1.azimuth))).1
  splitter := (splitter.feed (aimed.map (·.1.azimuth))).2
  azimuths := Bounds.ofList (aimed.map (·.2.azimuth))

/-- The walk makes the points of the aimed blocks, and feeds their azimuths to the splitter. -/
theorem Scan.run_eq (blocks : List (Block × Nat)) (splitter : Splitter) :
    run angles scale aim blocks splitter = do
      let points ← pointsOf angles scale (aimedBlocks aim blocks)
      return ofAimed (aimedBlocks aim blocks) splitter points := by
  induction blocks generalizing splitter with
  | nil => rfl
  | cons block rest ih =>
    obtain ⟨b, i⟩ := block
    cases aimed : aim i b with
    | none =>
      rw [run_passed aimed, aimedBlocks_passed aimed]
      exact ih splitter
    | some a =>
      have behind := ih (splitter.update b.azimuth).2
      rw [run_aimed aimed, aimedBlocks_aimed aimed, pointsOf_cons, behind]
      cases b.points angles scale a.direction with
      | error fault => rfl
      | ok points => cases pointsOf angles scale (aimedBlocks aim rest) <;> rfl

end Walk

/-- What a packet gives, the frame in progress apart. -/
structure Made where
  /-- The report of a decoder that remembers no azimuth. -/
  report : Report
  motion : Motion
  /-- The wire azimuths of the blocks that give points. -/
  azimuths : List UInt16
  points : List Point

/-- The report of a packet that comes when the splitter is in some state. -/
def Made.reportFrom (made : Made) (splitter : Splitter) : Report :=
  { made.report with scanComplete := (splitter.feed made.azimuths).1 }

theorem Format.eq_packetOf {Tail : Type} {f : Format Tail} {b : Bytes} {p : Packet Tail}
    (h : f.parse b = .ok p) : p = f.packetOf b := by
  rw [parse_eq_guarded, Test.guarded] at h
  cases decided : Test.complaint? (f.tests b) with
  | some reason =>
    rw [decided] at h
    cases h
  | none =>
    rw [decided] at h
    exact (Except.ok.inj h).symm

namespace Family

variable {Tail Tables : Type} (f : Family Tail Tables)

/-- What an admitted packet gives under a correction. -/
def madeOf (p : Packet Tail) (c : Correction Tail) : Except Fault Made := do
  let contents ← Fault.outsidePacket.unless p.contents?
  let aimed := aimedBlocks (c.aim p.header contents.tail) contents.blocks.zipIdx
  let points ← pointsOf f.angles p.header.distanceScale aimed
  return {
    report := f.report p.header c contents (Scan.ofAimed aimed .start points)
    motion := f.motion contents.tail
    azimuths := aimed.map (·.1.azimuth)
    points }

/-- What a packet gives to a decoder with some tables, into buffers with some room. -/
def made (tables : Tables) (packet : Bytes) (room : Nat) :
    Except Rejection (Except Fault Made) := do
  let (p, c) ← f.admission { f.initial with tables } packet room
  return f.madeOf p c

variable {f} in
/-- What is known of a packet that passes the tests of admission. -/
theorem admission_ok {s : State Tables} {packet : Bytes} {room : Nat} {p : Packet Tail}
    {c : Correction Tail} (h : f.admission s packet room = .ok (p, c)) :
    p = f.format.packetOf packet ∧ f.correction? s.tables = some c ∧
      c.needed p.header ≤ c.elevations.size ∧ p.header.capacity ≤ room := by
  obtain ⟨parsed, hparsed, rest⟩ := bind_eq_ok_iff.1 h
  cases loaded : f.correction? s.tables with
  | none =>
    rw [loaded] at rest
    cases rest
  | some correction =>
    rw [loaded] at rest
    simp only [guard_eq_ok_iff] at rest
    obtain ⟨covered, roomy, made⟩ := rest
    cases made
    exact ⟨Format.eq_packetOf hparsed, rfl, Nat.not_lt.1 covered, Nat.not_lt.1 roomy⟩

variable {f} in
/-- What is known of a packet that is made whole. -/
theorem made_ok {tables : Tables} {packet : Bytes} {room : Nat} {made : Made}
    (h : f.made tables packet room = .ok (.ok made)) :
    ∃ c contents points, f.correction? tables = some c ∧
      (f.format.packetOf packet).contents? = some contents ∧
      let aimed := aimedBlocks (c.aim (.ofBytes packet) contents.tail) contents.blocks.zipIdx
      pointsOf f.angles (Header.ofBytes packet).distanceScale aimed = .ok points ∧
      made = {
        report := f.report (.ofBytes packet) c contents (Scan.ofAimed aimed .start points)
        motion := f.motion contents.tail
        azimuths := aimed.map (·.1.azimuth)
        points } := by
  obtain ⟨⟨p, c⟩, admitted, read⟩ := bind_eq_ok_iff.1 h
  obtain ⟨rfl, loaded, -, -⟩ := admission_ok admitted
  obtain ⟨contents, hcontents, rest⟩ := bind_eq_ok_iff.1 (Except.ok.inj read)
  obtain ⟨points, pointed, last⟩ := bind_eq_ok_iff.1 rest
  have known : (f.format.packetOf packet).contents? = some contents := by
    cases found : (f.format.packetOf packet).contents? with
    | none =>
      rw [found] at hcontents
      cases hcontents
    | some other =>
      rw [found] at hcontents
      cases hcontents
      rfl
  exact ⟨c, contents, points, loaded, known, pointed, (Except.ok.inj last).symm⟩

theorem decode_eq_made (s : State Tables) (packet : Bytes) (out : Buffers) :
    f.decode s packet out =
      match f.made s.tables packet out.room with
      | .error reason => (.rejected reason, s, out)
      | .ok (.error fault) => (.aborted fault, s, out)
      | .ok (.ok made) =>
        (.accepted (made.reportFrom s.splitter),
          { s with splitter := (s.splitter.feed made.azimuths).2, motion := made.motion },
          out.overwrite made.points) := by
  have admission : f.admission { f.initial with tables := s.tables } packet out.room =
      f.admission s packet out.room := rfl
  rw [decode, made, admission]
  cases f.admission s packet out.room with
  | error reason => rfl
  | ok admitted =>
    obtain ⟨p, c⟩ := admitted
    simp only [bind, Except.bind, pure, Except.pure, madeOf, scan, Scan.run_eq]
    cases p.contents? with
    | none => rfl
    | some contents =>
      simp only [Fault.unless, Option.elim]
      cases pointsOf f.angles p.header.distanceScale
        (aimedBlocks (c.aim p.header contents.tail) contents.blocks.zipIdx) <;> rfl

end Family

namespace Decoder

/-- The last azimuth that the decoder remembers. -/
def splitter : Decoder → Splitter
  | p128 s => s.splitter
  | qt128 s => s.splitter
  | at128 s => s.splitter

/-- What a packet gives to the decoder, into buffers with some room. -/
def made (d : Decoder) (packet : Bytes) (room : Nat) : Except Rejection (Except Fault Made) :=
  match d with
  | p128 s => P128.family.made s.tables packet room
  | qt128 s => QT128.family.made s.tables packet room
  | at128 s => AT128.family.made s.tables packet room

theorem decode_eq_made (d : Decoder) (packet : Bytes) (out : Buffers) :
    d.decode packet out =
      match d.made packet out.room with
      | .error reason => (.rejected reason, d, out)
      | .ok (.error fault) => (.aborted fault, d, out)
      | .ok (.ok made) =>
        (.accepted (made.reportFrom d.splitter),
          d.moved (d.splitter.feed made.azimuths).2 made.motion, out.overwrite made.points) := by
  cases d with
  | p128 s =>
    rw [decode, Family.decode_eq_made, Decoder.made]
    cases P128.family.made s.tables packet out.room with
    | error reason => rfl
    | ok read => cases read <;> rfl
  | qt128 s =>
    rw [decode, Family.decode_eq_made, Decoder.made]
    cases QT128.family.made s.tables packet out.room with
    | error reason => rfl
    | ok read => cases read <;> rfl
  | at128 s =>
    rw [decode, Family.decode_eq_made, Decoder.made]
    cases AT128.family.made s.tables packet out.room with
    | error reason => rfl
    | ok read => cases read <;> rfl

variable {d : Decoder} {packet : Bytes} {out : Buffers}

theorem decode_eq_rejected {reason : Rejection} (h : d.made packet out.room = .error reason) :
    d.decode packet out = (.rejected reason, d, out) := by
  rw [decode_eq_made, h]

theorem decode_eq_aborted {fault : Fault} (h : d.made packet out.room = .ok (.error fault)) :
    d.decode packet out = (.aborted fault, d, out) := by
  rw [decode_eq_made, h]

theorem decode_eq_accepted {made : Made} (h : d.made packet out.room = .ok (.ok made)) :
    d.decode packet out =
      (.accepted (made.reportFrom d.splitter),
        d.moved (d.splitter.feed made.azimuths).2 made.motion, out.overwrite made.points) := by
  rw [decode_eq_made, h]

/-- Only what is made whole is accepted. -/
theorem made_of_accepted {report : Report} (accepted : (d.decode packet out).1 = .accepted report) :
    ∃ made, d.made packet out.room = .ok (.ok made) ∧ report = made.reportFrom d.splitter := by
  cases read : d.made packet out.room with
  | error reason =>
    rw [decode_eq_rejected read] at accepted
    cases accepted
  | ok walked =>
    cases walked with
    | error fault =>
      rw [decode_eq_aborted read] at accepted
      cases accepted
    | ok made =>
      rw [decode_eq_accepted read] at accepted
      exact ⟨made, rfl, (Verdict.accepted.inj accepted).symm⟩

theorem made_of_rejected {reason : Rejection}
    (rejected : (d.decode packet out).1 = .rejected reason) :
    d.made packet out.room = .error reason := by
  cases read : d.made packet out.room with
  | error other =>
    rw [decode_eq_rejected read] at rejected
    rw [Verdict.rejected.inj rejected]
  | ok walked =>
    cases walked with
    | error fault =>
      rw [decode_eq_aborted read] at rejected
      cases rejected
    | ok made =>
      rw [decode_eq_accepted read] at rejected
      cases rejected

end Decoder

end Lidar
