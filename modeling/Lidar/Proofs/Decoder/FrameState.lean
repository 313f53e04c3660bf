import Lidar.Proofs.Decoder.Flash

namespace Lidar

/-- If the aim only decides by the block whether it is passed over, the aimed blocks are a filtered
list of the blocks. -/
theorem map_fst_aimedBlocks {aim : Nat → Block → Option Aim} {keep : Block → Bool}
    (decides : ∀ i b, (aim i b).isSome = keep b) (blocks : List (Block × Nat)) :
    (aimedBlocks aim blocks).map (·.1) = (blocks.map (·.1)).filter keep := by
  induction blocks with
  | nil => rfl
  | cons block rest ih =>
    obtain ⟨b, i⟩ := block
    have kept := decides i b
    cases aimed : aim i b with
    | none =>
      have passed : keep b = false := by rw [← kept, aimed]; rfl
      rw [aimedBlocks_passed aimed, List.map_cons, List.filter_cons_of_neg (by simp [passed]), ih]
    | some a =>
      have taken : keep b = true := by rw [← kept, aimed]; rfl
      rw [aimedBlocks_aimed aimed, List.map_cons, List.map_cons, List.filter_cons_of_pos taken, ih]

theorem azimuths_aimedBlocks {aim : Nat → Block → Option Aim} {keep : Block → Bool}
    (decides : ∀ i b, (aim i b).isSome = keep b) (blocks : List (Block × Nat)) :
    (aimedBlocks aim blocks).map (·.1.azimuth) =
      ((blocks.map (·.1)).filter keep).map (·.azimuth) := by
  rw [← map_fst_aimedBlocks decides, List.map_map]
  rfl

namespace Family

variable {Tail Tables : Type} {f : Family Tail Tables} {tables : Tables} {packet : Bytes}
  {room : Nat} {made : Made}

/-- An accepted packet is fed as the blocks that its correction keeps. -/
theorem azimuths_of_made {keep : Block → Bool}
    (decides : ∀ c, f.correction? tables = some c →
      ∀ h tail i b, (c.aim h tail i b).isSome = keep b)
    (h : f.made tables packet room = .ok (.ok made)) :
    made.azimuths =
      (((f.format.packetOf packet).blocks?.getD []).filter keep).map (·.azimuth) := by
  obtain ⟨c, contents, points, loaded, known, -, rfl⟩ := made_ok h
  have blocks : (f.format.packetOf packet).blocks? = some contents.blocks :=
    (Packet.contents?_eq_some_iff.1 known).1
  dsimp only
  rw [azimuths_aimedBlocks (decides c loaded _ _), List.zipIdx_map_fst, blocks, Option.getD_some]

end Family

namespace Decoder

def blocks (d : Decoder) (packet : Bytes) : List Block :=
  (d.model.format.packetOf packet).blocks?.getD []

/-- A sweeping sensor passes over the blocks outside every field, the others over none. -/
def inView (d : Decoder) (b : Block) : Bool :=
  match d with
  | p128 _ | qt128 _ => true
  | at128 s => (s.tables.bind (·.field? (AT128.blockAzimuth b))).isSome

/-- The wire azimuths of a packet that concern the frame in progress, in wire order. -/
def azimuths (d : Decoder) (packet : Bytes) : List UInt16 :=
  ((d.blocks packet).filter d.inView).map (·.azimuth)

variable {d : Decoder} {packet : Bytes} {out : Buffers} {room : Nat}

theorem azimuths_of_made {made : Made} (h : d.made packet room = .ok (.ok made)) :
    made.azimuths = d.azimuths packet := by
  cases d with
  | p128 s =>
    refine Family.azimuths_of_made (f := P128.family) ?_ h
    intro c loaded _ _ i b
    obtain ⟨table, -, rfl⟩ := Option.map_eq_some_iff.1 loaded
    rfl
  | qt128 s =>
    refine Family.azimuths_of_made (f := QT128.family) ?_ h
    intro c loaded _ _ i b
    obtain ⟨table, -, rfl⟩ := Option.map_eq_some_iff.1 loaded
    rfl
  | at128 s =>
    refine Family.azimuths_of_made (f := AT128.family) ?_ h
    intro c loaded _ _ i b
    obtain ⟨table, hloaded, rfl⟩ := Option.map_eq_some_iff.1 loaded
    simp only [AT128.correction, AT128.aim, Option.isSome_map, inView, hloaded, Option.bind_some]

@[simp] theorem splitter_moved (splitter : Splitter) (motion : Motion) :
    (d.moved splitter motion).splitter = splitter := by
  cases d <;> rfl

/-- The last azimuth after an operation. -/
def frameAfter (d : Decoder) : Operation → Splitter
  | .reset => .start
  | .decode packet out =>
    match (d.decode packet out).1 with
    | .accepted _ => (d.splitter.feed (d.azimuths packet)).2
    | _ => d.splitter
  | _ => d.splitter

theorem scanComplete_of_accepted {report : Report}
    (accepted : (d.decode packet out).1 = .accepted report) :
    report.scanComplete = (d.splitter.feed (d.azimuths packet)).1 := by
  obtain ⟨made, read, rfl⟩ := made_of_accepted accepted
  rw [← azimuths_of_made read]
  rfl

theorem splitter_decode (packet : Bytes) (out : Buffers) :
    (d.decode packet out).2.1.splitter = d.frameAfter (.decode packet out) := by
  rw [frameAfter]
  cases read : d.made packet out.room with
  | error reason => rw [decode_eq_rejected read]
  | ok walked =>
    cases walked with
    | error fault => rw [decode_eq_aborted read]
    | ok made =>
      rw [decode_eq_accepted read]
      dsimp only
      rw [splitter_moved, azimuths_of_made read]

theorem splitter_parts (d : Decoder) : d.parts.splitter = d.splitter := by
  cases d <;> rfl

/-- A load replaces a table, if anything. -/
theorem splitter_load (d : Decoder) (blob : Bytes) (table : Table) :
    (d.apply (.load blob table)).splitter = d.splitter := by
  rw [← splitter_parts, ← splitter_parts]
  rcases parts_apply_load d blob table with same | ⟨l, -, same⟩
  · rw [same]
  · rw [same, Parts.splitter_set]

theorem splitter_apply (d : Decoder) (op : Operation) :
    (d.apply op).splitter = d.frameAfter op := by
  cases op with
  | loadCalibration blob => exact splitter_load d blob .calibration
  | loadChannelConfig blob => exact splitter_load d blob .channelConfig
  | loadFireTimes blob => exact splitter_load d blob .fireTimes
  | setFireTimeCorrection on => cases d <;> rfl
  | reset => cases d <;> rfl
  | decode packet out => exact splitter_decode packet out

/-- An accepted packet of a run: the azimuths that concerned the frame in progress, and its
report. -/
structure Accepted where
  azimuths : List UInt16
  report : Report

def acceptedBy (d : Decoder) : Operation → List Accepted
  | .decode packet out =>
    match (d.decode packet out).1 with
    | .accepted report => [⟨d.azimuths packet, report⟩]
    | _ => []
  | _ => []

/-- The accepted packets of a run, in their order. -/
def accepted (d : Decoder) : List Operation → List Accepted
  | [] => []
  | op :: ops => d.acceptedBy op ++ (d.apply op).accepted ops

/-- The azimuths of some packets as one list. -/
def allAzimuths (packets : List Accepted) : List UInt16 := packets.flatMap (·.azimuths)

def anyComplete (packets : List Accepted) : Bool := packets.any (·.report.scanComplete)

theorem feed_acceptedBy {op : Operation} (kept : op ≠ .reset) :
    d.splitter.feed (allAzimuths (d.acceptedBy op)) =
      (anyComplete (d.acceptedBy op), (d.apply op).splitter) := by
  rw [splitter_apply]
  cases op with
  | loadCalibration blob | loadChannelConfig blob | loadFireTimes blob
  | setFireTimeCorrection on => rfl
  | reset => exact absurd rfl kept
  | decode packet out =>
    cases verdict : (d.decode packet out).1 with
    | rejected reason | aborted fault => simp [acceptedBy, frameAfter, verdict, allAzimuths,
        anyComplete, Splitter.feed]
    | accepted report =>
      have complete := scanComplete_of_accepted verdict
      simp [acceptedBy, frameAfter, verdict, allAzimuths, anyComplete, complete]

/-- Without a reset the accepted packets of a run are fed as one list. -/
theorem feed_accepted {ops : List Operation} (kept : Operation.reset ∉ ops) :
    d.splitter.feed (allAzimuths (d.accepted ops)) =
      (anyComplete (d.accepted ops), (d.after ops).splitter) := by
  induction ops generalizing d with
  | nil => rfl
  | cons op ops ih =>
    obtain ⟨first, rest⟩ := not_or.1 (List.mem_cons.not.1 kept)
    have here := feed_acceptedBy (d := d) (Ne.symm first)
    have behind := ih (d := d.apply op) rest
    simp only [accepted, allAzimuths, anyComplete, List.flatMap_append, List.any_append] at *
    rw [Splitter.feed_append, here, behind]
    rfl

theorem acceptedBy_cases (d : Decoder) (op : Operation) :
    d.acceptedBy op = [] ∨ ∃ packet report, d.acceptedBy op = [⟨d.azimuths packet, report⟩] ∧
      report.scanComplete = (d.splitter.feed (d.azimuths packet)).1 := by
  cases op with
  | loadCalibration blob | loadChannelConfig blob | loadFireTimes blob
  | setFireTimeCorrection on | reset => exact .inl rfl
  | decode packet out =>
    cases verdict : (d.decode packet out).1 with
    | rejected reason | aborted fault => exact .inl (by rw [acceptedBy, verdict])
    | accepted report =>
      refine .inr ⟨packet, report, ?_, scanComplete_of_accepted verdict⟩
      rw [acceptedBy, verdict]

/-- A packet of a run without reset reports what its azimuths give behind those of all packets
before it. -/
theorem scanComplete_of_split {ops : List Operation} (kept : Operation.reset ∉ ops)
    {front back : List Accepted} {p : Accepted} (split : d.accepted ops = front ++ p :: back) :
    p.report.scanComplete =
      ((d.splitter.feed (allAzimuths front)).2.feed p.azimuths).1 := by
  induction ops generalizing d front with
  | nil => simp [accepted] at split
  | cons op ops ih =>
    obtain ⟨first, rest⟩ := not_or.1 (List.mem_cons.not.1 kept)
    have here := feed_acceptedBy (d := d) (Ne.symm first)
    rw [accepted] at split
    rcases d.acceptedBy_cases op with nothing | ⟨packet, report, one, complete⟩
    · rw [nothing, List.nil_append] at split
      rw [nothing] at here
      have same : d.splitter = (d.apply op).splitter := congrArg Prod.snd here
      rw [same]
      exact ih rest split
    · rw [one, List.singleton_append] at split
      rw [one] at here
      cases front with
      | nil =>
        obtain ⟨rfl, -⟩ := List.cons.inj split
        exact complete
      | cons q front =>
        obtain ⟨rfl, behind⟩ := List.cons.inj split
        have fed : (d.splitter.feed (d.azimuths packet)).2 = (d.apply op).splitter := by
          have snd := congrArg Prod.snd here
          simpa [allAzimuths] using snd
        have later := ih rest behind
        rw [allAzimuths, List.flatMap_cons, Splitter.feed_append, fed]
        exact later

theorem acceptedBy_flash (f : Flash) (splitter : Splitter) (motion : Motion) {out : Buffers}
    (roomy : 0 < out.room) : (leveled splitter motion).acceptedBy (.decode f.bytes out) =
      [⟨[f.azimuth], f.report splitter⟩] := by
  have blocks : (leveled splitter motion).blocks f.bytes = [f.block] :=
    congrArg (Option.getD · []) (Packet.contents?_eq_some_iff.1 f.contents?_bytes).1
  have azimuths : (leveled splitter motion).azimuths f.bytes = [f.azimuth] := by
    rw [Decoder.azimuths, blocks]
    rfl
  rw [acceptedBy, decode_flash f splitter motion roomy, azimuths]

theorem accepted_over_full_turn :
    ((ofModel .p128).after [.loadCalibration oneLaser]).accepted
      [.decode beforeTurn.bytes (.blank 1), .decode #[0xEE, 0xFF] (.blank 1),
        .decode afterTurn.bytes (.blank 1)] =
      [⟨[35500], beforeTurn.report .start⟩, ⟨[100], afterTurn.report ⟨35500⟩⟩] := by
  have roomy : 0 < (Buffers.blank 1).room := by decide
  have refused (d : Decoder) : d.acceptedBy (.decode #[0xEE, 0xFF] (.blank 1)) = [] ∧
      d.apply (.decode #[0xEE, 0xFF] (.blank 1)) = d := by
    rw [acceptedBy, apply, decode_delimiter]
    exact ⟨rfl, rfl⟩
  rw [after_oneLaser, accepted, acceptedBy_flash beforeTurn _ _ roomy,
    apply_flash beforeTurn _ _ roomy, accepted, (refused _).1, (refused _).2, accepted,
    acceptedBy_flash afterTurn _ _ roomy]
  rfl

/-- Over every run from construction the frame in progress is what feeding makes of it. An accepted
packet reports the end of a frame if and only if feeding its azimuths does; and as long as there is
no reset, the azimuths of all accepted packets, fed as one list, lead to the same splitter and end
a frame if and only if one of the packets reported it. -/
theorem frame_state_follows_feed (m : Model) (past : List Operation) :
    let d := (ofModel m).after past
    (ofModel m).splitter = .start ∧
      (∀ op, (d.apply op).splitter = d.frameAfter op) ∧
      (∀ packet out report, (d.decode packet out).1 = .accepted report →
        report.scanComplete = (d.splitter.feed (d.azimuths packet)).1) ∧
      ∀ ops, Operation.reset ∉ ops →
        d.splitter.feed (allAzimuths (d.accepted ops)) =
          (anyComplete (d.accepted ops), (d.after ops).splitter) := by
  intro d
  refine ⟨?_, splitter_apply d, ?_, ?_⟩
  · cases m <;> rfl
  · intro packet out report accepted
    exact scanComplete_of_accepted accepted
  · intro ops kept
    exact feed_accepted kept

/-- The packet behind the full turn ends the frame; the packet before it and the one in between,
which is refused, do not. -/
theorem frame_state_follows_feed_over_full_turn :
    let d := (ofModel .p128).after [.loadCalibration oneLaser]
    let ops : List Operation := [.decode beforeTurn.bytes (.blank 1),
      .decode #[0xEE, 0xFF] (.blank 1), .decode afterTurn.bytes (.blank 1)]
    d.accepted ops =
        [⟨[35500], beforeTurn.report .start⟩, ⟨[100], afterTurn.report ⟨35500⟩⟩] ∧
      (d.accepted ops).map (·.report.scanComplete) = [false, true] ∧
      d.splitter.feed [35500, 100] = (true, (d.after ops).splitter) ∧
      (d.after ops).splitter = ⟨100⟩ ∧ ((d.after ops).apply .reset).splitter = .start := by
  intro d ops
  have packets := accepted_over_full_turn
  obtain ⟨-, -, -, runs⟩ := frame_state_follows_feed .p128 [.loadCalibration oneLaser]
  obtain ⟨-, steps, -, -⟩ := frame_state_follows_feed .p128 ([.loadCalibration oneLaser] ++ ops)
  have cleared : ((d.after ops).apply .reset).splitter = .start := by
    have there := steps .reset
    rw [after, List.foldl_append] at there
    exact there
  have fed : d.splitter.feed [35500, 100] = (true, (d.after ops).splitter) := by
    have fed := runs ops (by simp [ops])
    rw [packets] at fed
    exact fed
  have last : (d.after ops).splitter = ⟨100⟩ := by
    have last := congrArg Prod.snd fed
    rw [Splitter.feed_last] at last
    exact last.symm
  rw [packets]
  exact ⟨rfl, by decide, fed, last, cleared⟩

end Decoder

end Lidar
