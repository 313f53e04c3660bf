import Lidar.Proofs.Decoder.Made
import Lidar.Proofs.Wire.Reading

namespace Lidar

/-- The fields of the tail that decoding uses, from the start of the tail: return mode, motor speed,
calendar and microseconds in the order of the format, and the mode flag of alternating loops. -/
def Model.usedTail : Model → List Span
  | p128 => [⟨12, 1⟩, ⟨13, 2⟩, ⟨15, 6⟩, ⟨21, 4⟩]
  | qt128 => [⟨5, 1⟩, ⟨12, 1⟩, ⟨13, 2⟩, ⟨15, 6⟩, ⟨21, 4⟩]
  | at128 => [⟨18, 2⟩, ⟨20, 4⟩, ⟨24, 1⟩, ⟨26, 6⟩]

namespace Packet

variable {Tail : Type} (p : Packet Tail)

/-- The azimuths, and the distances and reflectivities of all returns. -/
def usedBlocks : List Span :=
  (List.range p.layout.blocks).flatMap fun i =>
    ⟨p.layout.blockStart i, p.layout.azimuthSize⟩ ::
      (List.range p.layout.lasers).map fun j => ⟨p.layout.returnStart i j, 3⟩

end Packet

/-- The bytes of a packet that decoding uses, in their order. -/
def Model.used (m : Model) (b : Bytes) : List Span :=
  let p := m.format.packetOf b
  [⟨6, 2⟩, ⟨9, 1⟩, ⟨11, 1⟩] ++ p.usedBlocks ++
    m.usedTail.map (fun s => ⟨p.layout.tail + s.start, s.length⟩) ++ p.sequenceArea?.toList

/-- Headers that agree in the fields that decoding uses. -/
structure Header.SameUse (h h' : Header) : Prop where
  lasers : h.lasers = h'.lasers
  blocks : h.blocks = h'.blocks
  distanceUnit : h.distanceUnit = h'.distanceUnit
  flags : h.flags = h'.flags

theorem Header.SameUse.layout {Tail : Type} {h h' : Header} (same : h.SameUse h')
    (f : Format Tail) : f.layout h = f.layout h' := by
  simp only [Format.layout, blockCount, laserCount, same.lasers, same.blocks, same.flags]

namespace Packet

variable {Tail : Type} {p q : Packet Tail}

theorem blocks?_of_used (format : p.format = q.format) (layout : p.layout = q.layout)
    (same : ∀ s ∈ p.usedBlocks, s.Agree p.bytes q.bytes) : p.blocks? = q.blocks? := by
  have cells (i : Nat) (hi : i < p.layout.blocks) :
      ∀ s ∈ ⟨p.layout.blockStart i, p.layout.azimuthSize⟩ ::
        (List.range p.layout.lasers).map fun j => (⟨p.layout.returnStart i j, 3⟩ : Span),
      s.Agree p.bytes q.bytes :=
    fun s hs => same s (List.mem_flatMap.2 ⟨i, List.mem_range.2 hi, hs⟩)
  rw [blocks?, blocks?, ← layout]
  refine mapM_congr fun i hi => ?_
  obtain ⟨azimuth, returns⟩ := List.forall_mem_cons.1 (cells i (List.mem_range.1 hi))
  apply block?_of_matches (congrArg Format.fineAzimuth format) (congrArg Layout.lasers layout)
  · rw [← layout]
    exact Span.agree_iff_matches.1 azimuth
  · intro j hj
    rw [← layout]
    exact Span.agree_iff_matches.1 (returns _ (List.mem_map_of_mem (List.mem_range.2 hj)))

end Packet

theorem P128.Tail.fields_of_read? {b : Bytes} {i : Nat} {t : P128.Tail} (h : read? b i = some t) :
    b.byte? (i + 12) = some t.returnMode ∧ b.word16? (i + 13) = some t.motorSpeed ∧
      b.vector? (i + 15) 6 = some t.utc ∧ b.word32? (i + 21) = some t.timestamp := by
  simp only [read?, Option.bind_eq_bind, Option.bind_eq_some_iff, Option.pure_def,
    Option.some.injEq] at h
  obtain ⟨_, -, _, -, _, -, _, -, _, -, _, mode, _, speed, _, utc, _, time, _, -, rfl⟩ := h
  exact ⟨mode, speed, utc, time⟩

theorem QT128.Tail.fields_of_read? {b : Bytes} {i : Nat} {t : QT128.Tail} (h : read? b i = some t) :
    b.byte? (i + 5) = some t.modeFlag ∧ b.byte? (i + 12) = some t.returnMode ∧
      b.word16? (i + 13) = some t.motorSpeed ∧ b.vector? (i + 15) 6 = some t.utc ∧
      b.word32? (i + 21) = some t.timestamp := by
  simp only [read?, Option.bind_eq_bind, Option.bind_eq_some_iff, Option.pure_def,
    Option.some.injEq] at h
  obtain ⟨_, -, _, -, _, flag, _, -, _, -, _, -, _, mode, _, speed, _, utc, _, time, _, -, rfl⟩ := h
  exact ⟨flag, mode, speed, utc, time⟩

theorem AT128.Tail.fields_of_read? {b : Bytes} {i : Nat} {t : AT128.Tail} (h : read? b i = some t) :
    b.int16? (i + 18) = some t.motorSpeed ∧ b.word32? (i + 20) = some t.timestamp ∧
      b.byte? (i + 24) = some t.returnMode ∧ b.vector? (i + 26) 6 = some t.utc := by
  simp only [read?, Option.bind_eq_bind, Option.bind_eq_some_iff, Option.pure_def,
    Option.some.injEq] at h
  obtain ⟨_, -, _, -, _, -, _, -, _, -, _, speed, _, time, _, mode, _, -, _, utc, rfl⟩ := h
  exact ⟨speed, time, mode, utc⟩

/-- Two tails at the same place agree in the fields that decoding uses. -/
def SameTail (m : Model) (b c : Bytes) (i : Nat) : Prop :=
  ∀ s ∈ m.usedTail, b.Matches c (i + s.start) (i + s.start) s.length

theorem some_inj_of_eq {α : Type} {x y : Option α} {a b : α} (same : x = y) (hx : x = some a)
    (hy : y = some b) : a = b :=
  Option.some.inj (hx.symm.trans (same.trans hy))

theorem P128.Tail.status_of_used {b c : Bytes} {i : Nat} {t t' : P128.Tail}
    (read : read? b i = some t) (read' : read? c i = some t') (same : SameTail .p128 b c i) :
    t.status = t'.status := by
  obtain ⟨mode, speed, utc, time⟩ := fields_of_read? read
  obtain ⟨mode', speed', utc', time'⟩ := fields_of_read? read'
  simp only [SameTail, Model.usedTail, List.forall_mem_cons] at same
  obtain ⟨sameMode, sameSpeed, sameUtc, sameTime, -⟩ := same
  have hmode := some_inj_of_eq (sameMode.byte? (k := 0) (by decide)) mode mode'
  have hspeed := some_inj_of_eq (sameSpeed.word16? (k := 0) (by decide)) speed speed'
  have hutc := some_inj_of_eq (sameUtc.vector? (k := 0) (by decide) (by decide)) utc utc'
  have htime := some_inj_of_eq (sameTime.word32? (k := 0) (by decide)) time time'
  rw [status, status, hmode, hspeed, hutc, htime]

theorem QT128.Tail.status_of_used {b c : Bytes} {i : Nat} {t t' : QT128.Tail}
    (read : read? b i = some t) (read' : read? c i = some t') (same : SameTail .qt128 b c i) :
    t.status = t'.status ∧ t.modeFlag = t'.modeFlag ∧ t.motorSpeed = t'.motorSpeed := by
  obtain ⟨flag, mode, speed, utc, time⟩ := fields_of_read? read
  obtain ⟨flag', mode', speed', utc', time'⟩ := fields_of_read? read'
  simp only [SameTail, Model.usedTail, List.forall_mem_cons] at same
  obtain ⟨sameFlag, sameMode, sameSpeed, sameUtc, sameTime, -⟩ := same
  have hflag := some_inj_of_eq (sameFlag.byte? (k := 0) (by decide)) flag flag'
  have hmode := some_inj_of_eq (sameMode.byte? (k := 0) (by decide)) mode mode'
  have hspeed := some_inj_of_eq (sameSpeed.word16? (k := 0) (by decide)) speed speed'
  have hutc := some_inj_of_eq (sameUtc.vector? (k := 0) (by decide) (by decide)) utc utc'
  have htime := some_inj_of_eq (sameTime.word32? (k := 0) (by decide)) time time'
  refine ⟨?_, hflag, hspeed⟩
  rw [status, status, hmode, hspeed, hutc, htime]

theorem AT128.Tail.status_of_used {b c : Bytes} {i : Nat} {t t' : AT128.Tail}
    (read : read? b i = some t) (read' : read? c i = some t') (same : SameTail .at128 b c i) :
    t.status = t'.status := by
  obtain ⟨speed, time, mode, utc⟩ := fields_of_read? read
  obtain ⟨speed', time', mode', utc'⟩ := fields_of_read? read'
  simp only [SameTail, Model.usedTail, List.forall_mem_cons] at same
  obtain ⟨sameSpeed, sameTime, sameMode, sameUtc, -⟩ := same
  have hspeed := some_inj_of_eq (sameSpeed.int16? (k := 0) (by decide)) speed speed'
  have htime := some_inj_of_eq (sameTime.word32? (k := 0) (by decide)) time time'
  have hmode := some_inj_of_eq (sameMode.byte? (k := 0) (by decide)) mode mode'
  have hutc := some_inj_of_eq (sameUtc.vector? (k := 0) (by decide) (by decide)) utc utc'
  rw [status, status, hmode, hspeed, hutc, htime]

namespace Family

variable {Tail Tables : Type} {f : Family Tail Tables} {s : State Tables} {b c : Bytes}
  {k : Correction Tail} {room : Nat}

/-- Two packets give decoding the same to work on: equal blocks, and corrections that treat them
alike. -/
structure SameInputs (f : Family Tail Tables) (tables : Tables) (b c : Bytes)
    (contents contents' : Contents Tail) : Prop where
  header : (Header.ofBytes b).SameUse (.ofBytes c)
  blocks : contents.blocks = contents'.blocks
  sequence : contents.sequence = contents'.sequence
  status : f.status contents.tail = f.status contents'.tail
  needed : ∀ k, f.correction? tables = some k → k.needed (.ofBytes b) = k.needed (.ofBytes c)
  aim : ∀ k, f.correction? tables = some k →
    k.aim (.ofBytes b) contents.tail = k.aim (.ofBytes c) contents'.tail

variable {contents contents' : Contents Tail}

/-- A correction that asks for the declared lasers alone, and aims a block whatever header and tail
say, has the same to work on if the blocks are equal. -/
theorem SameInputs.of_fixed {tables : Tables}
    (fixed : ∀ k, f.correction? tables = some k →
      k.needed = Header.laserCount ∧ ∀ h h' tail tail', k.aim h tail = k.aim h' tail')
    (header : (Header.ofBytes b).SameUse (.ofBytes c)) (blocks : contents.blocks = contents'.blocks)
    (sequence : contents.sequence = contents'.sequence)
    (status : f.status contents.tail = f.status contents'.tail) :
    f.SameInputs tables b c contents contents' := by
  refine ⟨header, blocks, sequence, status, fun k loaded => ?_, fun k loaded => ?_⟩
  · rw [(fixed k loaded).1]
    exact congrArg UInt8.toNat header.lasers
  · exact (fixed k loaded).2 ..

theorem madeOf_congr (same : f.SameInputs s.tables b c contents contents')
    (loaded : f.correction? s.tables = some k)
    (read : (f.format.packetOf b).contents? = some contents)
    (read' : (f.format.packetOf c).contents? = some contents') :
    f.madeOf (f.format.packetOf b) k = f.madeOf (f.format.packetOf c) k := by
  have scale : (Header.ofBytes b).distanceScale = (Header.ofBytes c).distanceScale := by
    rw [Header.distanceScale, Header.distanceScale, same.header.distanceUnit]
  have report (scan : Scan) : f.report (.ofBytes b) k contents scan =
      f.report (.ofBytes c) k contents' scan := by
    simp only [Family.report, same.status, same.sequence, Header.laserCount, same.header.lasers,
      same.header.blocks]
  have motion : f.motion contents.tail = f.motion contents'.tail := by
    rw [Family.motion, Family.motion, same.status]
  rw [madeOf, madeOf, read, read']
  simp only [Format.packetOf, Fault.unless, Option.elim, bind, Except.bind, scale, report, motion,
    same.blocks, same.aim k loaded]

theorem decode_congr_of_sameInputs (same : f.SameInputs s.tables b c contents contents')
    (parsed : f.format.parse b = .ok (f.format.packetOf b))
    (parsed' : f.format.parse c = .ok (f.format.packetOf c))
    (read : (f.format.packetOf b).contents? = some contents)
    (read' : (f.format.packetOf c).contents? = some contents') (out : Buffers) :
    f.decode s b out = f.decode s c out := by
  have made : f.made s.tables b out.room = f.made s.tables c out.room := by
    cases loaded : f.correction? s.tables with
    | none =>
      rw [Family.made, Family.made, admission, admission, parsed, parsed']
      dsimp only
      rw [loaded]
      rfl
    | some k =>
      have capacity : (Header.ofBytes b).capacity = (Header.ofBytes c).capacity := by
        simp only [Header.capacity, Header.laserCount, Header.blockCount, same.header.lasers,
          same.header.blocks]
      have tests (b : Bytes) (parsed : f.format.parse b = .ok (f.format.packetOf b)) :=
        admission_of_parsed (s := { f.initial with tables := s.tables }) parsed loaded out.room
      rw [Family.made, Family.made, tests b parsed, tests c parsed', same.needed k loaded, capacity]
      split
      · rfl
      · split
        · rfl
        · exact congrArg Except.ok (madeOf_congr same loaded read read')
  rw [decode_eq_made, decode_eq_made, made]

end Family

namespace Model

variable {m : Model} {b c : Bytes}

theorem sameUse_of_used (same : ∀ s ∈ m.used b, s.Agree b c) :
    (Header.ofBytes b).SameUse (.ofBytes c) := by
  simp only [used, List.forall_mem_append, List.forall_mem_cons] at same
  obtain ⟨⟨⟨⟨geometry, unit, flags, -⟩, -⟩, -⟩, -⟩ := same
  have peeked (i : Nat) (h : b.byte? i = c.byte? i) : b.peek i = c.peek i := by
    rw [Bytes.peek_eq_getD, Bytes.peek_eq_getD, h]
  refine ⟨peeked 6 ?_, peeked 7 ?_, peeked 9 ?_, congrArg Flags.mk (peeked 11 ?_)⟩
  · exact geometry 6 (by decide) (by decide)
  · exact geometry 7 (by decide) (by decide)
  · exact unit 9 (by decide) (by decide)
  · exact flags 11 (by decide) (by decide)

/-- What two packets have in common that agree on the bytes that decoding uses. -/
structure ReadAlike (m : Model) (b c : Bytes) (contents contents' : Contents m.Tail) : Prop where
  header : (Header.ofBytes b).SameUse (.ofBytes c)
  read : (m.format.packetOf b).contents? = some contents
  read' : (m.format.packetOf c).contents? = some contents'
  blocks : contents.blocks = contents'.blocks
  sequence : contents.sequence = contents'.sequence
  tails : ∃ i, m.format.readTail? b i = some contents.tail ∧
    m.format.readTail? c i = some contents'.tail ∧ SameTail m b c i

theorem exists_readAlike (complete : (m.format.packetOf b).Complete)
    (complete' : (m.format.packetOf c).Complete) (same : ∀ s ∈ m.used b, s.Agree b c) :
    ∃ contents contents', m.ReadAlike b c contents contents' := by
  have header := sameUse_of_used same
  have layout : (m.format.packetOf b).layout = (m.format.packetOf c).layout :=
    header.layout m.format
  simp only [used, List.forall_mem_append] at same
  obtain ⟨⟨⟨-, blocks⟩, tail⟩, sequence⟩ := same
  obtain ⟨contents, read⟩ := Option.isSome_iff_exists.1 (complete.contents?_isSome m.format_lawful)
  obtain ⟨contents', read'⟩ :=
    Option.isSome_iff_exists.1 (complete'.contents?_isSome m.format_lawful)
  obtain ⟨hblocks, htail, hsequence, -⟩ := Packet.contents?_eq_some_iff.1 read
  obtain ⟨hblocks', htail', hsequence', -⟩ := Packet.contents?_eq_some_iff.1 read'
  refine ⟨contents, contents', header, read, read', ?_, ?_, _, htail, ?_, ?_⟩
  · have format : (m.format.packetOf b).format = (m.format.packetOf c).format := rfl
    exact some_inj_of_eq (Packet.blocks?_of_used format layout blocks) hblocks hblocks'
  · have area : ∀ s ∈ (m.format.packetOf b).sequenceArea?, s.Agree b c :=
      fun s hs => sequence s (Option.mem_toList.2 hs)
    exact some_inj_of_eq (Packet.sequence?_congr layout area) hsequence hsequence'
  · rw [layout]
    exact htail'
  · intro s hs
    exact Span.agree_iff_matches.1 (tail _ (List.mem_map_of_mem hs))

end Model

theorem P128.sameInputs {tables : Option AngleCorrection} {b c : Bytes}
    {contents contents' : Contents Tail} (alike : Model.ReadAlike .p128 b c contents contents') :
    family.SameInputs tables b c contents contents' := by
  obtain ⟨i, tail, tail', same⟩ := alike.tails
  refine .of_fixed (fun k loaded => ?_) alike.header alike.blocks alike.sequence
    (Tail.status_of_used tail tail' same)
  obtain ⟨table, -, rfl⟩ := Option.map_eq_some_iff.1 loaded
  exact ⟨rfl, fun _ _ _ _ => rfl⟩

theorem QT128.sameInputs {tables : Tables} {b c : Bytes} {contents contents' : Contents Tail}
    (alike : Model.ReadAlike .qt128 b c contents contents') :
    family.SameInputs tables b c contents contents' := by
  obtain ⟨i, tail, tail', same⟩ := alike.tails
  obtain ⟨status, flag, speed⟩ := Tail.status_of_used tail tail' same
  have config : tables.configFor (.ofBytes b) = tables.configFor (.ofBytes c) := by
    rw [Tables.configFor, Tables.configFor, alike.header.flags]
  refine ⟨alike.header, alike.blocks, alike.sequence, status, ?_, ?_⟩
  · intro k loaded
    obtain ⟨table, -, rfl⟩ := Option.map_eq_some_iff.1 loaded
    show tables.needed _ = tables.needed _
    rw [Tables.needed, Tables.needed, config, Header.laserCount, Header.laserCount,
      alike.header.lasers]
  · intro k loaded
    obtain ⟨table, -, rfl⟩ := Option.map_eq_some_iff.1 loaded
    have mode : contents.tail.returnMode = contents'.tail.returnMode :=
      congrArg Status.returnMode status
    have loop : contents.tail.loopIndex = contents'.tail.loopIndex := by
      funext block
      rw [Tail.loopIndex, Tail.loopIndex, flag, mode]
    have direction : tables.direction table (.ofBytes b) contents.tail =
        tables.direction table (.ofBytes c) contents'.tail := by
      funext loop azimuth position
      rw [Tables.direction, Tables.direction, Tables.channel, Tables.channel, config, speed]
    simp only [Tables.correction, loop, direction]

theorem AT128.sameInputs {tables : Option SweepCalibration} {b c : Bytes}
    {contents contents' : Contents Tail} (alike : Model.ReadAlike .at128 b c contents contents') :
    family.SameInputs tables b c contents contents' := by
  obtain ⟨i, tail, tail', same⟩ := alike.tails
  refine .of_fixed (fun k loaded => ?_) alike.header alike.blocks alike.sequence
    (Tail.status_of_used tail tail' same)
  obtain ⟨table, -, rfl⟩ := Option.map_eq_some_iff.1 loaded
  exact ⟨rfl, fun _ _ _ _ => rfl⟩

namespace Decoder

/-- Packets that agree on the bytes that decoding uses are decoded alike by every decoder, whatever
else they hold and however long they are. -/
theorem decode_congr_of_used (d : Decoder) (b c : Bytes) (out : Buffers)
    (p q : Packet d.model.Tail) (parsed : d.model.format.parse b = .ok p)
    (parsed' : d.model.format.parse c = .ok q) (same : ∀ s ∈ d.model.used b, s.Agree b c) :
    d.decode b out = d.decode c out := by
  obtain rfl := Format.eq_packetOf parsed
  obtain rfl := Format.eq_packetOf parsed'
  obtain ⟨-, -, -, -, -, complete⟩ := Format.parse_eq_ok_iff.1 parsed
  obtain ⟨-, -, -, -, -, complete'⟩ := Format.parse_eq_ok_iff.1 parsed'
  obtain ⟨contents, contents', alike⟩ := Model.exists_readAlike complete complete' same
  cases d with
  | p128 s =>
    rw [decode, decode, Family.decode_congr_of_sameInputs (P128.sameInputs alike) parsed parsed'
      alike.read alike.read']
  | qt128 s =>
    rw [decode, decode, Family.decode_congr_of_sameInputs (QT128.sameInputs alike) parsed parsed'
      alike.read alike.read']
  | at128 s =>
    rw [decode, decode, Family.decode_congr_of_sameInputs (AT128.sameInputs alike) parsed parsed'
      alike.read alike.read']

/-- One block of one laser with all optional sections, and `n` bytes behind. The bytes that are not
used are `x`. -/
def paddedPacket (x : UInt8) (n : Nat) : Bytes :=
  #[0xEE, 0xFF, 1, 4, x, x, 1, 1, x, 4, x, 0x1F, 0x28, 0x23, 1, 0, 10, x] ++
    Array.replicate 33 x ++
    #[0x37, 0x58, 2, 124, 3, 1, 12, 30, 59, 1, 0, 0, 0, x, 7, 0, 0, 0] ++
    Array.replicate (58 + n) x

theorem decode_paddedPacket :
    let d := p128 { P128.family.initial with tables := some ⟨#[⟨1000, 50⟩]⟩ }
    (∃ report, (d.decode (paddedPacket 0 0) (.blank 1)).1 = .accepted report) ∧
      d.decode (paddedPacket 0 0) (.blank 1) = d.decode (paddedPacket 255 9) (.blank 1) := by
  intro d
  have passed : Test.complaint? (d.tests (paddedPacket 0 0) (Buffers.blank 1).room) = none := by
    decide +kernel
  have parsed (x : UInt8) (n : Nat)
      (whole : ∀ t ∈ P128.format.tests (paddedPacket x n), t.passed = true) :
      P128.format.parse (paddedPacket x n) = .ok (P128.format.packetOf (paddedPacket x n)) :=
    Format.parse_eq_ok_packetOf_iff.2 whole
  constructor
  · rcases decode_of_passed (show d.Sound from trivial) passed with ⟨-, accepts⟩ | ⟨unfit, -⟩
    · obtain ⟨report, splitter, motion, out', decoded, -⟩ := accepts
      exact ⟨report, by rw [decoded]⟩
    · exact absurd trivial unfit
  · exact decode_congr_of_used d _ _ _ _ _ (parsed 0 0 (by decide +kernel))
      (parsed 255 9 (by decide +kernel)) (by decide +kernel)

end Decoder

end Lidar
