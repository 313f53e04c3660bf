import Lidar.PointSource
import Lidar.Proofs.Decoder.Counts
import Lidar.Proofs.Decoder.Spinning
import Lidar.Proofs.Gathering
import Lidar.Source.Memory

namespace Lidar

theorem Buffers.take_zero (b : Buffers) : b.take 0 = .blank 0 := by
  simp [take, blank]

theorem Buffers.room_blank (n : Nat) : (blank n).room = n := by
  simp [room, blank]

namespace Decoder

variable {d : Decoder} {packet : Bytes} {a b out : Buffers}

/-- Decodes a packet into buffers that nothing was written to, as large as its header asks for. -/
def decodeFresh (d : Decoder) (packet : Bytes) : Verdict × Decoder × Buffers :=
  d.decode packet (.blank ((capacity packet).toOption.getD 0))

open PointSource (countOf)

theorem take_countOf_of_not_accepted (h : ∀ report, (d.decode packet a).1 ≠ .accepted report)
    (b : Buffers) : b.take (countOf (d.decode packet a).1) = .blank 0 := by
  cases verdict : (d.decode packet a).1 with
  | accepted report => exact absurd verdict (h report)
  | rejected reason => exact b.take_zero
  | aborted fault => exact b.take_zero

/-- Into buffers of any contents and any sizes that are large enough, a packet is decoded alike. -/
theorem decode_congr_room (roomy : (Header.ofBytes packet).capacity ≤ a.room)
    (roomy' : (Header.ofBytes packet).capacity ≤ b.room) :
    (d.decode packet a).1 = (d.decode packet b).1 ∧
      (d.decode packet a).2.1 = (d.decode packet b).2.1 ∧
      (d.decode packet a).2.2.take (countOf (d.decode packet a).1) =
        (d.decode packet b).2.2.take (countOf (d.decode packet b).1) := by
  have same : d.made packet a.room = d.made packet b.room := made_congr_room roomy roomy'
  obtain ⟨-, points, verdict⟩ := decode_of_same_made same
  have verdicts := verdict rfl
  refine ⟨verdicts, ?_, ?_⟩
  · rw [decode_eq_made, decode_eq_made, same]
    cases d.made packet b.room with
    | error reason => rfl
    | ok walked => cases walked <;> rfl
  · rw [← verdicts]
    cases decided : (d.decode packet a).1 with
    | accepted report => exact points report decided
    | rejected reason => exact (Buffers.take_zero _).trans (Buffers.take_zero _).symm
    | aborted fault => exact (Buffers.take_zero _).trans (Buffers.take_zero _).symm

/-- Decoding leaves the sizes of large enough buffers alone and counts no point outside. -/
theorem decode_inside (roomy : (Header.ofBytes packet).capacity ≤ out.room) :
    (d.decode packet out).2.2.cartesian.size = out.cartesian.size ∧
      (d.decode packet out).2.2.spherical.size = out.spherical.size ∧
      countOf (d.decode packet out).1 ≤ out.room := by
  cases read : d.made packet out.room with
  | error reason =>
    rw [decode_eq_rejected read]
    exact ⟨rfl, rfl, Nat.zero_le _⟩
  | ok walked =>
    cases walked with
    | error fault =>
      rw [decode_eq_aborted read]
      exact ⟨rfl, rfl, Nat.zero_le _⟩
    | ok made =>
      have fits : made.points.length ≤ out.room :=
        Nat.le_trans (length_points_of_made read).1 roomy
      obtain ⟨cartesian, spherical⟩ := Buffers.size_overwrite fits
      have count : made.report.pointCount = made.points.length := pointCount_of_made read
      rw [decode_eq_accepted read]
      exact ⟨cartesian, spherical, Nat.le_trans (Nat.le_of_eq count) fits⟩

theorem verdict_decodeFresh (d : Decoder) (packet : Bytes) :
    (d.decodeFresh packet).1 = (d.decode packet (.blank (Header.ofBytes packet).capacity)).1 := by
  cases header : capacity packet with
  | error reason => rw [decodeFresh, decode_of_headless header, decode_of_headless header]
  | ok n =>
    rw [decodeFresh, header, capacity_of_ok header]
    rfl

/-- What is known of every packet that is decoded into fresh buffers: it does not lack room, and if
it is accepted it gives no more points than its header declares. -/
structure FreshFits (d : Decoder) (packet : Bytes) : Prop where
  roomy : ∀ needed actual, (d.decodeFresh packet).1 ≠ .rejected (.outputTooSmall needed actual)
  within : ∀ report, (d.decodeFresh packet).1 = .accepted report →
    ∃ n, capacity packet = .ok n ∧ report.pointCount ≤ n ∧
      (d.model ≠ .at128 → report.pointCount = n)

theorem freshFits (d : Decoder) (packet : Bytes) : d.FreshFits packet := by
  have room : (Header.ofBytes packet).capacity ≤
      (Buffers.blank (Header.ofBytes packet).capacity).room :=
    Nat.le_of_eq (Buffers.room_blank _).symm
  constructor
  · intro needed actual small
    rw [verdict_decodeFresh] at small
    exact made_ne_outputTooSmall room needed actual (made_of_rejected small)
  · intro report accepted
    cases header : capacity packet with
    | error reason =>
      rw [decodeFresh, decode_of_headless header] at accepted
      cases accepted
    | ok n =>
      rw [verdict_decodeFresh] at accepted
      obtain ⟨made, read, rfl⟩ := made_of_accepted accepted
      have count : made.report.pointCount = made.points.length := pointCount_of_made read
      obtain ⟨most, all⟩ := length_points_of_made read
      rw [← capacity_of_ok header, ← count] at most all
      exact ⟨n, rfl, most, all⟩

end Decoder

namespace PointSource

/-- What can happen to a point source: a call for the next packet, or any change of its decoder
between two calls. -/
inductive Action where
  | next
  | edit (change : Decoder → Decoder)

section Process

variable {σ : Type} {p : PointSource σ}

/-- The buffers are of one size, and the points that are shown stand in them. -/
structure Sized (p : PointSource σ) : Prop where
  even : p.buffers.cartesian.size = p.buffers.spherical.size
  covers : p.count ≤ p.buffers.cartesian.size

theorem Sized.cleared (sized : p.Sized) (source : σ) :
    PointSource.Sized { p with source, count := 0 } :=
  ⟨sized.even, Nat.zero_le _⟩

/-- What a call does with a packet: it answers, moves on and shows what decoding into fresh buffers
would have given. -/
structure AsFresh (p : PointSource σ) (packet : Bytes) (verdict : Verdict) (q : PointSource σ) :
    Prop where
  verdict : verdict = (p.decoder.decodeFresh packet).1
  decoder : q.decoder = (p.decoder.decodeFresh packet).2.1
  points : q.points = (p.decoder.decodeFresh packet).2.2.take
    (countOf (p.decoder.decodeFresh packet).1)

theorem process_asFresh (sized : p.Sized) (packet : Bytes) :
    p.AsFresh packet (p.process packet).1 (p.process packet).2 ∧ (p.process packet).2.Sized := by
  cases header : Decoder.capacity packet with
  | error reason =>
    have processed : p.process packet = (.rejected reason, { p with count := 0 }) := by
      rw [process, header]
    have refused : p.decoder.decodeFresh packet = (.rejected reason, p.decoder, _) :=
      Decoder.decode_of_headless header _
    rw [processed]
    refine ⟨⟨?_, ?_, ?_⟩, sized.even, Nat.zero_le _⟩
    · rw [refused]
    · rw [refused]
    · rw [refused]
      exact (Buffers.take_zero _).trans (Buffers.take_zero _).symm
  | ok n =>
    obtain rfl := Decoder.capacity_of_ok header
    obtain ⟨even, roomy⟩ := size_grow p.buffers (Header.ofBytes packet).capacity sized.even
    generalize grown : grow p.buffers (Header.ofBytes packet).capacity = out at even roomy
    have processed : p.process packet = ((p.decoder.decode packet out).1,
        { p with
          decoder := (p.decoder.decode packet out).2.1
          buffers := (p.decoder.decode packet out).2.2
          count := countOf (p.decoder.decode packet out).1 }) := by
      rw [process, header, ← grown]
    have fresh : p.decoder.decodeFresh packet =
        p.decoder.decode packet (.blank (Header.ofBytes packet).capacity) := by
      rw [Decoder.decodeFresh, header]
      rfl
    obtain ⟨verdicts, decoders, points⟩ := Decoder.decode_congr_room (d := p.decoder) roomy
      (Nat.le_of_eq (Buffers.room_blank _).symm)
    obtain ⟨cartesian, spherical, covers⟩ := Decoder.decode_inside (d := p.decoder) roomy
    rw [processed]
    refine ⟨⟨?_, ?_, ?_⟩, ?_, ?_⟩
    · rw [fresh]
      exact verdicts
    · rw [fresh]
      exact decoders
    · rw [fresh]
      exact points
    · exact cartesian.trans (even.trans spherical.symm)
    · rw [Buffers.room, ← even, Nat.min_self] at covers
      exact Nat.le_trans covers (Nat.le_of_eq cartesian.symm)

end Process

section Calls

variable {σ : Type} [PacketSource σ] {p : PointSource σ}

def act (p : PointSource σ) : Action → PointSource σ
  | .next => p.next.2
  | .edit change => { p with decoder := change p.decoder }

/-- A call hands the packet it gets to the decoder, or gets none and shows no points. -/
theorem next_cases (p : PointSource σ) :
    (∃ sender payload source, (PacketSource.next p.source).1 = .packet sender payload ∧
      p.next = (.packet sender (PointSource.process { p with source, count := 0 } payload).1,
        (PointSource.process { p with source, count := 0 } payload).2)) ∨
    (∀ sender payload, (PacketSource.next p.source).1 ≠ .packet sender payload) ∧
      ∃ source, p.next.2 = { p with source, count := 0 } := by
  rw [next]
  rcases PacketSource.next p.source with ⟨pull, source⟩
  cases pull with
  | packet sender payload => exact .inl ⟨sender, payload, source, rfl, rfl⟩
  | exhausted | failed | aborted =>
    refine .inr ⟨?_, source, rfl⟩
    intro sender payload packet
    cases packet

theorem Sized.next (sized : p.Sized) : p.next.2.Sized := by
  rcases next_cases p with ⟨sender, payload, source, -, called⟩ | ⟨-, source, there⟩
  · rw [called]
    exact (process_asFresh (sized.cleared source) payload).2
  · rw [there]
    exact sized.cleared source

theorem Sized.act (sized : p.Sized) (action : Action) : (p.act action).Sized := by
  cases action with
  | next => exact sized.next
  | edit change => exact ⟨sized.even, sized.covers⟩

theorem Sized.run (sized : p.Sized) (actions : List Action) :
    (actions.foldl PointSource.act p).Sized := by
  induction actions generalizing p with
  | nil => exact sized
  | cons action actions ih => exact ih (sized.act action)

/-- What the next call does, by what the packet source has to give. -/
structure ServesFresh (p : PointSource σ) : Prop where
  packet : ∀ sender payload, (PacketSource.next p.source).1 = .packet sender payload →
    ∃ verdict, p.next.1 = .packet sender verdict ∧ p.AsFresh payload verdict p.next.2 ∧
      p.decoder.FreshFits payload
  refused : (∀ sender report, p.next.1 ≠ .packet sender (.accepted report)) →
    p.next.2.points = .blank 0

theorem servesFresh (sized : p.Sized) : p.ServesFresh := by
  rcases next_cases p with ⟨sender, payload, source, pulled, called⟩ | ⟨none, source, there⟩
  · obtain ⟨verdict, decoder, points⟩ := (process_asFresh (sized.cleared source) payload).1
    constructor
    · intro sender' payload' pulled'
      obtain ⟨rfl, rfl⟩ := Pull.packet.inj (pulled.symm.trans pulled')
      rw [called]
      exact ⟨_, rfl, ⟨verdict, decoder, points⟩, p.decoder.freshFits payload⟩
    · intro refused
      rw [called] at refused ⊢
      rw [points]
      apply Decoder.take_countOf_of_not_accepted
      intro report accepted
      exact refused sender report (congrArg (Step.packet sender) (verdict.trans accepted))
  · constructor
    · intro sender payload pulled
      exact absurd pulled (none sender payload)
    · intro refused
      rw [there]
      exact Buffers.take_zero _

/-- Whatever was called and however the decoder was changed in between, the two buffers are of one
size and hold the points that are shown, and the next call answers and shows just what decoding its
packet into fresh buffers of the declared size would give. -/
theorem reuse_is_invisible (source : σ) (decoder : Decoder) (actions : List Action) :
    let p := actions.foldl act (ofSource source decoder)
    p.Sized ∧ p.ServesFresh := by
  intro p
  have start : (ofSource source decoder).Sized := ⟨rfl, Nat.le_refl 0⟩
  have sized : p.Sized := start.run actions
  exact ⟨sized, servesFresh sized⟩

end Calls

/-- A decoder with one laser, and a packet with one return, which is followed by a stray byte. -/
def shortScript : PointSource Script :=
  ofSource ⟨[.packet defaultSender Decoder.onesPacket, .packet defaultSender #[0]]⟩
    ((Decoder.ofModel .qt128).after [.loadCalibration Decoder.oneLaser])

theorem accepted_onesPacket :
    ∃ report, (shortScript.decoder.decodeFresh Decoder.onesPacket).1 = .accepted report ∧
      report.pointCount = 1 := by
  let t : QT128.Tables := { calibration := some ⟨#[⟨0, 0⟩]⟩ }
  have decoder : shortScript.decoder = .qt128 { QT128.family.initial with tables := t } :=
    Decoder.parts_injective (Decoder.parts_of_oneLaser (m := .qt128) (by decide))
  have parsed := (Format.parse_of_opens (f := QT128.format) (b := Decoder.onesPacket)
    ⟨by decide, rfl, rfl, rfl, rfl⟩).trans (if_pos (by decide))
  have worded : AngleCorrection.Worded ⟨#[⟨0, 0⟩]⟩ := by
    intro d hd
    obtain rfl := List.mem_singleton.1 (Array.mem_def.1 hd)
    exact ⟨rfl, rfl⟩
  have unused : t.Unused (.ofBytes Decoder.onesPacket) := ⟨.inl rfl, .inl rfl⟩
  have plain := unused.plain_correction worded
  have roomy : (Header.ofBytes Decoder.onesPacket).capacity ≤ (Buffers.blank 1).room := by decide
  obtain ⟨contents, scan, -, -, decoded⟩ := Family.decode_of_covered
    (f := QT128.family) (s := { QT128.family.initial with tables := t })
    (p := QT128.format.packetOf Decoder.onesPacket) QT128.format_lawful parsed rfl plain roomy
    (by decide)
  have header : Decoder.capacity Decoder.onesPacket = .ok 1 := rfl
  obtain ⟨report, accepted⟩ :
      ∃ report, (shortScript.decoder.decodeFresh Decoder.onesPacket).1 = .accepted report := by
    rw [decoder, Decoder.decodeFresh, header]
    exact ⟨_, congrArg Prod.fst (Decoder.decode_qt128 decoded)⟩
  obtain ⟨n, declared, -, all⟩ := (shortScript.decoder.freshFits _).within _ accepted
  obtain rfl := Except.ok.inj (header.symm.trans declared)
  exact ⟨report, accepted, all (by rw [decoder]; decide)⟩

theorem reuse_is_invisible_in_shortScript :
    (∃ report, shortScript.next.1 = .packet defaultSender (.accepted report) ∧
      report.pointCount = 1 ∧ shortScript.next.2.points =
        (shortScript.decoder.decodeFresh Decoder.onesPacket).2.2.take 1) ∧
    shortScript.next.2.next.2.points = .blank 0 := by
  obtain ⟨report, accepted, count⟩ := accepted_onesPacket
  have first : shortScript.ServesFresh :=
    (reuse_is_invisible shortScript.source shortScript.decoder []).2
  have second : shortScript.next.2.ServesFresh :=
    (reuse_is_invisible shortScript.source shortScript.decoder [.next]).2
  constructor
  · obtain ⟨verdict, answered, fresh, -⟩ := first.packet _ _ rfl
    have same : verdict = .accepted report := fresh.verdict.trans accepted
    refine ⟨report, by rw [← same]; exact answered, count, ?_⟩
    rw [← count]
    exact fresh.points.trans (by rw [accepted]; rfl)
  · have behind : (PacketSource.next shortScript.next.2.source).1 =
        .packet defaultSender #[0] := by
      rw [next_source]
      rfl
    obtain ⟨verdict, -, fresh, -⟩ := second.packet _ _ behind
    have header : Decoder.capacity #[0] = .error (.truncated 12 1) := rfl
    have refused : shortScript.next.2.decoder.decodeFresh #[0] = (.rejected _, _, _) :=
      Decoder.decode_of_headless header _
    exact fresh.points.trans (by rw [refused]; exact Buffers.take_zero _)

end PointSource

end Lidar
