import Lidar.Capture.Udp
import Mathlib.Tactic.SplitIfs

namespace Lidar.Capture

/-- A datagram stands in a frame, its Internet header at `ip` and its UDP header at `udp`, where
`length` counts the bytes of the UDP header and the payload. -/
structure Carries (frame : Bytes) (ip udp : Nat) (length : UInt16) (sender : IPv4)
    (port : UInt16) : Prop where
  type : frame.bigEndian16? 12 = some Ethernet.typeIPv4 ∧ ip = 14 ∨
    frame.bigEndian16? 12 = some Ethernet.typeVlan ∧
      frame.bigEndian16? 16 = some Ethernet.typeIPv4 ∧ ip = 18
  whole : ip + shortestInternetHeader ≤ frame.size
  first : ∃ first, frame[ip]? = some first ∧ first >>> 4 = 4 ∧
    udp = ip + (first &&& 0x0F).toNat * 4
  protocol : frame[ip + 9]? = some protocolUdp
  source : frame[ip + 12]? = some sender.a ∧ frame[ip + 13]? = some sender.b ∧
    frame[ip + 14]? = some sender.c ∧ frame[ip + 15]? = some sender.d
  sourcePort : frame.bigEndian16? udp = some port
  stated : frame.bigEndian16? (udp + 4) = some length
  room : udp + udpHeaderSize ≤ frame.size
  long : udpHeaderSize ≤ length.toNat
  fits : udp + length.toNat ≤ frame.size

variable {frame : Bytes} {ip udp : Nat}

theorem internet?_eq_some_iff :
    Ethernet.internet? frame = some ip ↔
      frame.bigEndian16? 12 = some Ethernet.typeIPv4 ∧ ip = 14 ∨
        frame.bigEndian16? 12 = some Ethernet.typeVlan ∧
          frame.bigEndian16? 16 = some Ethernet.typeIPv4 ∧ ip = 18 := by
  have inner : Ethernet.headerSize + 2 = 16 := rfl
  have distinct : Ethernet.typeVlan ≠ Ethernet.typeIPv4 := by decide
  rw [Ethernet.internet?, inner]
  cases outer : frame.bigEndian16? 12 with
  | none => simp
  | some type =>
    simp only [Option.bind_eq_bind, Option.bind_some, Option.some.injEq]
    split_ifs with vlan plain
    · subst vlan
      simp only [Option.bind_eq_some_iff, distinct, false_and, true_and, false_or]
      constructor
      · intro given
        obtain ⟨type, found, same⟩ := given
        split_ifs at same with plain
        cases same
        exact ⟨plain ▸ found, rfl⟩
      · intro given
        obtain ⟨found, rfl⟩ := given
        exact ⟨_, found, rfl⟩
    · simp [plain, distinct.symm, Ethernet.headerSize, eq_comm]
    · simp [plain, vlan]

theorem sender?_eq_some_iff {a : Address} :
    sender? frame ip udp = some a ↔ ∃ s port, a = .v4 s port ∧
      (frame[ip + 12]? = some s.a ∧ frame[ip + 13]? = some s.b ∧
        frame[ip + 14]? = some s.c ∧ frame[ip + 15]? = some s.d) ∧
      frame.bigEndian16? udp = some port := by
  simp only [sender?, Bytes.byte?, Option.bind_eq_bind, Option.bind_eq_some_iff, Option.pure_def,
    Option.some.injEq]
  constructor
  · intro found
    obtain ⟨a, ha, b, hb, c, hc, d, hd, port, hp, rfl⟩ := found
    exact ⟨⟨a, b, c, d⟩, port, rfl, ⟨ha, hb, hc, hd⟩, hp⟩
  · intro found
    obtain ⟨s, port, rfl, ⟨ha, hb, hc, hd⟩, hp⟩ := found
    exact ⟨s.a, ha, s.b, hb, s.c, hc, s.d, hd, port, hp, rfl⟩

theorem udp?_eq_some_iff :
    udp? frame ip = some udp ↔
      ip + shortestInternetHeader ≤ frame.size ∧ ∃ first, frame[ip]? = some first ∧
        first >>> 4 = 4 ∧ frame[ip + 9]? = some protocolUdp ∧
        udp = ip + (first &&& 0x0F).toNat * 4 ∧ udp + udpHeaderSize ≤ frame.size := by
  rw [udp?]
  split_ifs with short
  · simp [Nat.not_le.2 short]
  · rw [Nat.not_lt] at short
    simp only [Bytes.byte?, Option.bind_eq_bind, Option.bind_eq_some_iff, short, true_and]
    constructor
    · intro given
      obtain ⟨first, hf, protocol, hp, found⟩ := given
      split_ifs at found with refused
      obtain ⟨version, rfl, fits⟩ := by
        simpa only [not_or, Decidable.not_not, Nat.not_lt] using refused
      cases found
      exact ⟨first, hf, version, hp, rfl, fits⟩
    · intro found
      obtain ⟨first, hf, version, hp, rfl, fits⟩ := found
      refine ⟨first, hf, protocolUdp, hp, ?_⟩
      rw [if_neg (by simp only [version, ne_eq, not_true, false_or]; omega)]

theorem payload?_eq_some_iff {range : Nat × Nat} :
    payload? frame udp = some range ↔
      ∃ length, frame.bigEndian16? (udp + 4) = some length ∧ udpHeaderSize ≤ length.toNat ∧
        udp + length.toNat ≤ frame.size ∧
        range = (udp + udpHeaderSize, length.toNat - udpHeaderSize) := by
  simp only [payload?, Option.bind_eq_bind, Option.bind_eq_some_iff]
  apply exists_congr
  intro length
  split_ifs with refused
  · simp only [false_iff, and_false, not_and]
    omega
  · simp only [Option.some.injEq, eq_comm (b := range)]
    have : udpHeaderSize ≤ length.toNat ∧ udp + length.toNat ≤ frame.size := by omega
    simp [this]

theorem datagram?_eq_some_iff {d : Datagram} :
    datagram? frame = some d ↔
      ∃ ip udp, Ethernet.internet? frame = some ip ∧ udp? frame ip = some udp ∧
        sender? frame ip udp = some d.sender ∧ payload? frame udp = some (d.start, d.length) := by
  obtain ⟨sender, start, length⟩ := d
  simp only [datagram?, Option.bind_eq_bind, Option.bind_eq_some_iff, Option.pure_def,
    Option.some.injEq, Datagram.mk.injEq, Prod.exists]
  constructor
  · intro found
    obtain ⟨ip, hi, udp, hu, _, hs, _, _, hp, rfl, rfl, rfl⟩ := found
    exact ⟨ip, udp, hi, hu, hs, hp⟩
  · intro found
    obtain ⟨ip, udp, hi, hu, hs, hp⟩ := found
    exact ⟨ip, hi, udp, hu, sender, hs, start, length, hp, rfl, rfl, rfl⟩

theorem datagram?_eq_some_iff_carries {d : Datagram} :
    datagram? frame = some d ↔ ∃ ip udp length sender port,
      Carries frame ip udp length sender port ∧
        d = ⟨.v4 sender port, udp + udpHeaderSize, length.toNat - udpHeaderSize⟩ := by
  obtain ⟨address, start, size⟩ := d
  simp only [datagram?_eq_some_iff, internet?_eq_some_iff, udp?_eq_some_iff, sender?_eq_some_iff,
    payload?_eq_some_iff]
  constructor
  · intro found
    obtain ⟨ip, udp, type, ⟨whole, first, hf, version, protocol, rfl, room⟩,
      ⟨s, port, rfl, sender, hp⟩, length, hl, long, fits, range⟩ := found
    cases range
    exact ⟨ip, _, length, s, port, ⟨type, whole, ⟨first, hf, version, rfl⟩, protocol, sender, hp,
      hl, room, long, fits⟩, rfl⟩
  · intro found
    obtain ⟨ip, udp, length, s, port, carried, same⟩ := found
    cases same
    obtain ⟨first, hf, version, place⟩ := carried.first
    exact ⟨ip, udp, carried.type,
      ⟨carried.whole, first, hf, version, carried.protocol, place, carried.room⟩,
      ⟨s, port, rfl, carried.source, carried.sourcePort⟩,
      length, carried.stated, carried.long, carried.fits, rfl⟩

theorem datagram?_inside {d : Datagram} (h : datagram? frame = some d) :
    d.start + d.length ≤ frame.size := by
  obtain ⟨ip, udp, -, -, -, found⟩ := datagram?_eq_some_iff.1 h
  obtain ⟨length, -, long, fits, range⟩ := payload?_eq_some_iff.1 found
  obtain ⟨hs, hl⟩ := Prod.mk.inj range
  omega

end Lidar.Capture
