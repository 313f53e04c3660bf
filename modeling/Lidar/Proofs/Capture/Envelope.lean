import Lidar.Proofs.Bytes
import Lidar.Proofs.Capture.Datagram

namespace Lidar.Capture

/-- What may vary around a payload without a reader noticing. -/
structure Envelope where
  stations : Vector UInt8 12
  tag : Option (Vector UInt8 2)
  service : Vector UInt8 8
  headerSum : Vector UInt8 2
  target : Vector UInt8 4
  /-- Words of options, at most ten: the length of the Internet header has four bits. -/
  optionWords : Fin 11
  options : Vector UInt8 (4 * optionWords)
  targetPort : Vector UInt8 2
  payloadSum : Vector UInt8 2
  padding : Bytes

namespace Envelope

def vlan : Option (Vector UInt8 2) → Bytes
  | none => #[]
  | some t => Bytes.ofBigEndian16 Ethernet.typeVlan ++ t.toArray

def ethernet (e : Envelope) : Bytes :=
  e.stations.toArray ++ vlan e.tag ++ Bytes.ofBigEndian16 Ethernet.typeIPv4

/-- Version 4 and the length of the header in words. -/
def firstByte (e : Envelope) : UInt8 := 0x45 + UInt8.ofNat e.optionWords

def internet (e : Envelope) (sender : IPv4) : Bytes :=
  #[e.firstByte] ++ e.service.toArray ++ #[protocolUdp] ++ e.headerSum.toArray ++
    #[sender.a] ++ #[sender.b] ++ #[sender.c] ++ #[sender.d] ++ e.target.toArray ++
    e.options.toArray

def udp (e : Envelope) (port : UInt16) (payload : Bytes) : Bytes :=
  Bytes.ofBigEndian16 port ++ e.targetPort.toArray ++
    Bytes.ofBigEndian16 (UInt16.ofNat (udpHeaderSize + payload.size)) ++ e.payloadSum.toArray ++
    payload

/-- The frame with the payload in it. -/
def frame (e : Envelope) (sender : IPv4) (port : UInt16) (payload : Bytes) : Bytes :=
  e.ethernet ++ e.internet sender ++ e.udp port payload ++ e.padding

variable (e : Envelope) (sender : IPv4) (port : UInt16) (payload : Bytes)

theorem firstByte_version : e.firstByte >>> 4 = 4 := by
  have all : ∀ n : Fin 11, (0x45 + UInt8.ofNat n : UInt8) >>> 4 = 4 := by decide
  exact all e.optionWords

theorem firstByte_words : (e.firstByte &&& 0x0F).toNat = 5 + e.optionWords := by
  have all : ∀ n : Fin 11, ((0x45 + UInt8.ofNat n : UInt8) &&& 0x0F).toNat = 5 + n := by decide
  exact all e.optionWords

theorem size_internet : (e.internet sender).size = 20 + 4 * e.optionWords := by
  simp only [internet, Array.size_append, Vector.size_toArray, List.size_toArray,
    List.length_singleton]

theorem size_udp : (e.udp port payload).size = udpHeaderSize + payload.size := by
  simp only [udp, Array.size_append, Vector.size_toArray, Bytes.size_ofBigEndian16, udpHeaderSize]

section Reading

variable {e sender port payload} {b : Bytes} {i : Nat}

/-- One type in front of the Internet header, or the mark of a tag and the type behind it. -/
theorem type_of_holds (h : b.Holds 0 e.ethernet) :
    b.bigEndian16? 12 = some Ethernet.typeIPv4 ∧ e.ethernet.size = 14 ∨
      b.bigEndian16? 12 = some Ethernet.typeVlan ∧
        b.bigEndian16? 16 = some Ethernet.typeIPv4 ∧ e.ethernet.size = 18 := by
  obtain ⟨front, type⟩ := Bytes.holds_append.1 h
  obtain ⟨-, tag⟩ := Bytes.holds_append.1 front
  rw [Array.size_append, Vector.size_toArray, Nat.zero_add] at type
  rw [Vector.size_toArray, Nat.zero_add] at tag
  cases plain : e.tag with
  | none =>
    left
    rw [plain] at type
    have size : e.ethernet.size = 14 := by simp [ethernet, plain, vlan]
    exact ⟨type.bigEndian16?, size⟩
  | some t =>
    right
    rw [plain] at type tag
    have outer : b.bigEndian16? 12 = some Ethernet.typeVlan :=
      (Bytes.holds_append.1 tag).1.bigEndian16?
    have inner : b.bigEndian16? 16 = some Ethernet.typeIPv4 := by
      simpa [vlan] using type.bigEndian16?
    have size : e.ethernet.size = 18 := by simp [ethernet, plain, vlan]
    exact ⟨outer, inner, size⟩

theorem internet_of_holds (h : b.Holds i (e.internet sender)) :
    (∃ first, b[i]? = some first ∧ first >>> 4 = 4 ∧
        i + (e.internet sender).size = i + (first &&& 0x0F).toNat * 4) ∧
      b[i + 9]? = some protocolUdp ∧ b[i + 12]? = some sender.a ∧ b[i + 13]? = some sender.b ∧
      b[i + 14]? = some sender.c ∧ b[i + 15]? = some sender.d := by
  have words : i + (e.internet sender).size = i + (e.firstByte &&& 0x0F).toNat * 4 := by
    rw [e.size_internet, e.firstByte_words]
    omega
  simp only [internet, Bytes.holds_append, Vector.size_toArray, Array.size_append, and_assoc] at h
  obtain ⟨first, -, protocol, -, a, b, c, d, -, -⟩ := h
  exact ⟨⟨e.firstByte, first.byte?, e.firstByte_version, words⟩, protocol.byte?, a.byte?, b.byte?,
    c.byte?, d.byte?⟩

theorem udp_of_holds (h : b.Holds i (e.udp port payload)) :
    b.bigEndian16? i = some port ∧
      b.bigEndian16? (i + 4) = some (UInt16.ofNat (udpHeaderSize + payload.size)) ∧
      b.Holds (i + udpHeaderSize) payload := by
  simp only [udp, Bytes.holds_append, Vector.size_toArray, Array.size_append,
    Bytes.size_ofBigEndian16, and_assoc] at h
  obtain ⟨port, -, length, -, payload⟩ := h
  exact ⟨port.bigEndian16?, length.bigEndian16?, payload⟩

end Reading

/-- The datagram in a written frame is the one put into it. -/
theorem datagram?_frame (fits : payload.size < 65528) :
    ∃ start, datagram? (e.frame sender port payload) =
        some ⟨.v4 sender port, start, payload.size⟩ ∧
      (e.frame sender port payload).extract start (start + payload.size) = payload := by
  obtain ⟨whole, -⟩ := Bytes.holds_append.1 (Bytes.holds_self (e.frame sender port payload))
  obtain ⟨headers, udp⟩ := Bytes.holds_append.1 whole
  obtain ⟨ethernet, internet⟩ := Bytes.holds_append.1 headers
  rw [Array.size_append, Nat.zero_add] at udp
  rw [Nat.zero_add] at internet
  have inside := udp.size_le (by rw [size_udp, udpHeaderSize]; omega)
  rw [size_udp] at inside
  have header := e.size_internet sender
  have length :
      (UInt16.ofNat (udpHeaderSize + payload.size)).toNat = udpHeaderSize + payload.size :=
    UInt16.toNat_ofNat_of_lt (by rw [udpHeaderSize]; show _ < 65536; omega)
  obtain ⟨first, protocol, source⟩ := internet_of_holds internet
  obtain ⟨sourcePort, stated, placed⟩ := udp_of_holds udp
  have carried : Carries (e.frame sender port payload) e.ethernet.size
      (e.ethernet.size + (e.internet sender).size) (UInt16.ofNat (udpHeaderSize + payload.size))
      sender port :=
    { type := type_of_holds ethernet
      whole := by rw [shortestInternetHeader]; omega
      first, protocol, source, sourcePort, stated
      room := by omega
      long := by rw [length]; exact Nat.le_add_right _ _
      fits := by rw [length]; exact inside }
  refine ⟨e.ethernet.size + (e.internet sender).size + udpHeaderSize, ?_, placed.extract⟩
  refine datagram?_eq_some_iff_carries.2 ⟨_, _, _, _, _, carried, ?_⟩
  rw [length, Nat.add_sub_cancel_left]

end Envelope

end Lidar.Capture
