import Lidar.Proofs.Capture.Datagram
import Lidar.Proofs.Except
import Lidar.Proofs.Excess
import Mathlib.Tactic.Tauto

namespace Lidar.Capture

def Ethernet.internetChecked (frame : Bytes) : Except Excess (Option Nat) :=
  if frame.size < headerSize then .ok none
  else do
    let type ← frame.bigEndian16At 12
    if type = typeVlan then
      let behind ← fitAddress (headerSize + tagSize)
      if frame.size < behind then return none
      else
        let inner ← frame.bigEndian16At (headerSize + 2)
        return if inner = typeIPv4 then some behind else none
    else return if type = typeIPv4 then some headerSize else none

def udpChecked (frame : Bytes) (ip : Nat) : Except Excess (Option Nat) := do
  let whole ← fitAddress (ip + shortestInternetHeader)
  if frame.size < whole then return none
  else
    let packet ← frame.slice ip frame.size
    let first ← packet.byteAt 0
    let protocol ← packet.byteAt 9
    if first >>> 4 ≠ 4 ∨ protocol ≠ protocolUdp then return none
    else
      let length ← fitAddress ((first &&& 0x0F).toNat * 4)
      let udp ← fitAddress (ip + length)
      let stop ← fitAddress (udp + udpHeaderSize)
      return if frame.size < stop then none else some udp

def senderChecked (frame : Bytes) (ip udp : Nat) : Except Excess Address := do
  let packet ← frame.slice ip frame.size
  let sender : IPv4 :=
    ⟨← packet.byteAt 12, ← packet.byteAt 13, ← packet.byteAt 14, ← packet.byteAt 15⟩
  return .v4 sender (← frame.bigEndian16At udp)

def payloadChecked (frame : Bytes) (udp : Nat) : Except Excess (Option (Nat × Nat)) := do
  let place ← fitAddress (udp + 4)
  let length := (← frame.bigEndian16At place).toNat
  let stop ← fitAddress (udp + length)
  if length < udpHeaderSize ∨ frame.size < stop then return none
  else return some (← fitAddress (udp + udpHeaderSize), length - udpHeaderSize)

def datagramChecked (frame : Bytes) : Except Excess (Option Datagram) := do
  match ← Ethernet.internetChecked frame with
  | none => return none
  | some ip =>
    match ← udpChecked frame ip with
    | none => return none
    | some udp =>
      let sender ← senderChecked frame ip udp
      match ← payloadChecked frame udp with
      | none => return none
      | some (start, length) => return some { sender, start, length }

section Frame

variable {frame : Bytes} {ip udp : Nat}

theorem internetChecked_eq (frame : Bytes) :
    Ethernet.internetChecked frame = .ok (Ethernet.internet? frame) := by
  have inner : Ethernet.headerSize + 2 = 16 := rfl
  rw [Ethernet.internetChecked, Ethernet.internet?, inner]
  rcases Nat.lt_or_ge frame.size Ethernet.headerSize with short | headed
  · have outside : frame.bigEndian16? 12 = none := by
      rw [← Option.not_isSome_iff_eq_none, Bytes.bigEndian16?_isSome]
      rw [Ethernet.headerSize] at short
      omega
    rw [if_pos short, outside]
    rfl
  · have inside : (frame.bigEndian16? 12).isSome := Bytes.bigEndian16?_isSome.2 headed
    obtain ⟨type, there⟩ := Option.isSome_iff_exists.1 inside
    rw [if_neg (Nat.not_lt.2 headed), Bytes.bigEndian16At_of_some there, there]
    simp only [ok_bind, Option.bind_eq_bind, Option.bind_some]
    split_ifs with tagged
    · rw [fitAddress_of_lt (by decide), ok_bind]
      rcases Nat.lt_or_ge frame.size (Ethernet.headerSize + Ethernet.tagSize) with short | whole
      · have outside : frame.bigEndian16? 16 = none := by
          rw [← Option.not_isSome_iff_eq_none, Bytes.bigEndian16?_isSome]
          rw [Ethernet.headerSize, Ethernet.tagSize] at short
          omega
        rw [if_pos short, outside]
        rfl
      · obtain ⟨type', there'⟩ := Option.isSome_iff_exists.1
          (Bytes.bigEndian16?_isSome (i := 16).2 whole)
        rw [if_neg (Nat.not_lt.2 whole), Bytes.bigEndian16At_of_some there', there']
        rfl
    all_goals rfl

theorem internet?_le (h : Ethernet.internet? frame = some ip) : ip ≤ 18 := by
  rcases internet?_eq_some_iff.1 h with ⟨-, rfl⟩ | ⟨-, -, rfl⟩ <;> omega

theorem words_le (first : UInt8) : (first &&& 0x0F).toNat * 4 ≤ 60 := by
  have nibble : (first &&& 0x0F).toNat ≤ 15 := by
    rw [UInt8.toNat_and]
    exact Nat.and_le_right
  omega

theorem udpChecked_eq (small : ip ≤ 18) : udpChecked frame ip = .ok (udp? frame ip) := by
  have address : UInt64.size = 18446744073709551616 := rfl
  rw [udpChecked, udp?]
  rw [fitAddress_of_lt (by rw [shortestInternetHeader]; omega), ok_bind]
  rcases Nat.lt_or_ge frame.size (ip + shortestInternetHeader) with short | whole
  · rw [if_pos short, if_pos short]
    rfl
  · rw [shortestInternetHeader] at whole
    have first := getElem?_pos frame ip (by omega)
    have protocol := getElem?_pos frame (ip + 9) (by omega)
    have words := words_le frame[ip]
    have place : ip + (frame[ip] &&& 0x0F).toNat * 4 + udpHeaderSize < UInt64.size := by
      rw [udpHeaderSize]
      omega
    rw [if_neg (by rw [shortestInternetHeader]; omega),
      if_neg (by rw [shortestInternetHeader]; omega),
      Bytes.slice_of_le (by omega) (Nat.le_refl _), ok_bind,
      Bytes.byteAt_of_some ((frame.getElem?_behind ip 0).trans first), ok_bind,
      Bytes.byteAt_of_some ((frame.getElem?_behind ip 9).trans protocol), ok_bind,
      Bytes.byte?, first, Bytes.byte?, protocol]
    by_cases foreign : frame[ip] >>> 4 ≠ 4 ∨ frame[ip + 9] ≠ protocolUdp
    · have refused : frame[ip] >>> 4 ≠ 4 ∨ frame[ip + 9] ≠ protocolUdp ∨
          frame.size < ip + (frame[ip] &&& 0x0F).toNat * 4 + udpHeaderSize := by tauto
      simp only [if_pos foreign, if_pos refused, Option.bind_eq_bind, Option.bind_some]
      rfl
    · have same : (frame[ip] >>> 4 ≠ 4 ∨ frame[ip + 9] ≠ protocolUdp ∨
          frame.size < ip + (frame[ip] &&& 0x0F).toNat * 4 + udpHeaderSize) ↔
          frame.size < ip + (frame[ip] &&& 0x0F).toNat * 4 + udpHeaderSize := by tauto
      rw [if_neg foreign, fitAddress_of_lt (by omega), ok_bind, fitAddress_of_lt (by omega),
        ok_bind, fitAddress_of_lt place, ok_bind]
      simp only [same, Option.bind_eq_bind, Option.bind_some]
      rfl

theorem senderChecked_eq (room : ip + shortestInternetHeader ≤ frame.size)
    (header : udp + udpHeaderSize ≤ frame.size) :
    ∃ a, senderChecked frame ip udp = .ok a ∧ sender? frame ip udp = some a := by
  rw [shortestInternetHeader] at room
  rw [udpHeaderSize] at header
  obtain ⟨port, stated⟩ := Option.isSome_iff_exists.1
    (Bytes.bigEndian16?_isSome (b := frame) (i := udp).2 (by omega))
  have byte (k : Nat) (hk : k < 20) : ∃ x, frame[ip + k]? = some x :=
    ⟨_, Array.getElem?_eq_getElem (by omega)⟩
  obtain ⟨a, ha⟩ := byte 12 (by omega)
  obtain ⟨b, hb⟩ := byte 13 (by omega)
  obtain ⟨c, hc⟩ := byte 14 (by omega)
  obtain ⟨d, hd⟩ := byte 15 (by omega)
  refine ⟨.v4 ⟨a, b, c, d⟩ port, ?_, ?_⟩
  · rw [senderChecked, Bytes.slice_of_le (by omega) (Nat.le_refl _), ok_bind,
      Bytes.byteAt_of_some ((frame.getElem?_behind ip 12).trans ha), ok_bind,
      Bytes.byteAt_of_some ((frame.getElem?_behind ip 13).trans hb), ok_bind,
      Bytes.byteAt_of_some ((frame.getElem?_behind ip 14).trans hc), ok_bind,
      Bytes.byteAt_of_some ((frame.getElem?_behind ip 15).trans hd), ok_bind,
      Bytes.bigEndian16At_of_some stated]
    rfl
  · exact sender?_eq_some_iff.2 ⟨⟨a, b, c, d⟩, port, rfl, ⟨ha, hb, hc, hd⟩, stated⟩

theorem payloadChecked_eq (small : udp ≤ 78) (header : udp + udpHeaderSize ≤ frame.size) :
    payloadChecked frame udp = .ok (payload? frame udp) := by
  have address : UInt64.size = 18446744073709551616 := rfl
  rw [udpHeaderSize] at header
  obtain ⟨length, stated⟩ := Option.isSome_iff_exists.1
    (Bytes.bigEndian16?_isSome (b := frame) (i := udp + 4).2 (by omega))
  have bound := length.toNat_lt
  rw [payloadChecked, payload?, fitAddress_of_lt (by omega), ok_bind,
    Bytes.bigEndian16At_of_some stated, ok_bind, stated]
  simp only [Option.bind_eq_bind, Option.bind_some]
  rw [fitAddress_of_lt (by omega), ok_bind]
  split_ifs with refused
  · rfl
  · rw [fitAddress_of_lt (by rw [udpHeaderSize]; omega)]
    rfl

/-- In a frame nothing goes out of range, whatever it states. -/
theorem datagramChecked_eq (frame : Bytes) : datagramChecked frame = .ok (datagram? frame) := by
  rw [datagramChecked, datagram?, internetChecked_eq, ok_bind]
  cases linked : Ethernet.internet? frame with
  | none => rfl
  | some ip =>
    have small := internet?_le linked
    simp only [udpChecked_eq small, ok_bind, Option.bind_eq_bind, Option.bind_some]
    cases found : udp? frame ip with
    | none => rfl
    | some udp =>
      obtain ⟨whole, first, -, -, -, place, room⟩ := udp?_eq_some_iff.1 found
      have words := words_le first
      obtain ⟨a, checked, sender⟩ := senderChecked_eq whole room
      simp only [checked, sender, ok_bind, Option.bind_some,
        payloadChecked_eq (show udp ≤ 78 by omega) room]
      cases payload? frame udp with
      | none => rfl
      | some range => rfl

end Frame

end Lidar.Capture
