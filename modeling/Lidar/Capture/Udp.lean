import Lidar.Bytes
import Lidar.Net.Address

namespace Lidar.Capture

/-- Where the payload of a frame lies and who sent it. -/
structure Datagram where
  sender : Address
  start : Nat
  length : Nat
deriving DecidableEq

namespace Ethernet

def headerSize : Nat := 14
def tagSize : Nat := 4
def typeIPv4 : UInt16 := 0x0800
def typeVlan : UInt16 := 0x8100

/-- The offset of the Internet packet in a frame that carries one of version 4. -/
def internet? (frame : Bytes) : Option Nat := do
  let type ← frame.bigEndian16? 12
  if type = typeVlan then
    let inner ← frame.bigEndian16? (headerSize + 2)
    if inner = typeIPv4 then some (headerSize + tagSize) else none
  else if type = typeIPv4 then some headerSize
  else none

end Ethernet

def shortestInternetHeader : Nat := 20

def protocolUdp : UInt8 := 17

def udpHeaderSize : Nat := 8

/-- The offset of the complete UDP header behind the Internet header at `ip`. The length of the
Internet header is taken as it is stated. -/
def udp? (frame : Bytes) (ip : Nat) : Option Nat :=
  if frame.size < ip + shortestInternetHeader then none
  else do
    let first ← frame.byte? ip
    let protocol ← frame.byte? (ip + 9)
    let udp := ip + (first &&& 0x0F).toNat * 4
    if first >>> 4 ≠ 4 ∨ protocol ≠ protocolUdp ∨ frame.size < udp + udpHeaderSize then none
    else some udp

def sender? (frame : Bytes) (ip udp : Nat) : Option Address := do
  let sender : IPv4 :=
    ⟨← frame.byte? (ip + 12), ← frame.byte? (ip + 13),
      ← frame.byte? (ip + 14), ← frame.byte? (ip + 15)⟩
  return .v4 sender (← frame.bigEndian16? udp)

def payload? (frame : Bytes) (udp : Nat) : Option (Nat × Nat) := do
  let length := (← frame.bigEndian16? (udp + 4)).toNat
  if length < udpHeaderSize ∨ frame.size < udp + length then none
  else some (udp + udpHeaderSize, length - udpHeaderSize)

/-- The datagram in a frame that carries, behind at most one VLAN tag, a packet of Internet protocol
version 4 with a complete UDP header and a payload of the length that this header states. -/
def datagram? (frame : Bytes) : Option Datagram := do
  let ip ← Ethernet.internet? frame
  let udp ← udp? frame ip
  let sender ← sender? frame ip udp
  let (start, length) ← payload? frame udp
  return { sender, start, length }

end Lidar.Capture
