import Lidar.Decoder.Basic
import Lidar.Source.Basic

namespace Lidar

/-- A packet source with a decoder behind it. The buffers are kept from packet to packet. -/
structure PointSource (σ : Type) where
  source : σ
  decoder : Decoder
  buffers : Buffers
  count : Nat

namespace PointSource

variable {σ : Type}

/-- What came of one packet. -/
inductive Step where
  /-- A packet with its sender and the decoder's verdict on it. -/
  | packet (sender : Address) (verdict : Verdict)
  | exhausted
  | failed (e : TransportError)
  | aborted (f : Fault)

def ofSource (source : σ) (decoder : Decoder) : PointSource σ :=
  { source, decoder, buffers := .blank 0, count := 0 }

def grow (b : Buffers) (n : Nat) : Buffers :=
  if b.cartesian.size < n then
    { cartesian := b.cartesian ++ Array.replicate (n - b.cartesian.size) .origin
      spherical := b.spherical ++ Array.replicate (n - b.spherical.size) .origin }
  else b

def countOf : Verdict → Nat
  | .accepted report => report.pointCount
  | _ => 0

def process (p : PointSource σ) (packet : Bytes) : Verdict × PointSource σ :=
  match Decoder.capacity packet with
  | .error reason => (.rejected reason, { p with count := 0 })
  | .ok n =>
    let (verdict, decoder, buffers) := p.decoder.decode packet (grow p.buffers n)
    (verdict, { p with decoder, buffers, count := countOf verdict })

/-- Takes the next packet of the source and decodes it. -/
def next [PacketSource σ] (p : PointSource σ) : Step × PointSource σ :=
  let (pull, source) := PacketSource.next p.source
  let p := { p with source, count := 0 }
  match pull with
  | .packet sender payload =>
    let (verdict, p) := p.process payload
    (.packet sender verdict, p)
  | .exhausted => (.exhausted, p)
  | .failed e => (.failed e, p)
  | .aborted f => (.aborted f, p)

def points (p : PointSource σ) : Buffers := p.buffers.take p.count

end PointSource

end Lidar
