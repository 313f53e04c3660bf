import Lidar.PointSource

namespace Lidar

/-- The points of one rotation or one sweep, up to the packet that the decoder reports as the last
one. -/
structure Frame where
  points : Buffers
  packets : Nat
  rejected : Nat
  /-- The time of the packet that ended the frame. -/
  time : Option Int

namespace Frame

def empty : Frame := { points := .blank 0, packets := 0, rejected := 0, time := none }

def size (f : Frame) : Nat := f.points.cartesian.size

def isEmpty (f : Frame) : Bool := f.points.cartesian.isEmpty

def add (f : Frame) (points : Buffers) : Frame :=
  { f with points := f.points.append points, packets := f.packets + 1 }

end Frame

/-- What gathering a frame comes to. -/
inductive Gathering where
  | frame (f : Frame)
  | exhausted
  | failed (e : TransportError)
  | aborted (f : Fault)
  /-- The allowed number of packets did not end a frame. -/
  | unfinished (f : Frame)

namespace Gathering

variable {σ : Type} [PacketSource σ]

/-- Adds packets to a frame until one ends it, taking at most `limit` packets. -/
def run (limit : Nat) (frame : Frame) (p : PointSource σ) : Gathering × PointSource σ :=
  match limit with
  | 0 => (.unfinished frame, p)
  | limit + 1 =>
    match p.next with
    | (.packet _ (.accepted report), p) =>
      let frame := frame.add p.points
      if report.scanComplete then (.frame { frame with time := report.time }, p)
      else run limit frame p
    | (.packet _ (.rejected _), p) =>
      run limit { frame with rejected := frame.rejected + 1 } p
    | (.packet _ (.aborted f), p) => (.aborted f, p)
    | (.exhausted, p) => (.exhausted, p)
    | (.failed e, p) => (.failed e, p)
    | (.aborted f, p) => (.aborted f, p)

end Gathering

/-- The next frame of a point source, from at most `limit` packets. -/
def PointSource.nextFrame {σ : Type} [PacketSource σ] (limit : Nat) (p : PointSource σ) :
    Gathering × PointSource σ :=
  Gathering.run limit .empty p

end Lidar
