import Lidar.Angle

namespace Lidar

/-- A point in metres, with its reflectivity from zero to one. -/
structure CartesianPoint where
  x : Float32
  y : Float32
  z : Float32
  intensity : Float32

/-- A point as range in metres and two angles in radians: `theta` runs clockwise from the y axis,
`phi` upwards from the horizon. -/
structure SphericalPoint where
  radius : Float32
  theta : Float32
  phi : Float32
  intensity : Float32

/-- Buffers are filled with the origin before a packet is written into them. -/
def CartesianPoint.origin : CartesianPoint := ⟨0, 0, 0, 0⟩

def SphericalPoint.origin : SphericalPoint := ⟨0, 0, 0, 0⟩

def CartesianPoint.xyz (p : CartesianPoint) : List Float32 := [p.x, p.y, p.z]

structure Point where
  cartesian : CartesianPoint
  spherical : SphericalPoint

/-- Where a return comes from, in the units of an angle table. -/
structure Direction where
  elevation : Int
  azimuth : Int
deriving DecidableEq

/-- A raw reflectivity as a fraction of its largest value. -/
def intensity (reflectivity : UInt8) : Float32 := reflectivity.toFloat32 / 255.0

/-- Both representations of a return. The azimuth is measured clockwise from the y axis. -/
def Point.ofPolar (t : AngleTable) (range : Float32) (d : Direction) (intensity : Float32) :
    Point :=
  let level := range * t.cos d.elevation
  { cartesian :=
      { x := level * t.sin d.azimuth
        y := level * t.cos d.azimuth
        z := range * t.sin d.elevation
        intensity }
    spherical :=
      { radius := range
        theta := t.radians d.azimuth
        phi := t.signedRadians d.elevation
        intensity } }

end Lidar
