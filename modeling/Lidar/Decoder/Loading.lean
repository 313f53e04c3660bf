import Lidar.Calibration.Source
import Lidar.Decoder.Basic

namespace Lidar

namespace Decoder

/-- A load from the first source with usable data. -/
structure Search extends Load where
  /-- The sources that were asked. -/
  asked : Nat

def loadFetched (d : Decoder) : Except TransportKind Bytes → Load
  | .error kind => { outcome := .error (.unavailable kind), decoder := d }
  | .ok blob => d.load blob .calibration

/-- Asks the sources in turn until one has a calibration; `last` is the complaint so far. -/
def search (files : Files) (d : Decoder) (last : LoadError) : List CalibrationSource → Search
  | [] => { outcome := .error last, decoder := d, asked := 0 }
  | source :: rest =>
    let tried := d.loadFetched (source.fetch files)
    match tried.outcome with
    | .ok () => { tried with asked := 1 }
    | .error e =>
      let later := search files tried.decoder e rest
      { later with asked := later.asked + 1 }

/-- Loads the calibration of the first source that has one. If none has, the complaint of the last
one is given. -/
def loadCalibrationFrom (files : Files) (d : Decoder) (sources : List CalibrationSource) : Search :=
  search files d .empty sources

end Decoder

end Lidar
