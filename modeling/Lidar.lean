import Lidar.Params
import Lidar.Capture.Basic
import Lidar.Source.Memory
import Lidar.Frames
import Lidar.PacketInfo
import Lidar.Proofs.Capture.Datagram
import Lidar.Proofs.Gathering
import Lidar.Proofs.Capture.Walk
import Lidar.Proofs.Capture.Calls
import Lidar.Proofs.Except
import Lidar.Proofs.Capture.Exhaustion
import Lidar.Proofs.Capture.Restart
import Lidar.Proofs.Bytes
import Lidar.Proofs.Capture.Envelope
import Lidar.Proofs.Capture.Recording
import Lidar.Proofs.Capture.Replay
import Lidar.Proofs.Wire.Acceptance
import Lidar.Proofs.Wire.Sections
import Lidar.Proofs.Wire.Draft
import Lidar.Proofs.Decoder.Runs
import Lidar.Proofs.Decoder.Walk
import Lidar.Proofs.Decoder.Admission
import Lidar.Proofs.Decoder.Directions
import Lidar.Proofs.Decoder.Outcome
import Lidar.Proofs.Decoder.Bounds
import Lidar.Proofs.Decoder.Made
import Lidar.Proofs.Decoder.History
import Lidar.Proofs.Decoder.FrameState
import Lidar.Proofs.Decoder.Revolution
import Lidar.Proofs.Decoder.Alike
import Lidar.Proofs.Calibration.SweepBlob
import Lidar.Proofs.Calibration.SweepVersions
import Lidar.Proofs.Source.Looping
import Lidar.Proofs.Capture.Looping
import Lidar.Proofs.Decoder.Parts
import Lidar.Proofs.Decoder.Fallback
import Lidar.Proofs.Calibration.AngleWords
import Lidar.Proofs.Calibration.Sectors
import Lidar.Proofs.Calibration.Offsets
import Lidar.Proofs.Decoder.Spinning
import Lidar.Proofs.Decoder.Agreement
import Lidar.Proofs.Decoder.Counts
import Lidar.Proofs.Reuse
import Lidar.Proofs.Decoder.Placement
import Lidar.Proofs.Decoder.FiringLoops
import Lidar.Proofs.Wire.Reading
import Lidar.Proofs.Decoder.Deletion
import Lidar.Proofs.Decoder.KeptBlocks
import Lidar.Proofs.Decoder.UsedBytes
import Lidar.Proofs.Calibration.SweepAcceptance
import Lidar.Proofs.Calibration.Rescaling
import Lidar.Proofs.Text.Fields
import Lidar.Proofs.Calibration.AngleTable
import Lidar.Proofs.Calibration.ChannelSheet
import Lidar.Proofs.Calibration.FiringOrder
import Lidar.Proofs.Calibration.LineCounts
import Lidar.Proofs.Excess
import Lidar.Proofs.Capture.Recognition
import Lidar.Proofs.Capture.FrameRanges
import Lidar.Proofs.Capture.Ranges
import Lidar.Proofs.Calendar
import Lidar.Proofs.Number.Packing
import Lidar.Proofs.Number.Rounding
import Lidar.Proofs.Number.Bounds
import Lidar.Proofs.Calibration.FiringOffsets
import Lidar.Proofs.Decoder.AzimuthRange
import Lidar.Proofs.Calibration.LooseTables
import Lidar.Proofs.Decoder.Snapshot
import Lidar.Proofs.Params.Assembly
import Lidar.Proofs.Params.Reading
import Lidar.Proofs.Decoder.Turns
