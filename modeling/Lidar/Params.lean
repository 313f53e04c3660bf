import Lidar.Decoder.Loading
import Lidar.Net.Address

namespace Lidar

/-- The keys whose values are checked on reading, besides the model. -/
inductive CheckedKey where
  | ip
  | hostIp
  | multicastIp
  | udpPort
  | ptcPort
deriving DecidableEq

def CheckedKey.name : CheckedKey → String
  | ip => "ip"
  | hostIp => "host_ip"
  | multicastIp => "multicast_ip"
  | udpPort => "udp_port"
  | ptcPort => "ptc_port"

inductive ParamsError where
  | missingValue (item : String)
  | invalidValue (key : CheckedKey) (value : String)
  | model (e : UnknownModel)
  | noModel
  | calibration (e : LoadError)
deriving DecidableEq

def ParamsError.message : ParamsError → String
  | missingValue item => s!"parameter `{item}` has no value"
  | invalidValue key value => s!"invalid value `{value}` for `{key.name}`"
  | model e => e.message
  | noModel => "`lidar_type` is not set"
  | calibration e => e.message

/-- Connection and calibration settings of one sensor. -/
structure Params where
  model : Option Model := none
  correctionFile : Option String := none
  fireTimesFile : Option String := none
  channelConfigFile : Option String := none
  ip : IPv4 := ⟨192, 168, 1, 201⟩
  /-- The local address that data arrive at. -/
  hostIp : IPv4 := .unspecified
  multicastIp : Option IPv4 := none
  udpPort : UInt16 := 2368
  /-- The port of the control channel. -/
  ptcPort : UInt16 := 9347
deriving DecidableEq

namespace Params

/-- A path, which is unset when empty. -/
def path (value : List Char) : Option String :=
  if value.isEmpty then none else some (String.ofList value)

def checked {α : Type} (key : CheckedKey) (read : List Char → Option α) (value : List Char) :
    Except ParamsError α :=
  (read value).elim (.error (.invalidValue key (String.ofList value))) .ok

def port? (s : List Char) : Option UInt16 := (Text.natural? UInt16.size s).map UInt16.ofNat

/-- An address that may be left empty. -/
def optionalIp (value : List Char) : Except ParamsError (Option IPv4) :=
  if value.isEmpty then .ok none
  else (checked .multicastIp IPv4.read? value).map some

/-- The settings after one more key and its value. -/
def set (p : Params) (key : String) (value : List Char) : Except ParamsError Params :=
  match key with
  | "lidar_type" =>
    match Model.read value with
    | .ok m => .ok { p with model := some m }
    | .error e => .error (.model e)
  | "correction_file" => .ok { p with correctionFile := path value }
  | "firetimes_file" => .ok { p with fireTimesFile := path value }
  | "channel_config_file" => .ok { p with channelConfigFile := path value }
  | "ip" => return { p with ip := ← checked .ip IPv4.read? value }
  | "host_ip" => return { p with hostIp := ← checked .hostIp IPv4.read? value }
  | "multicast_ip" => return { p with multicastIp := ← optionalIp value }
  | "udp_port" => return { p with udpPort := ← checked .udpPort port? value }
  | "ptc_port" => return { p with ptcPort := ← checked .ptcPort port? value }
  | _ => .ok p

/-- The settings after one more item. Key and value meet at the first equals sign. -/
def setItem (p : Params) (item : List Char) : Except ParamsError Params :=
  match item.dropWhile (· ≠ '=') with
  | [] => .error (.missingValue (String.ofList item))
  | _ :: value =>
    p.set (String.ofList (Text.trim (item.takeWhile (· ≠ '=')))) (Text.trim value)

/-- The items of a text without surrounding white space; empty ones do not count. -/
def items (s : List Char) : List (List Char) :=
  ((s.splitOn ',').map Text.trim).filter (!·.isEmpty)

def read (s : List Char) : Except ParamsError Params :=
  (items s).foldlM setItem {}

def dataAddress (p : Params) : Address := .v4 p.hostIp p.udpPort

/-- The decoder after an auxiliary file, which may be missing or malformed. -/
def withAuxiliary (files : Files) (table : Decoder.Table) (path : Option String) (d : Decoder) :
    Decoder :=
  match path.bind files with
  | none => d
  | some blob => (d.load blob table).decoder

/-- The decoder of the selected model with the files that are set. Only the correction file can
fail; auxiliary files are used by one model alone. -/
def decoder (p : Params) (files : Files) : Except ParamsError Decoder := do
  let some model := p.model | throw .noModel
  let d ← match p.correctionFile with
    | none => pure (Decoder.ofModel model)
    | some path =>
      match (Decoder.loadCalibrationFrom files (Decoder.ofModel model) [.file path]).result with
      | .ok d => pure d
      | .error e => throw (.calibration e)
  if model ≠ .qt128 then return d
  return d |> withAuxiliary files .channelConfig p.channelConfigFile
    |> withAuxiliary files .fireTimes p.fireTimesFile

end Params

end Lidar
