import Lidar.Text.Blank

namespace Lidar

inductive Model where
  | p128
  | qt128
  | at128
deriving DecidableEq

/-- A text that names no supported model. -/
structure UnknownModel where
  text : String
deriving DecidableEq

def UnknownModel.message (e : UnknownModel) : String := s!"unknown lidar type `{e.text}`"

namespace Model

def name : Model → String
  | p128 => "P128"
  | qt128 => "QT128"
  | at128 => "AT128"

/-- The names of a model, in capital letters. -/
def names : Model → List String
  | p128 => ["P128", "PANDAR128", "PANDAR128E3X"]
  | qt128 => ["QT128", "QT128C2X"]
  | at128 => ["AT128", "AT128E2X"]

def all : List Model := [p128, qt128, at128]

/-- The model of a name in any case of letters, with white space around it allowed. -/
def read (s : List Char) : Except UnknownModel Model :=
  let word := String.ofList ((Text.trim s).map Char.toUpper)
  match all.find? (·.names.contains word) with
  | some m => .ok m
  | none => .error ⟨String.ofList s⟩

end Model

end Lidar
