import Lidar.Text.Integer

namespace Lidar

structure IPv4 where
  a : UInt8
  b : UInt8
  c : UInt8
  d : UInt8
deriving DecidableEq

namespace IPv4

def unspecified : IPv4 := ⟨0, 0, 0, 0⟩

def render (ip : IPv4) : String := s!"{ip.a}.{ip.b}.{ip.c}.{ip.d}"

/-- One to three digits for a number below 256, without leading zeros. -/
def octet? (s : List Char) : Option UInt8 :=
  if s.length ≤ 3 ∧ (s.head? ≠ some '0' ∨ s.length = 1) then
    (Text.digits? 256 s).map UInt8.ofNat
  else none

def read? (s : List Char) : Option IPv4 :=
  match s.splitOn '.' with
  | [a, b, c, d] => do
    return ⟨← octet? a, ← octet? b, ← octet? c, ← octet? d⟩
  | _ => none

end IPv4

/-- An address of version 6, as eight groups of 16 bits. -/
structure IPv6 where
  groups : Vector UInt16 8
deriving DecidableEq

namespace IPv6

def hex (n : Nat) : String := String.ofList (Nat.toDigits 16 n)

def colons (gs : List UInt16) : String := ":".intercalate (gs.map fun g => hex g.toNat)

/-- The zeros that a list starts with. -/
def zeros (gs : List UInt16) : Nat := (gs.takeWhile (· = 0)).length

/-- The first of the longest runs of zeros, as position and length. -/
def longestZeros : List UInt16 → Nat × Nat
  | [] => (0, 0)
  | g :: gs =>
    let here := zeros (g :: gs)
    let (i, n) := longestZeros gs
    if n ≤ here then (0, here) else (i + 1, n)

/-- The text with the longest run of at least two zeros left out. An address that embeds one of
version 4 ends in that one. -/
def render (ip : IPv6) : String :=
  let gs := ip.groups.toList
  if gs.take 6 = [0, 0, 0, 0, 0, 0xFFFF] then
    let g := ip.groups[6]
    let h := ip.groups[7]
    let v4 : IPv4 := ⟨(g >>> 8).toUInt8, g.toUInt8, (h >>> 8).toUInt8, h.toUInt8⟩
    s!"::ffff:{v4.render}"
  else
    let (i, n) := longestZeros gs
    if n < 2 then colons gs
    else s!"{colons (gs.take i)}::{colons (gs.drop (i + n))}"

def hexDigit? (c : Char) : Option Nat :=
  if c.isDigit then some (c.toNat - 48)
  else if 'a' ≤ c ∧ c ≤ 'f' then some (c.toNat - 87)
  else if 'A' ≤ c ∧ c ≤ 'F' then some (c.toNat - 55)
  else none

def group? (s : List Char) : Option UInt16 :=
  if 1 ≤ s.length ∧ s.length ≤ 4 then
    (s.foldlM (fun n c => (hexDigit? c).map (16 * n + ·)) 0).map UInt16.ofNat
  else none

/-- Groups between colons, of which the last may be an address of version 4. -/
def groups? : List (List Char) → Option (List UInt16)
  | [] => some []
  | [s] =>
    match IPv4.read? s with
    | some v => some [UInt16.ofNat (v.a.toNat * 256 + v.b.toNat),
        UInt16.ofNat (v.c.toNat * 256 + v.d.toNat)]
    | none => (group? s).map ([·])
  | s :: rest => do
    let g ← group? s
    let gs ← groups? rest
    return g :: gs

/-- A part of the text without double colons; the empty part has no groups. -/
def part? (s : List Char) : Option (List UInt16) :=
  if s.isEmpty then some [] else groups? (s.splitOn ':')

def splitDouble : List Char → Option (List Char × List Char)
  | ':' :: ':' :: rest => some ([], rest)
  | c :: rest => (splitDouble rest).map fun (before, after) => (c :: before, after)
  | [] => none

def ofList? (gs : List UInt16) : Option IPv6 :=
  if h : gs.length = 8 then some ⟨⟨gs.toArray, by simp [h]⟩⟩ else none

def read? (s : List Char) : Option IPv6 :=
  match splitDouble s with
  | none => do ofList? (← part? s)
  | some (before, after) => do
    let front ← part? before
    let back ← part? after
    let gap := 8 - (front.length + back.length)
    if before.contains '.' ∨ gap = 0 then none
    else ofList? (front ++ List.replicate gap 0 ++ back)

end IPv6

/-- An address with a port. One of version 6 also has a scope, the number of the network it is
reached through; zero leaves the network open. -/
inductive Address where
  | v4 (ip : IPv4) (port : UInt16)
  | v6 (ip : IPv6) (scope : UInt32) (port : UInt16)
deriving DecidableEq

namespace Address

/-- A scope of zero is not written. -/
def render : Address → String
  | v4 ip port => s!"{ip.render}:{port}"
  | v6 ip scope port =>
    if scope = 0 then s!"[{ip.render}]:{port}" else s!"[{ip.render}%{scope}]:{port}"

def port? (s : List Char) : Option UInt16 :=
  (Text.digits? 65536 s).map UInt16.ofNat

/-- The scope after an address: nothing, or a percent sign and digits for a number of 32 bits. -/
def scope? : List Char → Option UInt32
  | [] => some 0
  | '%' :: s => (Text.digits? 4294967296 s).map UInt32.ofNat
  | _ => none

/-- An address of either version and a port; one of version 6 stands in brackets, together with
its scope. -/
def read? (s : List Char) : Option Address :=
  match s with
  | '[' :: rest =>
    let host := rest.takeWhile (· ≠ ']')
    match rest.dropWhile (· ≠ ']') with
    | ']' :: ':' :: port => do
      let ip ← IPv6.read? (host.takeWhile (· ≠ '%'))
      let scope ← scope? (host.dropWhile (· ≠ '%'))
      return .v6 ip scope (← port? port)
    | _ => none
  | _ =>
    let ip := s.takeWhile (· ≠ ':')
    match s.dropWhile (· ≠ ':') with
    | ':' :: port => do return .v4 (← IPv4.read? ip) (← port? port)
    | _ => none

end Address

end Lidar
