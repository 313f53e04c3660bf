import Lidar.Proofs.Decoder.Made

namespace Lidar

/-- Both pass a block over, or both place its first `n` returns alike. -/
def Aim.Alike (n : Nat) : Option Aim → Option Aim → Prop
  | none, none => True
  | some a, some a' => a.azimuth = a'.azimuth ∧ ∀ j < n, a.direction j = a'.direction j
  | _, _ => False

theorem Block.points_congr {angles : AngleTable} {scale : Float32}
    {direction direction' : Nat → Except Fault Direction} {b : Block}
    (same : ∀ j < b.returns.length, direction j = direction' j) :
    b.points angles scale direction = b.points angles scale direction' := by
  refine mapM_congr ?_
  rintro ⟨r, j⟩ listed
  have inside : j < b.returns.length :=
    (List.getElem?_eq_some_iff.1 (List.mem_zipIdx_iff_getElem?.1 listed)).1
  dsimp only
  rw [same j inside]

theorem Scan.run_congr {angles : AngleTable} {scale : Float32} {aim aim' : Nat → Block → Option Aim}
    {blocks : List (Block × Nat)}
    (alike : ∀ b i, (b, i) ∈ blocks → Aim.Alike b.returns.length (aim i b) (aim' i b))
    (splitter : Splitter) :
    run angles scale aim blocks splitter = run angles scale aim' blocks splitter := by
  induction blocks generalizing splitter with
  | nil => rfl
  | cons block rest ih =>
    obtain ⟨b, i⟩ := block
    have here := alike b i List.mem_cons_self
    have behind (splitter : Splitter) :=
      ih (fun b i listed => alike b i (List.mem_cons_of_mem _ listed)) splitter
    cases aimed : aim i b with
    | none =>
      cases aimed' : aim' i b with
      | none => rw [run_passed aimed, run_passed aimed', behind]
      | some a' =>
        rw [aimed, aimed'] at here
        exact here.elim
    | some a =>
      cases aimed' : aim' i b with
      | none =>
        rw [aimed, aimed'] at here
        exact here.elim
      | some a' =>
        rw [aimed, aimed'] at here
        obtain ⟨azimuth, direction⟩ := here
        rw [run_aimed aimed, run_aimed aimed', Block.points_congr direction, azimuth, behind]

/-- Two corrections with the same elevations that place the returns of covered packets alike. -/
structure Correction.Alike {Tail : Type} (k k' : Correction Tail) : Prop where
  elevations : k.elevations = k'.elevations
  needed : k.needed = k'.needed
  aim : ∀ h, k.needed h ≤ k.elevations.size → ∀ tail i b, b.returns.length = h.laserCount →
    Aim.Alike b.returns.length (k.aim h tail i b) (k'.aim h tail i b)

namespace Family

variable {Tail Tables : Type} {f : Family Tail Tables} {s t : State Tables} {packet : Bytes}
  {k k' : Correction Tail}

theorem admission_congr (loaded : f.correction? s.tables = some k)
    (loaded' : f.correction? t.tables = some k') (alike : k.Alike k') (packet : Bytes)
    (room : Nat) :
    f.admission t packet room =
      (f.admission s packet room).map fun admitted => (admitted.1, k') := by
  rw [admission, admission, loaded, loaded']
  cases f.format.parse packet with
  | error reason => rfl
  | ok p =>
    simp only [bind, Except.bind, ← alike.elevations, ← alike.needed]
    split
    · rfl
    · split <;> rfl

theorem scan_congr {p : Packet Tail} (alike : k.Alike k')
    (covered : k.needed p.header ≤ k.elevations.size) (splitter : Splitter) :
    f.scan splitter p k = f.scan splitter p k' := by
  rw [scan, scan]
  cases read : p.contents? with
  | none => rfl
  | some contents =>
    obtain ⟨blocks, -⟩ := Packet.contents?_eq_some_iff.1 read
    have returns := (Packet.counts_of_blocks? blocks).2
    have aims (b : Block) (i : Nat) (listed : (b, i) ∈ contents.blocks.zipIdx) :
        Aim.Alike b.returns.length (k.aim p.header contents.tail i b)
          (k'.aim p.header contents.tail i b) :=
      alike.aim p.header covered contents.tail i b
        (returns b (List.fst_mem_of_mem_zipIdx listed))
    simp only [Fault.unless, Option.elim, bind, Except.bind]
    rw [Scan.run_congr aims]

/-- Decoders of equal splitters whose tables serve alike answer every packet alike, and remember the
same azimuth of it. -/
theorem decode_congr (loaded : f.correction? s.tables = some k)
    (loaded' : f.correction? t.tables = some k') (alike : k.Alike k')
    (splitters : s.splitter = t.splitter) (packet : Bytes) (out : Buffers) :
    (f.decode s packet out).1 = (f.decode t packet out).1 ∧
      (f.decode s packet out).2.1.splitter = (f.decode t packet out).2.1.splitter ∧
      (f.decode s packet out).2.2 = (f.decode t packet out).2.2 := by
  rw [decode, decode, admission_congr loaded loaded' alike]
  cases admitted : f.admission s packet out.room with
  | error reason => exact ⟨rfl, splitters, rfl⟩
  | ok read =>
    obtain ⟨p, c⟩ := read
    obtain ⟨rfl, loaded'', covered, -⟩ := admission_ok admitted
    obtain rfl := Option.some.inj (loaded.symm.trans loaded'')
    simp only [Except.map]
    rw [← scan_congr alike covered, ← splitters]
    cases f.scan s.splitter (f.format.packetOf packet) k with
    | error fault => exact ⟨rfl, splitters, rfl⟩
    | ok walked =>
      simp only [report, alike.elevations, and_self]

end Family

end Lidar
