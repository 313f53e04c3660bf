import Lidar.Proofs.Except
import Lidar.Sensor.Model
import Lidar.Wire.Packet
import Lidar.Wire.Tail

namespace Lidar

/-- A test of a packet, and the complaint about a packet that fails it. -/
structure Test where
  passed : Bool
  complaint : Rejection

namespace Test

/-- The complaint of the first test that fails. -/
def complaint? : List Test → Option Rejection
  | [] => none
  | t :: ts => if t.passed then complaint? ts else some t.complaint

/-- A computation goes on after its tests, or stops with the complaint of the first that fails. -/
def guarded {α : Type} (ts : List Test) (x : Except Rejection α) : Except Rejection α :=
  match complaint? ts with
  | some reason => .error reason
  | none => x

variable {α : Type} {x y : Except Rejection α} {t : Test} {ts : List Test}

@[simp] theorem guarded_nil : guarded [] x = x := rfl

theorem guarded_cons_of_passed (h : t.passed = true) : guarded (t :: ts) x = guarded ts x := by
  rw [guarded, complaint?, if_pos h, guarded]

theorem guarded_cons_of_failed (h : t.passed = false) :
    guarded (t :: ts) x = .error t.complaint := by
  rw [guarded, complaint?, h]
  rfl

theorem guarded_append (us : List Test) : guarded (ts ++ us) x = guarded ts (guarded us x) := by
  induction ts with
  | nil => rfl
  | cons t ts ih =>
    cases h : t.passed with
    | true => rw [List.cons_append, guarded_cons_of_passed h, guarded_cons_of_passed h, ih]
    | false => rw [List.cons_append, guarded_cons_of_failed h, guarded_cons_of_failed h]

theorem guarded_bind {β : Type} (f : α → Except Rejection β) :
    guarded ts x >>= f = guarded ts (x >>= f) := by
  rw [guarded, guarded]
  cases complaint? ts <;> rfl

theorem complaint?_eq_none_iff : complaint? ts = none ↔ ∀ t ∈ ts, t.passed = true := by
  induction ts with
  | nil => simp [complaint?]
  | cons t ts ih =>
    cases h : t.passed with
    | true => simp [complaint?, h, ih]
    | false => simp [complaint?, h]

/-- Tests behind one that fails do not matter. -/
theorem complaint?_append {reason : Rejection} (h : complaint? ts = some reason)
    (us : List Test) : complaint? (ts ++ us) = some reason := by
  induction ts with
  | nil => cases h
  | cons t ts ih =>
    rw [complaint?] at h
    rw [List.cons_append, complaint?]
    split_ifs at h ⊢
    · exact ih h
    · exact h

/-- Tests that are passed leave the answer to those behind. -/
theorem complaint?_append_of_passed (h : ∀ t ∈ ts, t.passed = true) (us : List Test) :
    complaint? (ts ++ us) = complaint? us := by
  induction ts with
  | nil => rfl
  | cons t ts ih =>
    obtain ⟨first, rest⟩ := List.forall_mem_cons.1 h
    rw [List.cons_append, complaint?, if_pos first, ih rest]

theorem exists_of_complaint? {reason : Rejection} (h : complaint? ts = some reason) :
    ∃ t ∈ ts, t.complaint = reason := by
  induction ts with
  | nil => cases h
  | cons t ts ih =>
    rw [complaint?] at h
    split_ifs at h
    · obtain ⟨u, listed, same⟩ := ih h
      exact ⟨u, List.mem_cons_of_mem t listed, same⟩
    · exact ⟨t, List.mem_cons_self, Option.some.inj h⟩

end Test

namespace Bytes

/-- The byte at `i`, zero behind the end. -/
def peek (b : Bytes) (i : Nat) : UInt8 := b.getD i 0

theorem peek_eq_getD {b : Bytes} {i : Nat} : b.peek i = (b.byte? i).getD 0 :=
  Array.getD_eq_getD_getElem?

theorem getElem?_peek {b : Bytes} {i : Nat} (h : i < b.size) : b[i]? = some (b.peek i) := by
  rw [peek, Array.getElem?_eq_getElem h, Array.getD_eq_getD_getElem?, Array.getElem?_eq_getElem h,
    Option.getD_some]

/-- The last six bytes of a header. -/
def headerFields (b : Bytes) : Vector UInt8 6 :=
  #v[b.peek 6, b.peek 7, b.peek 8, b.peek 9, b.peek 10, b.peek 11]

end Bytes

namespace Header

/-- The header in the first bytes of a packet. -/
def ofBytes (b : Bytes) : Header where
  major := b.peek 2
  minor := b.peek 3
  statusInfo := b.peek 4
  lasers := b.peek 6
  blocks := b.peek 7
  echoCount := b.peek 8
  distanceUnit := b.peek 9
  echoNumber := b.peek 10
  flags := ⟨b.peek 11⟩

def tests (b : Bytes) : List Test :=
  [⟨2 ≤ b.size, .truncated size b.size⟩,
    ⟨b.peek 0 = 0xEE ∧ b.peek 1 = 0xFF, .invalidDelimiter (b.peek 0) (b.peek 1)⟩,
    ⟨size ≤ b.size, .truncated size b.size⟩]

theorem fields?_eq_some {b : Bytes} (h : size ≤ b.size) : fields? b = some (ofBytes b) := by
  have inside : ∀ i < size, b.byte? i = some (b.peek i) := fun i hi =>
    Bytes.getElem?_peek (Nat.lt_of_lt_of_le hi h)
  simp only [fields?, inside 2 (by decide), inside 3 (by decide), inside 4 (by decide),
    inside 6 (by decide), inside 7 (by decide), inside 8 (by decide), inside 9 (by decide),
    inside 10 (by decide), inside 11 (by decide), Option.bind_eq_bind, Option.bind_some,
    Option.pure_def, ofBytes]

theorem parse_eq_guarded (b : Bytes) : parse b = Test.guarded (tests b) (.ok (ofBytes b)) := by
  rw [tests]
  by_cases two : 2 ≤ b.size
  · have first : b.byte? 0 = some (b.peek 0) := Bytes.getElem?_peek (by omega)
    have second : b.byte? 1 = some (b.peek 1) := Bytes.getElem?_peek (by omega)
    rw [Test.guarded_cons_of_passed (decide_eq_true two), parse, first, second]
    by_cases delimiter : b.peek 0 = 0xEE ∧ b.peek 1 = 0xFF
    · rw [Test.guarded_cons_of_passed (decide_eq_true delimiter)]
      simp only [delimiter, and_self, if_true]
      by_cases whole : size ≤ b.size
      · rw [Test.guarded_cons_of_passed (decide_eq_true whole), fields?_eq_some whole]
        rfl
      · have missing : fields? b = none := by
          rw [← Option.not_isSome_iff_eq_none, fields?_isSome]
          exact whole
        rw [Test.guarded_cons_of_failed (decide_eq_false whole), missing]
        rfl
    · rw [Test.guarded_cons_of_failed (decide_eq_false delimiter)]
      simp only [delimiter, if_false]
  · have missing : b.byte? 1 = none := by
      rw [← Option.not_isSome_iff_eq_none, Bytes.byte?_isSome]
      exact two
    rw [Test.guarded_cons_of_failed (decide_eq_false two), parse, missing]
    cases b.byte? 0 <;> rfl

end Header

namespace Format

variable {Tail : Type} (f : Format Tail)

/-- The bytes that a packet needs, from the last six bytes of its header: header, blocks and their
checksum, tail and its checksum, and the optional sections that are announced and known. -/
def wireSize (fields : Vector UInt8 6) : Nat :=
  let lasers := (fields.get 0).toNat
  let blocks := (fields.get 1).toNat
  let flags : Flags := ⟨fields.get 5⟩
  12 + blocks * ((if f.fineAzimuth then 3 else 2) + lasers * f.returnSize flags) + 4 +
    (if f.functionSafety && flags.functionSafety then 17 else 0) + f.tailSize +
    (if flags.sequence then 4 else 0) + (if f.imu && flags.imu then 22 else 0) + 4 +
    (if flags.cyberSecurity then 32 else 0)

def tests (b : Bytes) : List Test :=
  Header.tests b ++
    [⟨b.peek 2 = f.major ∧ b.peek 3 = f.minor, .unsupportedVersion (b.peek 2) (b.peek 3)⟩,
      ⟨f.wireSize b.headerFields ≤ b.size, .truncated (f.wireSize b.headerFields) b.size⟩]

theorem parse_eq_guarded (b : Bytes) :
    f.parse b =
      Test.guarded (f.tests b) (.ok { bytes := b, header := .ofBytes b, format := f }) := by
  rw [parse, Header.parse_eq_guarded, Test.guarded_bind, tests, Test.guarded_append]
  congr 1
  simp only [bind, Except.bind, pure, Except.pure, throw, throwThe, MonadExceptOf.throw]
  by_cases version : b.peek 2 = f.major ∧ b.peek 3 = f.minor
  · have same : ¬((Header.ofBytes b).major ≠ f.major ∨ (Header.ofBytes b).minor ≠ f.minor) := by
      rintro (major | minor)
      · exact major version.1
      · exact minor version.2
    rw [Test.guarded_cons_of_passed (decide_eq_true version), if_neg same]
    by_cases long : f.wireSize b.headerFields ≤ b.size
    · have fits : ¬b.size < (f.layout (Header.ofBytes b)).size := Nat.not_lt.2 long
      rw [Test.guarded_cons_of_passed (decide_eq_true long), if_neg fits]
      rfl
    · have cut : b.size < (f.layout (Header.ofBytes b)).size := Nat.not_le.1 long
      rw [Test.guarded_cons_of_failed (decide_eq_false long), if_pos cut]
      rfl
  · have other : (Header.ofBytes b).major ≠ f.major ∨ (Header.ofBytes b).minor ≠ f.minor :=
      Decidable.not_and_iff_or_not.1 version
    rw [Test.guarded_cons_of_failed (decide_eq_false version), if_pos other]
    rfl

end Format

namespace Model

def Tail : Model → Type
  | p128 => P128.Tail
  | qt128 => QT128.Tail
  | at128 => AT128.Tail

def format : (m : Model) → Format m.Tail
  | p128 => P128.format
  | qt128 => QT128.format
  | at128 => AT128.format

theorem format_lawful (m : Model) : m.format.Lawful := by
  cases m with
  | p128 => exact P128.format_lawful
  | qt128 => exact QT128.format_lawful
  | at128 => exact AT128.format_lawful

end Model

end Lidar
