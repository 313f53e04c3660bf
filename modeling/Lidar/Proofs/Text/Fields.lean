import Lidar.Text.Lines
import Mathlib.Data.List.DropRight

namespace Lidar.Text

variable {s before behind : List Char}

theorem trimStart_eq_nil_iff : trimStart s = [] ↔ allBlank s = true := by
  rw [trimStart, List.dropWhile_eq_nil_iff, allBlank, List.all_eq_true]

theorem trimStart_append_of_blank (blank : ∀ c ∈ before, isBlank c = true) :
    trimStart (before ++ s) = trimStart s :=
  List.dropWhile_append_of_pos blank

theorem trimStart_append_of_not_blank (some : allBlank s = false) (behind : List Char) :
    trimStart (s ++ behind) = trimStart s ++ behind := by
  have kept : (s.dropWhile isBlank).isEmpty = false := by
    rw [List.isEmpty_eq_false_iff]
    intro none
    rw [trimStart_eq_nil_iff.1 none] at some
    cases some
  rw [trimStart, List.dropWhile_append, kept]
  rfl

theorem trimEnd_append_of_blank (blank : ∀ c ∈ behind, isBlank c = true) :
    trimEnd (s ++ behind) = trimEnd s := by
  have reversed : ∀ c ∈ behind.reverse, isBlank c = true :=
    fun c listed => blank c (List.mem_reverse.1 listed)
  rw [trimEnd, List.reverse_append, List.dropWhile_append_of_pos reversed, ← trimEnd]

theorem trim_of_allBlank (all : allBlank s = true) : trim s = [] := by
  rw [trim, trimStart_eq_nil_iff.2 all]
  rfl

theorem trim_append_of_blank (blank : ∀ c ∈ before, isBlank c = true) :
    trim (before ++ s) = trim s := by
  rw [trim, trimStart_append_of_blank blank, ← trim]

theorem trim_append_blank (blank : ∀ c ∈ behind, isBlank c = true) :
    trim (s ++ behind) = trim s := by
  cases all : allBlank s with
  | true =>
    have both : allBlank (s ++ behind) = true := by
      rw [allBlank, List.all_append, ← allBlank, all, Bool.true_and, List.all_eq_true]
      exact blank
    rw [trim_of_allBlank all, trim_of_allBlank both]
  | false => rw [trim, trimStart_append_of_not_blank all, trimEnd_append_of_blank blank, ← trim]

/-- Trimming takes white space away, and nothing else. -/
theorem exists_trimStart_eq (s : List Char) :
    ∃ behind, trimStart s = trim s ++ behind ∧ ∀ c ∈ behind, isBlank c = true :=
  ⟨_, List.rdropWhile_append_rtakeWhile.symm, fun _ => List.mem_rtakeWhile_imp⟩

theorem exists_eq_trim (s : List Char) :
    ∃ before behind, s = before ++ (trim s ++ behind) ∧ (∀ c ∈ before, isBlank c = true) ∧
      ∀ c ∈ behind, isBlank c = true := by
  obtain ⟨behind, start, blank⟩ := exists_trimStart_eq s
  refine ⟨s.takeWhile isBlank, behind, ?_, fun c => List.mem_takeWhile_imp, blank⟩
  rw [← start, trimStart, List.takeWhile_append_dropWhile]

@[simp] theorem trim_trim (s : List Char) : trim (trim s) = trim s := by
  obtain ⟨before, behind, same, front, back⟩ := exists_eq_trim s
  conv_rhs => rw [same, trim_append_of_blank front, trim_append_blank back]

theorem trim_eq_nil_iff : trim s = [] ↔ allBlank s = true := by
  constructor
  · intro none
    obtain ⟨before, behind, same, front, back⟩ := exists_eq_trim s
    rw [same, none, List.nil_append, allBlank, List.all_append, Bool.and_eq_true]
    exact ⟨List.all_eq_true.2 front, List.all_eq_true.2 back⟩
  · exact trim_of_allBlank

theorem trim_of_not_blank (none : ∀ c ∈ s, isBlank c = false) : trim s = s := by
  obtain ⟨before, behind, same, front, back⟩ := exists_eq_trim s
  have nothing {t : List Char} (blank : ∀ c ∈ t, isBlank c = true) (sub : t ⊆ s) : t = [] :=
    List.eq_nil_iff_forall_not_mem.2 fun c listed =>
      absurd ((none c (sub listed)).symm.trans (blank c listed)) (by decide)
  have noFront : before = [] := nothing front (same ▸ List.subset_append_left _ _)
  have noBack : behind = [] := nothing back fun c listed => by
    rw [same]
    exact List.mem_append_right _ (List.mem_append_right _ listed)
  conv_rhs => rw [same, noFront, noBack, List.nil_append, List.append_nil]

theorem mem_of_mem_trim {c : Char} (listed : c ∈ trim s) : c ∈ s := by
  obtain ⟨before, behind, same, -, -⟩ := exists_eq_trim s
  rw [same]
  exact List.mem_append_right before (List.mem_append_left behind listed)

/-- A carriage return is white space. -/
theorem trim_dropReturn (s : List Char) : trim (dropReturn s) = trim s := by
  rw [dropReturn]
  split
  · next last =>
    obtain ⟨front, rfl⟩ := List.getLast?_eq_some_iff.1 last
    rw [List.dropLast_concat, trim_append_blank (List.forall_mem_singleton.2 rfl)]
  · rfl

section separator

variable {sep : Char} (solid : isBlank sep = false)

include solid

theorem trimStart_append_cons (before behind : List Char) :
    trimStart (before ++ sep :: behind) = trimStart before ++ sep :: behind := by
  cases all : allBlank before with
  | true =>
    have kept : trimStart (sep :: behind) = sep :: behind :=
      List.dropWhile_cons_of_neg (by simp [solid])
    rw [trimStart_append_of_blank (List.all_eq_true.1 all), trimStart_eq_nil_iff.2 all, kept]
    rfl
  | false => exact trimStart_append_of_not_blank all _

theorem trimEnd_append_cons (before behind : List Char) :
    trimEnd (before ++ sep :: behind) = before ++ sep :: trimEnd behind := by
  have reversed := congrArg List.reverse (trimStart_append_cons solid behind.reverse before.reverse)
  simpa [trimEnd, trimStart] using reversed

theorem trim_append_cons (before behind : List Char) :
    trim (before ++ sep :: behind) = trimStart before ++ sep :: trimEnd behind := by
  rw [trim, trimStart_append_cons solid, trimEnd_append_cons solid]

end separator

theorem trim_trimEnd (s : List Char) : trim (trimEnd s) = trim s := by
  have kept : trimEnd s ++ s.rtakeWhile isBlank = s := List.rdropWhile_append_rtakeWhile
  conv_rhs => rw [← kept, trim_append_blank fun c => List.mem_rtakeWhile_imp]

theorem trim_trimStart (s : List Char) : trim (trimStart s) = trim s := by
  have kept : s.takeWhile isBlank ++ trimStart s = s := List.takeWhile_append_dropWhile
  conv_rhs => rw [← kept, trim_append_of_blank fun c => List.mem_takeWhile_imp]

variable {f : List Char} {fs : List (List Char)}

/-- Fields as they stand in a line. -/
def joinFields (fs : List (List Char)) : List Char := [','].intercalate fs

theorem joinFields_cons_cons (f g : List Char) (fs : List (List Char)) :
    joinFields (f :: g :: fs) = f ++ ',' :: joinFields (g :: fs) := by
  simp [joinFields, List.intercalate_cons_cons]

theorem splitOn_trimEnd_joinFields (some : fs ≠ []) (whole : ∀ f ∈ fs, ',' ∉ f) :
    ((trimEnd (joinFields fs)).splitOn ',').map trim = fs.map trim := by
  induction fs with
  | nil => exact absurd rfl some
  | cons f fs ih =>
    obtain ⟨first, rest⟩ := List.forall_mem_cons.1 whole
    cases fs with
    | nil =>
      have kept : ',' ∉ trimEnd f :=
        fun listed => first (( List.rdropWhile_prefix isBlank f).mem listed)
      simp [joinFields, List.splitOn_eq_singleton kept, trim_trimEnd]
    | cons g fs =>
      rw [joinFields_cons_cons, trimEnd_append_cons rfl,
        List.splitOn_append_cons_self_of_not_mem first, List.map_cons,
        ih (List.cons_ne_nil g fs) rest, ← List.map_cons]

/-- What is put between commas is read back, without the white space at its ends. -/
theorem fields_joinFields (some : fs ≠ []) (whole : ∀ f ∈ fs, ',' ∉ f) :
    fields (joinFields fs) = fs.map trim := by
  cases fs with
  | nil => exact absurd rfl some
  | cons f fs =>
    obtain ⟨first, rest⟩ := List.forall_mem_cons.1 whole
    rw [fields]
    cases fs with
    | nil =>
      have kept : ',' ∉ trim f := fun listed => first (mem_of_mem_trim listed)
      simp [joinFields, List.splitOn_eq_singleton kept]
    | cons g fs =>
      have kept : ',' ∉ trimStart f := fun listed => first (List.dropWhile_subset isBlank listed)
      rw [joinFields_cons_cons, trim_append_cons rfl, List.splitOn_append_cons_self_of_not_mem kept,
        List.map_cons, splitOn_trimEnd_joinFields (List.cons_ne_nil g fs) rest, trim_trimStart,
        ← List.map_cons]

/-- A piece holds no separator and nothing that the whole does not hold. -/
theorem mem_splitOn {c : Char} (listed : f ∈ s.splitOn c) : c ∉ f ∧ f ⊆ s := by
  induction s generalizing f with
  | nil =>
    obtain rfl : f = [] := by simpa using listed
    exact ⟨List.not_mem_nil, List.Subset.refl _⟩
  | cons d s ih =>
    rw [List.splitOn_cons_eq_if_modifyHead] at listed
    split at listed
    · rcases List.mem_cons.1 listed with rfl | listed
      · exact ⟨List.not_mem_nil, List.nil_subset _⟩
      · exact ⟨(ih listed).1, List.subset_cons_of_subset d (ih listed).2⟩
    · next other =>
      obtain ⟨g, gs, pieces⟩ := List.exists_cons_of_ne_nil (List.splitOn_ne_nil c s)
      rw [pieces] at ih listed
      rcases List.mem_cons.1 listed with rfl | listed
      · obtain ⟨whole, sub⟩ := ih List.mem_cons_self
        refine ⟨?_, List.cons_subset_cons d sub⟩
        rintro (_ | ⟨_, later⟩)
        · exact other BEq.rfl
        · exact whole later
      · obtain ⟨whole, sub⟩ := ih (List.mem_cons_of_mem g listed)
        exact ⟨whole, List.subset_cons_of_subset d sub⟩

@[simp] theorem fields_trim (line : List Char) : fields (trim line) = fields line := by
  rw [fields, fields, trim_trim]

theorem fields_of_allBlank {line : List Char} (blank : allBlank line = true) :
    fields line = [[]] := by
  rw [fields, trim_of_allBlank blank]
  rfl

/-- Letters of the marker are no white space. -/
theorem toLower_of_isBlank {c : Char} (blank : isBlank c = true) :
    c.toLower ≠ 'e' ∧ c.toLower ≠ 'f' := by
  have each : ∀ n ∈ blanks, (Char.ofNat n).toLower ≠ 'e' ∧ (Char.ofNat n).toLower ≠ 'f' := by
    decide
  have known := each c.toNat (List.contains_iff_mem.1 blank)
  rwa [Char.ofNat_toNat] at known

theorem trimStart_trim (s : List Char) : trimStart (trim s) = trim s := by
  cases kept : trim s with
  | nil => rfl
  | cons c rest =>
    obtain ⟨behind, start, -⟩ := exists_trimStart_eq s
    have first := List.head?_dropWhile_not isBlank s
    rw [← trimStart, start, kept] at first
    exact List.dropWhile_cons_of_neg (by simpa using first)

@[simp] theorem isVersionLine_trim (line : List Char) :
    isVersionLine (trim line) = isVersionLine line := by
  obtain ⟨behind, start, blank⟩ := exists_trimStart_eq line
  rw [isVersionLine, isVersionLine, trimStart_trim, start, List.take_append, List.map_append]
  cases room : behind.take (4 - (trim line).length) with
  | nil => rw [List.map_nil, List.append_nil]
  | cons c rest =>
    have inBehind : c ∈ behind := List.take_subset _ _ (room ▸ List.mem_cons_self)
    have short : ((trim line).take 4).length ≠ 4 := by
      intro long
      rw [List.length_take] at long
      rw [show 4 - (trim line).length = 0 by omega, List.take_zero] at room
      cases room
    obtain ⟨noE, noF⟩ := toLower_of_isBlank (blank c inBehind)
    rw [Bool.eq_iff_iff, beq_iff_eq, beq_iff_eq]
    constructor
    · intro marker
      exact absurd (by simpa using congrArg List.length marker) short
    · intro marker
      have listed : c.toLower ∈ ['e', 'e', 'f', 'f'] := by
        rw [← marker, List.map_cons]
        exact List.mem_append_right _ List.mem_cons_self
      simp [noE, noF] at listed

/-- A marker in any case of letters. -/
def IsMarker (s : List Char) : Prop := s.map Char.toLower = ['e', 'e', 'f', 'f']

theorem IsMarker.not_mem_comma (marker : IsMarker s) : ',' ∉ s := by
  intro listed
  have lower := List.mem_map_of_mem (f := Char.toLower) listed
  rw [marker] at lower
  exact absurd lower (by decide)

theorem IsMarker.isVersionLine (marker : IsMarker s) (behind : List Char) :
    isVersionLine (s ++ behind) = true := by
  have long : s.length = 4 := by simpa using congrArg List.length marker
  cases s with
  | nil => cases long
  | cons c s =>
    have letter : isBlank c = false := by
      rw [← Bool.not_eq_true]
      intro blank
      exact (toLower_of_isBlank blank).1 (List.cons.inj marker).1
    have kept : trimStart (c :: s ++ behind) = c :: s ++ behind :=
      List.dropWhile_cons_of_neg (by simp [letter])
    rw [Text.isVersionLine, kept, List.take_left' long, marker]
    rfl

theorem fields_ne_nil (line : List Char) : fields line ≠ [] := by
  rw [fields, ne_eq, List.map_eq_nil_iff]
  exact List.splitOn_ne_nil ',' _

end Lidar.Text
