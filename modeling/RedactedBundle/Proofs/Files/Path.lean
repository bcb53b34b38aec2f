import Mathlib.Data.List.Basic
import Mathlib.Data.List.TakeDrop
import RedactedBundle.Files.Path

/-!
# Names along a path

The names along a path put behind another are those of the two, one after the other. A path
without its last name is trimmed of the slashes and single dots that it then ends in; nothing but
such dots is missing from its names.

## Main definitions

- `Path.names`: the names along some bytes
- `Path.trimmed`: a path without slashes and single dots at its end
-/

namespace RedactedBundle.Path

open FileName (slash dot)

/-- The names along some bytes, between slashes. -/
def names (bytes : List UInt8) : List FileName := (splitFrom [] bytes).filter (· ≠ [])

variable {xs ys name : List UInt8} {path other : Path}

/-! ## Splitting at slashes -/

theorem splitFrom_append_slash (current : List UInt8) :
    splitFrom current (xs ++ slash :: ys) = splitFrom current xs ++ splitFrom [] ys := by
  induction xs generalizing current with
  | nil => simp [splitFrom]
  | cons b rest ih =>
    by_cases hb : b = slash
    · simp [splitFrom, hb, ih]
    · simp [splitFrom, hb, ih]

theorem names_append_slash : names (xs ++ slash :: ys) = names xs ++ names ys := by
  rw [names, splitFrom_append_slash, List.filter_append]
  rfl

@[simp] theorem names_nil : names [] = [] := rfl

theorem ne_nil_of_mem_names (h : name ∈ names xs) : name ≠ [] :=
  of_decide_eq_true (List.mem_filter.mp h).2

theorem splitFrom_of_not_mem (h : slash ∉ xs) (current : List UInt8) :
    splitFrom current xs = [current.reverse ++ xs] := by
  induction xs generalizing current with
  | nil => simp [splitFrom]
  | cons b rest ih =>
    rw [List.mem_cons, not_or] at h
    rw [splitFrom, if_neg (Ne.symm h.1), ih h.2]
    simp

theorem names_of_not_mem (h : slash ∉ name) (hne : name ≠ []) : names name = [name] := by
  rw [names, splitFrom_of_not_mem h]
  simp [hne]

/-- The names along a path, with an empty one behind them if it ends in a slash. -/
theorem steps_eq (path : Path) :
    path.steps = names path.bytes ++ if path.bytes.getLast? = some slash then [[]] else [] := by
  rw [steps]
  split <;> simp [names]

/-- The names of a path put behind another one come behind the names of that one. -/
theorem names_join (hrelative : other.isAbsolute = false) :
    names (path.join other).bytes = names path.bytes ++ names other.bytes := by
  rw [join, hrelative]
  simp only [Bool.false_eq_true, if_false]
  split
  · next h =>
    rcases Bool.or_eq_true_iff.mp h with hempty | hslash
    · rw [List.isEmpty_iff.mp hempty]; rfl
    · obtain ⟨front, hfront⟩ := List.getLast?_eq_some_iff.mp (of_decide_eq_true hslash)
      rw [hfront, List.append_assoc, List.singleton_append, names_append_slash, names_append_slash]
      simp
  · exact names_append_slash

/-- A relative path is put behind another one directly or with a slash in between. -/
theorem exists_join_bytes (path : Path) (hrelative : other.isAbsolute = false) :
    ∃ gap, (gap = [] ∨ gap = [slash]) ∧
      (path.join other).bytes = path.bytes ++ (gap ++ other.bytes) := by
  rw [join, hrelative]
  simp only [Bool.false_eq_true, if_false]
  split
  · exact ⟨[], .inl rfl, rfl⟩
  · exact ⟨[slash], .inr rfl, rfl⟩

theorem isEmpty_join (hrelative : other.isAbsolute = false) (hne : path.bytes ≠ []) :
    (path.join other).isEmpty = false := by
  obtain ⟨gap, -, hjoin⟩ := exists_join_bytes path hrelative
  rw [isEmpty, hjoin, List.isEmpty_eq_false_iff]
  exact List.append_ne_nil_of_left_ne_nil hne _

theorem isAbsolute_join (hrelative : other.isAbsolute = false) (hne : path.bytes ≠ []) :
    (path.join other).isAbsolute = path.isAbsolute := by
  obtain ⟨gap, -, hjoin⟩ := exists_join_bytes path hrelative
  rw [isAbsolute, isAbsolute, hjoin, List.head?_append_of_ne_nil _ hne]

theorem contains_zero_join (hrelative : other.isAbsolute = false) :
    (path.join other).bytes.contains 0 = (path.bytes.contains 0 || other.bytes.contains 0) := by
  obtain ⟨gap, hgap, hjoin⟩ := exists_join_bytes path hrelative
  have hzero : gap.contains 0 = false := by rcases hgap with rfl | rfl <;> rfl
  rw [hjoin, List.contains_append, List.contains_append, hzero, Bool.false_or]

theorem isAbsolute_of_slash_not_mem (h : slash ∉ name) : (⟨name⟩ : Path).isAbsolute = false :=
  decide_eq_false fun hhead => h (List.mem_of_mem_head? hhead)

/-- Different names make different paths in a folder. -/
theorem eq_of_join_eq {name' : List UInt8} (hname : slash ∉ name) (hname' : slash ∉ name')
    (h : path.join ⟨name⟩ = path.join ⟨name'⟩) : name = name' := by
  rw [join, join, isAbsolute_of_slash_not_mem hname, isAbsolute_of_slash_not_mem hname'] at h
  simp only [Bool.false_eq_true, if_false] at h
  split at h
  · exact List.append_cancel_left (Path.mk.inj h)
  · exact (List.cons.inj (List.append_cancel_left (Path.mk.inj h))).2

theorem steps_join (hrelative : other.isAbsolute = false) (hne : other.bytes ≠ [])
    (hslash : other.bytes.getLast? ≠ some slash) :
    (path.join other).steps = names path.bytes ++ names other.bytes := by
  have hlast : (path.join other).bytes.getLast? ≠ some slash := by
    obtain ⟨gap, -, hjoin⟩ := exists_join_bytes path hrelative
    have hlast := List.getLast?_eq_some_getLast hne
    rwa [hjoin, List.getLast?_append, List.getLast?_append, hlast, Option.some_or, Option.some_or,
      ← hlast]
  rw [steps_eq, if_neg hlast, List.append_nil, names_join hrelative]

theorem steps_join_name (hslash : slash ∉ name) (hne : name ≠ []) :
    (path.join ⟨name⟩).steps = names path.bytes ++ [name] := by
  have hlast : name.getLast? ≠ some slash := fun hlast => hslash (List.mem_of_getLast? hlast)
  rw [steps_join (isAbsolute_of_slash_not_mem hslash) hne hlast, names_of_not_mem hslash hne]

/-! ## Trimmed paths -/

/-- The path without slashes and single dots at its end. -/
def trimmed (path : Path) : Path := ⟨(trimEnd path.bytes.reverse).reverse⟩

theorem trimEnd_ne_nil {bytes : List UInt8} (h : bytes ≠ []) : trimEnd bytes ≠ [] := by
  fun_induction trimEnd bytes <;> simp_all

/-- What is trimmed off consists of slashes and dots. -/
theorem exists_append_trimEnd (bytes : List UInt8) :
    ∃ dropped, bytes = dropped ++ trimEnd bytes ∧ ∀ b ∈ dropped, b = slash ∨ b = dot := by
  fun_induction trimEnd bytes with
  | case1 => exact ⟨[], rfl, by simp⟩
  | case2 b => exact ⟨[], rfl, by simp⟩
  | case3 c rest ih =>
    obtain ⟨dropped, heq, hdropped⟩ := ih
    exact ⟨slash :: dropped, by rw [List.cons_append, ← heq], by simpa using hdropped⟩
  | case4 b c rest hb hdot ih =>
    obtain ⟨dropped, heq, hdropped⟩ := ih
    have hb : b = dot := by simp_all
    exact ⟨b :: dropped, by rw [List.cons_append, ← heq], by simpa [hb] using hdropped⟩
  | case5 => exact ⟨[], rfl, by simp⟩

/-- Of the names, nothing but dots at the end is trimmed off. -/
theorem exists_names_trimEnd (bytes : List UInt8) :
    ∃ k, names bytes.reverse = names (trimEnd bytes).reverse ++ List.replicate k [dot] := by
  fun_induction trimEnd bytes with
  | case1 => exact ⟨0, rfl⟩
  | case2 b => exact ⟨0, by simp⟩
  | case3 c rest ih =>
    obtain ⟨k, ih⟩ := ih
    refine ⟨k, ?_⟩
    rw [List.reverse_cons, names_append_slash, ih]
    simp
  | case4 b c rest hb hdot ih =>
    obtain ⟨k, ih⟩ := ih
    obtain ⟨rfl, rfl⟩ : b = dot ∧ c = slash := by simpa using hdot
    refine ⟨k + 1, ?_⟩
    rw [List.reverse_cons, names_append_slash, names_nil, List.append_nil] at ih
    have hdot : names [dot] = [[dot]] := names_of_not_mem (by decide) (by decide)
    rw [List.reverse_cons, List.reverse_cons, List.append_assoc, List.singleton_append,
      names_append_slash, hdot, ih, List.append_assoc, ← List.replicate_succ']
  | case5 => exact ⟨0, by simp⟩

theorem exists_names_trimmed (path : Path) :
    ∃ k, names path.bytes = names path.trimmed.bytes ++ List.replicate k [dot] := by
  obtain ⟨k, hk⟩ := exists_names_trimEnd path.bytes.reverse
  exact ⟨k, by simpa [trimmed] using hk⟩

/-- A trimmed path is the beginning of the path; what follows consists of slashes and dots. -/
theorem exists_trimmed_append (path : Path) :
    ∃ dropped, path.bytes = path.trimmed.bytes ++ dropped ∧ ∀ b ∈ dropped, b = slash ∨ b = dot := by
  obtain ⟨dropped, heq, hdropped⟩ := exists_append_trimEnd path.bytes.reverse
  refine ⟨dropped.reverse, ?_, fun b hb => hdropped b (List.mem_reverse.mp hb)⟩
  rw [trimmed, ← List.reverse_append, ← heq, List.reverse_reverse]

theorem trimmed_bytes_ne_nil (h : path.bytes ≠ []) : path.trimmed.bytes ≠ [] := by
  simpa [trimmed] using trimEnd_ne_nil (List.reverse_ne_nil_iff.mpr h)

/-- Trimming does not make the paths of what stands in a folder longer. -/
theorem length_join_trimmed_le (path : Path) (hrelative : other.isAbsolute = false) :
    (path.trimmed.join other).bytes.length ≤ (path.join other).bytes.length := by
  obtain ⟨dropped, hdropped, -⟩ := exists_trimmed_append path
  cases dropped with
  | nil =>
    rw [List.append_nil] at hdropped
    have heq : path = path.trimmed := by cases path; rw [Path.mk.injEq]; exact hdropped
    exact Nat.le_of_eq (by rw [← heq])
  | cons b rest =>
    obtain ⟨gap, -, hjoin⟩ := exists_join_bytes path hrelative
    obtain ⟨gap', hgap', hjoin'⟩ := exists_join_bytes path.trimmed hrelative
    have hlength : gap'.length ≤ 1 := by rcases hgap' with rfl | rfl <;> simp
    rw [hjoin, hjoin', hdropped]
    simp only [List.length_append, List.length_cons]
    omega

/-- The path without the name behind its last slash is the trimmed path in front of that slash. -/
theorem parent?_append_slash (hpath : path.bytes ≠ []) (hslash : slash ∉ name) (hne : name ≠ [])
    (hdot : name ≠ [dot]) : parent? ⟨path.bytes ++ slash :: name⟩ = some path.trimmed := by
  obtain ⟨last, front, hname⟩ : ∃ last front, name.reverse = last :: front :=
    List.exists_cons_of_ne_nil (List.reverse_ne_nil_iff.mpr hne)
  have hlast : last ≠ slash := fun h =>
    hslash (List.mem_reverse.mp (hname ▸ h ▸ List.mem_cons_self))
  have htrim : trimEnd (name.reverse ++ slash :: path.bytes.reverse) =
      name.reverse ++ slash :: path.bytes.reverse := by
    rw [hname]
    cases front with
    | nil =>
      have hlastdot : last ≠ dot := fun h => hdot (by
        rw [← List.reverse_reverse name, hname, h]; rfl)
      simp [trimEnd, hlast, hlastdot]
    | cons next front =>
      have hnext : next ≠ slash := fun h =>
        hslash (List.mem_reverse.mp (hname ▸ h ▸ List.mem_cons_of_mem _ List.mem_cons_self))
      simp [trimEnd, hlast, hnext]
  have hcut : cutLast ⟨path.bytes ++ slash :: name⟩ =
      (name.reverse, slash :: path.bytes.reverse) := by
    rw [cutLast, List.reverse_append, List.reverse_cons, List.append_assoc, List.singleton_append,
      htrim, List.span_eq_takeWhile_dropWhile]
    have hall : ∀ b ∈ name.reverse, decide (b ≠ slash) = true := by
      intro b hb
      exact decide_eq_true fun h => hslash (List.mem_reverse.mp (h ▸ hb))
    rw [List.takeWhile_append_of_pos hall, List.dropWhile_append_of_pos hall]
    simp
  obtain ⟨first, rest, hbytes⟩ := List.exists_cons_of_ne_nil (List.reverse_ne_nil_iff.mpr hpath)
  rw [parent?, hcut, hname]
  simp [trimmed, hbytes, trimEnd]

end RedactedBundle.Path
