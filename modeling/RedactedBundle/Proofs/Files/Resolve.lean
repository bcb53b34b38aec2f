import RedactedBundle.Files.FileSystem
import RedactedBundle.Proofs.Files.Path

/-!
# Paths that lead to one place

A dot among the names of a path, with names behind it, makes no difference to where the path leads,
even across links, and neither does a repeated slash. So what stands in a folder is found by the
path of the folder as it was written and by its trimmed path, as long as neither is too long to be
looked up.

## Main definitions

- `FileSystem.Walk.goOn`: how a walk goes on along further names
- `FileSystem.Stays`: a name that leads nowhere else

## Main statements

- `FileSystem.walk_append`: walking along names and then along more
- `FileSystem.follow_append_stays`: such a name in front of further names can be left out
- `FileSystem.resolve_join_trimmed`: a folder's path and its trimmed path
- `FileSystem.resolve_append_slash`: a name behind a slash, and the same name put behind the path
-/

namespace RedactedBundle.FileSystem

open FileName (slash dot)
open RedactedBundle.Path (names)

variable {fs : FileSystem}

/-! ## Walks in parts -/

/-- How a walk goes on along further names. -/
def Walk.goOn (fs : FileSystem) (more : List FileName) : Walk → Walk
  | .arrived (.existing place _) => fs.walk place more
  | .arrived (.vacant _) => .failed .notFound
  | .failed error => .failed error
  | .link base path left => .link base path (left ++ more)

theorem walk_append (place : Location) (rest : List FileName) {more : List FileName}
    (hmore : more ≠ []) :
    fs.walk place (rest ++ more) = (fs.walk place rest).goOn fs more := by
  induction rest generalizing place with
  | nil =>
    obtain ⟨next, later, rfl⟩ := List.exists_cons_of_ne_nil hmore
    cases hplace : fs.entryAt? place with
    | none => simp [walk, hplace, Walk.goOn]
    | some other =>
      have hstay : fs.walk place [] = .arrived (.existing place other) := by rw [walk, hplace]
      rw [List.nil_append, hstay, Walk.goOn]
  | cons name rest ih =>
    rw [List.cons_append, walk, walk]
    cases hplace : fs.entryAt? place with
    | none => rfl
    | some other =>
      cases other with
      | file bytes executable => rfl
      | locked size => rfl
      | link path => rfl
      | folder rights =>
        dsimp only
        split
        · exact ih place
        split
        · rfl
        split
        · exact ih place
        split
        · exact ih place.dropLast
        split
        · rfl
        cases hthere : fs.entryAt? (place ++ [name]) with
        | none =>
          have hnil : rest ++ more ≠ [] := List.append_ne_nil_of_right_ne_nil rest hmore
          by_cases hrest : rest = []
          · simp only [if_neg hnil, if_pos hrest, Walk.goOn]
          · simp only [if_neg hnil, if_neg hrest, Walk.goOn]
        | some there =>
          cases there with
          | link path => rfl
          | folder rights => exact ih (place ++ [name])
          | file bytes executable => exact ih (place ++ [name])
          | locked size => exact ih (place ++ [name])

/-! ## Names that lead nowhere else -/

/-- A name that a walk passes without leaving the folder that it has come to. -/
def Stays (name : FileName) : Prop := name = [] ∨ name = [dot]

/-- A folder that may not be searched stops the walk either way, since there is a name to look up
behind. -/
theorem walk_cons_stays {stay next : FileName} (hstay : Stays stay) (hnext : next ≠ [])
    (more : List FileName) (place : Location) :
    fs.walk place (stay :: next :: more) = fs.walk place (next :: more) := by
  rw [walk]
  cases hentry : fs.entryAt? place with
  | none => rw [walk, hentry]
  | some entry =>
    cases entry with
    | folder rights =>
      rcases hstay with rfl | rfl
      · exact if_pos rfl
      · by_cases hsearch : rights.searchable
        · simp [hsearch]
        · simp [walk, hentry, hsearch, hnext]
    | _ => rw [walk, hentry]

/-- Walking past such a name or without it comes as far, and what is left to walk behind a link
differs by that name at most. -/
theorem walk_append_stays {stay next : FileName} (hstay : Stays stay) (hnext : next ≠ [])
    (more : List FileName) (place : Location) (front : List FileName) :
    fs.walk place (front ++ stay :: next :: more) = fs.walk place (front ++ next :: more) ∨
      ∃ base target left, fs.walk place (front ++ stay :: next :: more) =
          .link base target (left ++ stay :: next :: more) ∧
        fs.walk place (front ++ next :: more) = .link base target (left ++ next :: more) := by
  rw [walk_append place front (List.cons_ne_nil _ _),
    walk_append place front (List.cons_ne_nil _ _)]
  cases fs.walk place front with
  | arrived target =>
    cases target with
    | existing here entry => exact .inl (walk_cons_stays hstay hnext more here)
    | vacant location => exact .inl rfl
  | failed error => exact .inl rfl
  | link base target left => exact .inr ⟨base, target, left, rfl, rfl⟩

/-- Such a name in front of further names can be left out. -/
theorem follow_append_stays {stay next : FileName} (hstay : Stays stay) (hnext : next ≠ [])
    (more : List FileName) (links : Nat) (place : Location) (front : List FileName) :
    fs.follow links place (front ++ stay :: next :: more) =
      fs.follow links place (front ++ next :: more) := by
  induction links generalizing place front with
  | zero => rfl
  | succ links ih =>
    rw [follow, follow]
    rcases walk_append_stays hstay hnext more place front with
      heq | ⟨base, target, left, hpassed, hplain⟩
    · rw [heq]
    · rw [hpassed, hplain]
      dsimp only
      rw [← List.append_assoc, ← List.append_assoc, ih]

theorem follow_append_dots {next : FileName} (hnext : next ≠ []) (more : List FileName)
    (k links : Nat) (place : Location) (front : List FileName) :
    fs.follow links place (front ++ (List.replicate k [dot] ++ next :: more)) =
      fs.follow links place (front ++ next :: more) := by
  induction k with
  | zero => rfl
  | succ k ih =>
    rw [List.replicate_succ, List.cons_append, ← ih]
    cases k with
    | zero => exact follow_append_stays (.inr rfl) hnext more links place front
    | succ k => exact follow_append_stays (.inr rfl) (List.cons_ne_nil _ _) _ links place front

/-! ## Paths -/

/-- What a look-up depends on: the names, and whether a path is relative and can be looked up at
all. -/
theorem resolve_congr {path path' : Path} (hempty : path.isEmpty = path'.isEmpty)
    (hzero : path.bytes.contains 0 = path'.bytes.contains 0)
    (hlength : path.bytes.length < 4096 ↔ path'.bytes.length < 4096)
    (habsolute : path.isAbsolute = path'.isAbsolute)
    (hfollow : ∀ place, fs.follow (maxLinks + 1) place path.steps =
      fs.follow (maxLinks + 1) place path'.steps) :
    fs.resolve path = fs.resolve path' := by
  rw [resolve, resolve, hempty, hzero, habsolute, hfollow]
  simp only [ge_iff_le, ← Nat.not_lt, hlength]

theorem read_congr {path path' : Path} (h : fs.resolve path = fs.resolve path') :
    fs.read path = fs.read path' := by
  rw [read, read, h]

theorem holds_congr {path path' : Path} (h : fs.resolve path = fs.resolve path') :
    fs.holds path = fs.holds path' := by
  rw [holds, holds, at?, at?, h]

theorem length_lt_of_resolve_eq_ok {path : Path} {arrival : Target}
    (h : fs.resolve path = .ok arrival) : path.bytes.length < 4096 := by
  refine Nat.lt_of_not_le fun hlong => ?_
  rw [resolve] at h
  split at h
  · cases h
  split at h <;> cases h

theorem length_lt_of_read_eq_ok {path : Path} {bytes : List UInt8} (h : fs.read path = .ok bytes) :
    path.bytes.length < 4096 := by
  rw [read] at h
  split at h
  · next hresolve => exact length_lt_of_resolve_eq_ok hresolve
  all_goals cases h

/-- A path that can be read leads to a regular file. -/
theorem isFile_of_read_eq_ok {path : Path} {bytes : List UInt8} (h : fs.read path = .ok bytes) :
    fs.isFile path := by
  rw [read] at h
  rw [isFile, size?, at?]
  split at h <;> simp_all [Entry.size?]

theorem readText_eq_ok_iff {path : Path} {cs : List Char} :
    fs.readText path = .ok cs ↔
      ∃ bytes, fs.read path = .ok bytes ∧ Utf8.decode? bytes = some cs := by
  rw [readText]
  cases fs.read path with
  | error error => simp
  | ok bytes => cases hdecode : Utf8.decode? bytes <;> simp [hdecode]

theorem holds_of_readText_eq_ok {path : Path} {cs : List Char} (h : fs.readText path = .ok cs) :
    fs.holds path := by
  obtain ⟨bytes, hread, -⟩ := readText_eq_ok_iff.mp h
  rw [read] at hread
  rw [holds, at?]
  split at hread
  · next hresolve => rw [hresolve]; rfl
  all_goals cases hread

private theorem contains_zero_eq_false {bytes : List UInt8}
    (h : ∀ b ∈ bytes, b = slash ∨ b = dot) : bytes.contains 0 = false := by
  rw [List.contains_eq_mem, decide_eq_false_iff_not]
  intro hzero
  rcases h 0 hzero with hb | hb <;> exact absurd hb (by decide)

/-- What stands in a folder is found by the folder's trimmed path too, unless only that one is short
enough. -/
theorem resolve_join_trimmed {folder other : Path} (hfolder : folder.bytes ≠ [])
    (hrelative : other.isAbsolute = false) (hnames : names other.bytes ≠ [])
    (hslash : other.bytes.getLast? ≠ some slash)
    (hlength : (folder.trimmed.join other).bytes.length < 4096 →
      (folder.join other).bytes.length < 4096) :
    fs.resolve (folder.join other) = fs.resolve (folder.trimmed.join other) := by
  have hother : other.bytes ≠ [] := fun h => hnames (by rw [h]; rfl)
  have htrimmed : folder.trimmed.bytes ≠ [] := Path.trimmed_bytes_ne_nil hfolder
  obtain ⟨dropped, hdropped, hmem⟩ := Path.exists_trimmed_append folder
  obtain ⟨k, hk⟩ := Path.exists_names_trimmed folder
  refine resolve_congr ?_ ?_ ⟨fun h => ?_, hlength⟩ ?_ fun place => ?_
  · rw [Path.isEmpty_join hrelative hfolder, Path.isEmpty_join hrelative htrimmed]
  · rw [Path.contains_zero_join hrelative, Path.contains_zero_join hrelative, hdropped,
      List.contains_append, contains_zero_eq_false hmem, Bool.or_false]
  · exact Nat.lt_of_le_of_lt (Path.length_join_trimmed_le folder hrelative) h
  · rw [Path.isAbsolute_join hrelative hfolder, Path.isAbsolute_join hrelative htrimmed,
      Path.isAbsolute, Path.isAbsolute, hdropped, List.head?_append_of_ne_nil _ htrimmed]
  · obtain ⟨next, more, hmore⟩ := List.exists_cons_of_ne_nil hnames
    have hnext : next ≠ [] := Path.ne_nil_of_mem_names (hmore ▸ List.mem_cons_self)
    rw [Path.steps_join hrelative hother hslash, Path.steps_join hrelative hother hslash, hk,
      List.append_assoc, hmore, follow_append_dots hnext]

/-- A name is found behind a slash where it is found behind the path, if that is short enough. -/
theorem resolve_append_slash {folder : Path} {name : FileName} (hfolder : folder.bytes ≠ [])
    (hslash : slash ∉ name) (hname : name ≠ [])
    (hlength : (folder.bytes ++ slash :: name).length < 4096) :
    fs.resolve ⟨folder.bytes ++ slash :: name⟩ = fs.resolve (folder.join ⟨name⟩) := by
  have hrelative := Path.isAbsolute_of_slash_not_mem hslash
  have hlast : name.getLast? ≠ some slash := fun hlast => hslash (List.mem_of_getLast? hlast)
  have hsteps : (Path.mk (folder.bytes ++ slash :: name)).steps = names folder.bytes ++ [name] := by
    have hend : (folder.bytes ++ slash :: name).getLast? ≠ some slash := by
      rwa [List.getLast?_append, List.getLast?_cons, List.getLast?_eq_some_getLast hname,
        Option.getD_some, Option.some_or, ← List.getLast?_eq_some_getLast hname]
    rw [Path.steps_eq, if_neg hend, List.append_nil, Path.names_append_slash,
      Path.names_of_not_mem hslash hname]
  refine resolve_congr ?_ ?_ ⟨fun _ => ?_, fun _ => hlength⟩ ?_ fun place => ?_
  · rw [Path.isEmpty_join hrelative hfolder, Path.isEmpty, List.isEmpty_eq_false_iff]
    exact List.append_ne_nil_of_left_ne_nil hfolder _
  · rw [Path.contains_zero_join hrelative, List.contains_append]
    rfl
  · obtain ⟨gap, hgap, hjoin⟩ := Path.exists_join_bytes folder hrelative
    have hgaplength : gap.length ≤ 1 := by rcases hgap with rfl | rfl <;> simp
    rw [hjoin]
    simp only [List.length_append, List.length_cons] at hlength ⊢
    omega
  · rw [Path.isAbsolute_join hrelative hfolder, Path.isAbsolute, Path.isAbsolute,
      List.head?_append_of_ne_nil _ hfolder]
  · rw [hsteps, Path.steps_join_name hslash hname]

end RedactedBundle.FileSystem
