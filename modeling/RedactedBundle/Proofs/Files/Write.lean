import RedactedBundle.Files.FileSystem
import RedactedBundle.Proofs.Results

/-!
# Reading back what was written

A file is written at the location that its path leads to, and no path leads through that location.
So after writing, each path leads to the file that was written, or to where it led before.

## Main definitions

- `FileSystem.Passes`: a walk gets past its next name
- `FileSystem.Writable`: a location at which a file can be put
- `FileSystem.LeadsWithPut`: where a path leads to before and after a file was put

## Main statements

- `FileSystem.exists_walk_eq_failed`: a walk that does not pass its next name fails
- `FileSystem.walk_put`, `FileSystem.follow_put`, `FileSystem.resolve_put`: ways before and after a
  file was put
- `FileSystem.read_of_write_eq_ok`: what was written is read back
- `FileSystem.exists_target_of_write_eq_ok`: all else stays as it was
- `FileSystem.write_of_write_eq_ok`: writing the same again changes nothing
-/

namespace RedactedBundle.FileSystem

open FileName (dot)

/-- A way ends at a location, be it that something stands there or nothing. -/
def Target.location : Target → Location
  | .existing location _ => location
  | .vacant location => location

variable {fs : FileSystem} {location : Location} {entry : Entry}

/-! ## Entries -/

theorem find?_putEntry (location place : Location) (entry : Entry)
    (entries : List (Location × Entry)) :
    ((putEntry location entry entries).find? (·.1 = place)).map Prod.snd =
      if place = location then some entry else (entries.find? (·.1 = place)).map Prod.snd := by
  induction entries with
  | nil => by_cases h : place = location <;> simp [putEntry, h, eq_comm]
  | cons other rest ih =>
    rw [putEntry]
    by_cases hother : other.1 = location
    · rw [if_pos hother]
      by_cases h : place = location
      · simp [h]
      · simp [h, hother, Ne.symm h]
    · rw [if_neg hother]
      by_cases h : other.1 = place
      · simp [h, h ▸ hother]
      · simpa [h] using ih

theorem entryAt?_put (hlocation : location ≠ []) (place : Location) :
    (fs.put location entry).entryAt? place =
      if place = location then some entry else fs.entryAt? place := by
  have hfind := find?_putEntry location place entry fs.entries
  by_cases hplace : place = location
  · rw [if_pos hplace] at hfind ⊢
    rw [entryAt?, if_neg (hplace ▸ hlocation)]
    exact hfind
  · rw [if_neg hplace] at hfind ⊢
    rw [entryAt?, entryAt?, ← hfind]
    rfl

/-! ## Single steps of a walk -/

section Step

variable {place : Location} {name : FileName} {rest : List FileName} {other : Entry}
  {rights : FolderRights} (hfolder : fs.entryAt? place = some (.folder rights))

include hfolder in
theorem walk_empty : fs.walk place ([] :: rest) = fs.walk place rest := by
  rw [walk, hfolder]
  exact if_pos rfl

include hfolder in
theorem walk_of_not_searchable (hsearch : ¬ rights.searchable) (hname : name ≠ []) :
    fs.walk place (name :: rest) = .failed .denied := by
  rw [walk, hfolder]
  simp only [if_neg hname, hsearch, Bool.not_false, if_true]

variable (hsearch : rights.searchable)

include hfolder hsearch

theorem walk_dot : fs.walk place ([dot] :: rest) = fs.walk place rest := by
  simp [walk, hfolder, hsearch]

theorem walk_dots : fs.walk place ([dot, dot] :: rest) = fs.walk place.dropLast rest := by
  simp [walk, hfolder, hsearch]

/-- A name that something in a folder can have. -/
structure IsProper (name : FileName) : Prop where
  ne_nil : name ≠ []
  ne_dot : name ≠ [dot]
  ne_dots : name ≠ [dot, dot]
  length_le : ¬name.length > 255

variable (hname : IsProper name)

include hname

theorem walk_of_proper :
    fs.walk place (name :: rest) =
      match fs.entryAt? (place ++ [name]) with
      | some (.link target) => .link place target rest
      | some _ => fs.walk (place ++ [name]) rest
      | none => if rest = [] then .arrived (.vacant (place ++ [name])) else .failed .notFound := by
  have hwalk := walk.eq_2 fs place name rest
  rw [hfolder] at hwalk
  simp only [if_neg hname.ne_nil, hsearch, Bool.not_true, Bool.false_eq_true, if_false,
    if_neg hname.ne_dot, if_neg hname.ne_dots, if_neg hname.length_le] at hwalk
  exact hwalk

theorem walk_of_link {path : Path} (h : fs.entryAt? (place ++ [name]) = some (.link path)) :
    fs.walk place (name :: rest) = .link place path rest := by
  rw [walk_of_proper hfolder hsearch hname, h]

theorem walk_of_not_link (h : fs.entryAt? (place ++ [name]) = some other)
    (hother : ∀ path, other ≠ .link path) :
    fs.walk place (name :: rest) = fs.walk (place ++ [name]) rest := by
  rw [walk_of_proper hfolder hsearch hname, h]
  cases other with
  | link path => exact absurd rfl (hother path)
  | _ => rfl

theorem walk_of_vacant (h : fs.entryAt? (place ++ [name]) = none) :
    fs.walk place (name :: rest) =
      if rest = [] then .arrived (.vacant (place ++ [name])) else .failed .notFound := by
  rw [walk_of_proper hfolder hsearch hname, h]

end Step

/-- A file ends every walk that comes to it. -/
theorem walk_of_regular {place : Location} (h : fs.entryAt? place = some entry)
    (hentry : entry.size?.isSome) (names : List FileName) :
    fs.walk place names =
      if names = [] then .arrived (.existing place entry) else .failed .notAFolder := by
  cases names with
  | nil => rw [walk, h, if_pos rfl]
  | cons name rest =>
    rw [walk, h, if_neg (List.cons_ne_nil name rest)]
    cases entry with
    | folder rights => cases hentry
    | _ => rfl

/-- A walk passes an empty name in any folder, and in one that may be searched the dots and proper
names. -/
def Passes (fs : FileSystem) (place : Location) (name : FileName) : Prop :=
  ∃ rights, fs.entryAt? place = some (.folder rights) ∧
    (name = [] ∨ rights.searchable ∧ (name = [dot] ∨ name = [dot, dot] ∨ IsProper name))

theorem exists_walk_eq_failed {place : Location} {name : FileName} (h : ¬ fs.Passes place name)
    (rest : List FileName) : ∃ error, fs.walk place (name :: rest) = .failed error := by
  cases hplace : fs.entryAt? place with
  | none => exact ⟨.notFound, by rw [walk, hplace]⟩
  | some other =>
    cases other with
    | folder rights =>
      obtain ⟨hname, hstops⟩ := not_or.mp fun hpasses => h ⟨rights, hplace, hpasses⟩
      by_cases hsearch : rights.searchable
      · obtain ⟨hdot, hrest⟩ := not_or.mp fun hpasses => hstops ⟨hsearch, hpasses⟩
        obtain ⟨hdots, himproper⟩ := not_or.mp hrest
        have hlong : name.length > 255 :=
          Decidable.not_not.mp fun hlength => himproper ⟨hname, hdot, hdots, hlength⟩
        exact ⟨.nameTooLong, by rw [walk, hplace]; simp [hname, hsearch, hdot, hdots, hlong]⟩
      · exact ⟨.denied, walk_of_not_searchable hplace hsearch hname⟩
    | _ => exact ⟨.notAFolder, by rw [walk, hplace]⟩

/-! ## What stands at the end of a way -/

/-- A target that a way leads to is what stands at its location. -/
def IsTarget (fs : FileSystem) : Target → Prop
  | .existing location entry => fs.entryAt? location = some entry
  | .vacant location => location ≠ [] ∧ fs.entryAt? location = none

theorem isTarget_of_walk {place : Location} {names : List FileName} {target : Target}
    (h : fs.walk place names = .arrived target) : fs.IsTarget target := by
  induction names generalizing place with
  | nil =>
    rw [walk] at h
    cases hentry : fs.entryAt? place with
    | none => rw [hentry] at h; cases h
    | some entry => rw [hentry] at h; cases h; exact hentry
  | cons name rest ih =>
    by_cases hpasses : fs.Passes place name
    case neg =>
      obtain ⟨error, herror⟩ := exists_walk_eq_failed hpasses rest
      rw [herror] at h
      cases h
    obtain ⟨rights, hfolder, rfl | ⟨hsearch, rfl | rfl | hname⟩⟩ := hpasses
    · rw [walk_empty hfolder] at h; exact ih h
    · rw [walk_dot hfolder hsearch] at h; exact ih h
    · rw [walk_dots hfolder hsearch] at h; exact ih h
    cases hthere : fs.entryAt? (place ++ [name]) with
    | none =>
      rw [walk_of_vacant hfolder hsearch hname hthere] at h
      split at h
      · cases h; exact ⟨by simp, hthere⟩
      · cases h
    | some other =>
      by_cases hlink : ∃ path, other = .link path
      · obtain ⟨path, rfl⟩ := hlink
        rw [walk_of_link hfolder hsearch hname hthere] at h
        cases h
      · rw [walk_of_not_link hfolder hsearch hname hthere (not_exists.mp hlink)] at h
        exact ih h

theorem isTarget_of_follow {links : Nat} {place : Location} {names : List FileName}
    {target : Target} (h : fs.follow links place names = .ok target) : fs.IsTarget target := by
  induction links generalizing place names with
  | zero => cases h
  | succ links ih =>
    rw [follow] at h
    split at h
    · next hwalk => cases h; exact isTarget_of_walk hwalk
    · cases h
    · split at h
      · cases h
      · exact ih h

/-! ## Putting a file -/

section Put

/-- A file can be put at a location: what stands there is no folder and no link. -/
structure Writable (fs : FileSystem) (location : Location) : Prop where
  ne_root : location ≠ []
  regular : ∀ other, fs.entryAt? location = some other → other.size?.isSome

variable (hwritable : fs.Writable location) (hentry : entry.size?.isSome)

include hwritable in
theorem entryAt?_put_of_not_regular {place : Location} {other : Entry}
    (hother : other.size? = none) (h : fs.entryAt? place = some other) :
    (fs.put location entry).entryAt? place = some other := by
  have hne : place ≠ location := by
    rintro rfl
    simpa [hother] using hwritable.regular other h
  rw [entryAt?_put hwritable.ne_root, if_neg hne, h]

include hwritable hentry in
/-- A file that was put lets no walk pass that did not pass before. -/
theorem passes_of_passes_put {place : Location} {name : FileName}
    (h : (fs.put location entry).Passes place name) : fs.Passes place name := by
  obtain ⟨rights, hfolder, hname⟩ := h
  rw [entryAt?_put hwritable.ne_root] at hfolder
  split at hfolder
  · cases hfolder
    cases hentry
  · exact ⟨rights, hfolder, hname⟩

include hentry in
theorem ne_link_of_isSome_size? (path : Path) : entry ≠ .link path := by
  rintro rfl
  cases hentry

/-- How a walk ends before and after an entry was put at a location: it comes to the entry, having
come to the location or nowhere before; or it ends as before; or it fails both times. -/
inductive Walk.WithPut (location : Location) (entry : Entry) : Walk → Walk → Prop where
  | there (target : Target) (came : target.location = location) :
    WithPut location entry (.arrived target) (.arrived (.existing location entry))
  | nowhere (error : AccessError) :
    WithPut location entry (.failed error) (.arrived (.existing location entry))
  | same (walk : Walk) : WithPut location entry walk walk
  | failed (error error' : AccessError) :
    WithPut location entry (.failed error) (.failed error')

include hwritable hentry in
theorem walk_put (place : Location) (names : List FileName) :
    Walk.WithPut location entry (fs.walk place names)
      ((fs.put location entry).walk place names) := by
  have hput (other : Location) : (fs.put location entry).entryAt? other =
      if other = location then some entry else fs.entryAt? other :=
    entryAt?_put hwritable.ne_root other
  induction names generalizing place with
  | nil =>
    rw [walk, walk, hput]
    by_cases hplace : place = location
    · rw [if_pos hplace, hplace]
      cases fs.entryAt? location with
      | none => exact .nowhere _
      | some other => exact .there (.existing location other) rfl
    · rw [if_neg hplace]
      exact .same _
  | cons name rest ih =>
    by_cases hpasses : fs.Passes place name
    case neg =>
      obtain ⟨error, herror⟩ := exists_walk_eq_failed hpasses rest
      have hpasses' : ¬ (fs.put location entry).Passes place name :=
        mt (passes_of_passes_put hwritable hentry) hpasses
      obtain ⟨error', herror'⟩ := exists_walk_eq_failed hpasses' rest
      rw [herror, herror']
      exact .failed error error'
    obtain ⟨rights, hfolder, hname⟩ := hpasses
    have hfolder' : (fs.put location entry).entryAt? place = some (.folder rights) :=
      entryAt?_put_of_not_regular hwritable rfl hfolder
    rcases hname with rfl | ⟨hsearch, rfl | rfl | hname⟩
    · rw [walk_empty hfolder, walk_empty hfolder']
      exact ih place
    · rw [walk_dot hfolder hsearch, walk_dot hfolder' hsearch]
      exact ih place
    · rw [walk_dots hfolder hsearch, walk_dots hfolder' hsearch]
      exact ih place.dropLast
    by_cases hnext : place ++ [name] = location
    · -- The way comes by the location, where now a file stands.
      have hthere' := (hput (place ++ [name])).trans (if_pos hnext)
      rw [walk_of_not_link hfolder' hsearch hname hthere' (ne_link_of_isSome_size? hentry),
        walk_of_regular hthere' hentry, hnext]
      cases hthere : fs.entryAt? (place ++ [name]) with
      | none =>
        rw [walk_of_vacant hfolder hsearch hname hthere]
        split
        · exact .there _ hnext
        · exact .failed _ _
      | some other =>
        have hregular := hwritable.regular other (hnext ▸ hthere)
        rw [walk_of_not_link hfolder hsearch hname hthere (ne_link_of_isSome_size? hregular),
          walk_of_regular hthere hregular]
        split
        · exact .there _ hnext
        · exact .failed _ _
    · have hsame := (hput (place ++ [name])).trans (if_neg hnext)
      cases hthere : fs.entryAt? (place ++ [name]) with
      | none =>
        rw [walk_of_vacant hfolder hsearch hname hthere,
          walk_of_vacant hfolder' hsearch hname (hsame.trans hthere)]
        exact .same _
      | some other =>
        by_cases hlink : ∃ path, other = .link path
        · obtain ⟨path, rfl⟩ := hlink
          rw [walk_of_link hfolder hsearch hname hthere,
            walk_of_link hfolder' hsearch hname (hsame.trans hthere)]
          exact .same _
        · have hother := not_exists.mp hlink
          rw [walk_of_not_link hfolder hsearch hname hthere hother,
            walk_of_not_link hfolder' hsearch hname (hsame.trans hthere) hother]
          exact ih (place ++ [name])

/-- Where a way leads to before and after an entry was put at a location: to the entry, having led
to the location or nowhere before; or to where it led before. -/
def LeadsWithPut (location : Location) (entry : Entry) (before after : Option Target) : Prop :=
  after = some (.existing location entry) ∧ (∀ target ∈ before, target.location = location) ∨
    after = before

include hwritable hentry in
theorem follow_put (links : Nat) (place : Location) (names : List FileName) :
    LeadsWithPut location entry (fs.follow links place names).toOption
      ((fs.put location entry).follow links place names).toOption := by
  induction links generalizing place names with
  | zero => exact .inr rfl
  | succ links ih =>
    have hwalk := walk_put hwritable hentry place names
    rw [follow, follow]
    generalize fs.walk place names = before at hwalk ⊢
    generalize (fs.put location entry).walk place names = after at hwalk ⊢
    cases hwalk with
    | there target came => exact .inl ⟨rfl, fun other hother => Option.some.inj hother ▸ came⟩
    | nowhere error => exact .inl ⟨rfl, fun other hother => by cases hother⟩
    | failed error error' => exact .inr rfl
    | same =>
      cases before with
      | arrived target => exact .inr rfl
      | failed error => exact .inr rfl
      | link base target rest =>
        dsimp only
        split
        · exact .inr rfl
        · exact ih _ _

include hwritable hentry in
/-- With a file put at a location, a path leads to that file, or to where it led before. -/
theorem resolve_put (path : Path) :
    LeadsWithPut location entry (fs.resolve path).toOption
      ((fs.put location entry).resolve path).toOption := by
  rw [resolve, resolve]
  split
  · exact .inr rfl
  split
  · exact .inr rfl
  split
  · exact .inr rfl
  · exact follow_put hwritable hentry _ _ _

end Put

/-! ## Writing -/

variable {path : Path} {bytes : List UInt8} {written : FileSystem}

theorem isTarget_of_resolve {target : Target} (h : fs.resolve path = .ok target) :
    fs.IsTarget target := by
  rw [resolve] at h
  split at h
  · cases h
  split at h
  · cases h
  split at h
  · cases h
  · exact isTarget_of_follow h

theorem IsTarget.writable_of_file {bytes : List UInt8} {executable : Bool}
    (h : fs.IsTarget (.existing location (.file bytes executable))) : fs.Writable location := by
  refine ⟨?_, fun other hother => ?_⟩
  · rintro rfl
    cases h
  · cases (h : fs.entryAt? location = _).symm.trans hother
    rfl

theorem IsTarget.writable_of_vacant (h : fs.IsTarget (.vacant location)) : fs.Writable location :=
  ⟨h.1, fun other hother => by cases h.2.symm.trans hother⟩

/-- Writing puts a file where the path leads to. A path that ends in a slash is never written. -/
theorem exists_put_of_write_eq_ok (h : fs.write path bytes = .ok written) :
    path.bytes.getLast? ≠ some FileName.slash ∧
      ∃ target executable, fs.resolve path = .ok target ∧ fs.Writable target.location ∧
        written = fs.put target.location (.file bytes executable) := by
  rw [write] at h
  split at h
  · split at h <;> cases h
  next hslash =>
  refine ⟨hslash, ?_⟩
  split at h
  · next hresolve =>
    cases h
    exact ⟨_, _, hresolve, (isTarget_of_resolve hresolve).writable_of_file, rfl⟩
  · cases h
  · cases h
  · next hresolve =>
    split at h
    · cases h
      exact ⟨_, _, hresolve, (isTarget_of_resolve hresolve).writable_of_vacant, rfl⟩
    · cases h
  · cases h

/-- What stands at a location is all that a path there can lead to. -/
theorem IsTarget.eq_existing {target : Target} (h : fs.IsTarget target)
    (hentry : fs.entryAt? target.location = some entry) :
    target = .existing target.location entry := by
  cases target with
  | existing place other =>
    have hother : fs.entryAt? place = some other := h
    rw [Option.some.inj (hother.symm.trans hentry)]
    rfl
  | vacant place => cases h.2.symm.trans hentry

/-- With a file put where a path leads to, the path leads to that file. -/
theorem resolve_put_self {target : Target} (hresolve : fs.resolve path = .ok target)
    (hwritable : fs.Writable target.location) (hentry : entry.size?.isSome) :
    (fs.put target.location entry).resolve path = .ok (.existing target.location entry) := by
  rcases resolve_put hwritable hentry path with ⟨hthere, -⟩ | hsame
  · exact toOption_eq_some_iff.mp hthere
  · have hresolve' : (fs.put target.location entry).resolve path = .ok target := by
      rw [hresolve] at hsame
      exact toOption_eq_some_iff.mp hsame
    have hthere : (fs.put target.location entry).entryAt? target.location = some entry := by
      rw [entryAt?_put hwritable.ne_root, if_pos rfl]
    rw [hresolve', ← (isTarget_of_resolve hresolve').eq_existing hthere]

/-- After writing, a path leads to the file that was written, or to where it led before. -/
theorem exists_leadsWithPut_of_write_eq_ok (h : fs.write path bytes = .ok written) :
    ∃ location executable, fs.Writable location ∧
      written = fs.put location (.file bytes executable) ∧
      written.resolve path = .ok (.existing location (.file bytes executable)) ∧
      ∀ other, LeadsWithPut location (.file bytes executable) (fs.resolve other).toOption
        (written.resolve other).toOption := by
  obtain ⟨-, target, executable, hresolve, hwritable, rfl⟩ := exists_put_of_write_eq_ok h
  exact ⟨target.location, executable, hwritable, rfl, resolve_put_self hresolve hwritable rfl,
    resolve_put hwritable rfl⟩

/-- What was written at a path is read back from it. -/
theorem read_of_write_eq_ok (h : fs.write path bytes = .ok written) :
    written.read path = .ok bytes := by
  obtain ⟨-, target, executable, hresolve, hwritable, rfl⟩ := exists_put_of_write_eq_ok h
  rw [read, resolve_put_self hresolve hwritable rfl]

/-- Writing changes only what stands where the path leads to. -/
theorem exists_target_of_write_eq_ok (h : fs.write path bytes = .ok written) :
    ∃ target, fs.resolve path = .ok target ∧ written.working = fs.working ∧
      ∀ location, location ≠ target.location →
        written.entryAt? location = fs.entryAt? location := by
  obtain ⟨-, target, executable, hresolve, hwritable, rfl⟩ := exists_put_of_write_eq_ok h
  refine ⟨target, hresolve, rfl, fun location hne => ?_⟩
  rw [entryAt?_put hwritable.ne_root, if_neg hne]

theorem putEntry_putEntry (location : Location) (entry other : Entry)
    (entries : List (Location × Entry)) :
    putEntry location other (putEntry location entry entries) =
      putEntry location other entries := by
  induction entries with
  | nil => simp [putEntry]
  | cons first rest ih =>
    by_cases hfirst : first.1 = location
    · simp [putEntry, hfirst]
    · simp [putEntry, hfirst, ih]

/-- Writing the same again changes nothing. -/
theorem write_of_write_eq_ok (h : fs.write path bytes = .ok written) :
    written.write path bytes = .ok written := by
  obtain ⟨hslash, target, executable, hresolve, hwritable, rfl⟩ := exists_put_of_write_eq_ok h
  rw [write, if_neg hslash, resolve_put_self hresolve hwritable rfl]
  simp only [put, putEntry_putEntry]

end RedactedBundle.FileSystem
