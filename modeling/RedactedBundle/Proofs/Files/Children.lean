import RedactedBundle.Proofs.Files.Frame

/-!
# What stands in a folder

If one entry at most stands at each location, what a folder holds is what stands at the locations in
it, under one name each. What stands in a folder is found by the path of the folder with the name
behind it.

## Main definitions

- `FileSystem.IsEntryName`: a name of an entry in a folder
- `FileSystem.Unambiguous`: one entry at most stands at a location

## Main statements

- `FileSystem.Unambiguous.mem_list_iff`: what a folder holds
- `FileSystem.resolve_join`: what is found by a path in a folder
-/

namespace RedactedBundle.FileSystem

open FileName (slash dot)
open RedactedBundle.Path (names)

variable {fs : FileSystem} {root : Path} {place target : Location} {name : FileName}
  {entry other : Entry} {rest : List FileName}

/-- A name of an entry in a folder. A path that holds it can be split and looked up. -/
structure IsEntryName (name : FileName) : Prop extends IsProper name where
  slash_not_mem : slash ∉ name
  zero_not_mem : 0 ∉ name

instance : Decidable (IsEntryName name) :=
  decidable_of_iff (name ≠ [] ∧ name ≠ [dot] ∧ name ≠ [dot, dot] ∧ ¬name.length > 255 ∧
      slash ∉ name ∧ 0 ∉ name)
    ⟨fun ⟨hne, hdot, hdots, hlength, hslash, hzero⟩ =>
        ⟨⟨hne, hdot, hdots, hlength⟩, hslash, hzero⟩,
      fun h => ⟨h.ne_nil, h.ne_dot, h.ne_dots, h.length_le, h.slash_not_mem, h.zero_not_mem⟩⟩

/-- One entry at most stands at a location, and its names are such as entries have. -/
structure Unambiguous (fs : FileSystem) : Prop where
  nodup : (fs.entries.map Prod.fst).Nodup
  isEntryName : ∀ child ∈ fs.entries, ∀ name ∈ child.1, IsEntryName name

/-! ## The names in a folder -/

/-- What a folder takes of what stands at a location: its name, if the location is in the folder. -/
def childIn? (place : Location) (located : Location × Entry) : Option (FileName × Entry) :=
  match located.1.getLast? with
  | some name => if located.1.dropLast = place then some (name, located.2) else none
  | none => none

theorem children_eq (place : Location) :
    fs.children place = fs.entries.filterMap (childIn? place) := rfl

theorem childIn?_eq_some_iff {location : Location} :
    childIn? place (location, entry) = some (name, other) ↔
      location = place ++ [name] ∧ entry = other := by
  rw [childIn?]
  constructor
  · intro h
    split at h
    · next hlast =>
      obtain ⟨front, rfl⟩ := List.getLast?_eq_some_iff.mp hlast
      rw [List.dropLast_concat] at h
      split at h
      · next hplace =>
        cases h
        exact ⟨hplace ▸ rfl, rfl⟩
      · cases h
    · cases h
  · rintro ⟨rfl, rfl⟩
    simp

theorem mem_children_iff :
    (name, entry) ∈ fs.children place ↔ (place ++ [name], entry) ∈ fs.entries := by
  rw [children_eq, List.mem_filterMap]
  constructor
  · rintro ⟨⟨location, other⟩, hmem, hchild⟩
    obtain ⟨rfl, rfl⟩ := childIn?_eq_some_iff.mp hchild
    exact hmem
  · exact fun hmem => ⟨_, hmem, childIn?_eq_some_iff.mpr ⟨rfl, rfl⟩⟩

theorem Unambiguous.find?_eq_some_iff (h : fs.Unambiguous) {location : Location} :
    (fs.entries.find? (·.1 = location)).map Prod.snd = some entry ↔
      (location, entry) ∈ fs.entries := by
  constructor
  · intro hfind
    obtain ⟨⟨place, other⟩, hother, rfl⟩ := Option.map_eq_some_iff.mp hfind
    obtain rfl : place = location := by simpa using List.find?_some hother
    exact List.mem_of_find?_eq_some hother
  · intro hmem
    obtain ⟨found, hfound⟩ : ∃ found, fs.entries.find? (·.1 = location) = some found :=
      Option.isSome_iff_exists.mp (List.find?_isSome.mpr ⟨_, hmem, decide_eq_true rfl⟩)
    have hplace : found.1 = location := by simpa using List.find?_some hfound
    rw [hfound, List.inj_on_of_nodup_map h.nodup (List.mem_of_find?_eq_some hfound) hmem hplace]
    rfl

theorem Unambiguous.entryAt?_eq_some_iff (h : fs.Unambiguous) {location : Location}
    (hne : location ≠ []) : fs.entryAt? location = some entry ↔ (location, entry) ∈ fs.entries := by
  rw [entryAt?, if_neg hne]
  exact h.find?_eq_some_iff

/-- What a folder holds, if it may be listed, is what stands at the locations in it. -/
theorem Unambiguous.mem_list_iff (h : fs.Unambiguous) {rights : FolderRights}
    (hroot : fs.resolve root = .ok (.existing place (.folder rights))) :
    (name, entry) ∈ fs.list root ↔
      rights.readable ∧ fs.entryAt? (place ++ [name]) = some entry := by
  rw [list, hroot, h.entryAt?_eq_some_iff (by simp), ← mem_children_iff]
  dsimp only
  split <;> simp_all

/-- Each name stands once in a folder. -/
theorem Unambiguous.nodup_list (h : fs.Unambiguous) (root : Path) :
    ((fs.list root).map Prod.fst).Nodup := by
  rw [list]
  split
  · split
    · rw [children_eq]
      refine List.pairwise_map.mpr (List.pairwise_filterMap.mpr ?_)
      refine (List.pairwise_map.mp h.nodup).imp ?_
      -- Locations in one folder differ in their last names.
      rintro ⟨location, entry⟩ ⟨location', entry'⟩ hne ⟨name, child⟩ hchild ⟨name', child'⟩ hchild'
      rintro rfl
      obtain ⟨rfl, -⟩ := childIn?_eq_some_iff.mp hchild
      obtain ⟨rfl, -⟩ := childIn?_eq_some_iff.mp hchild'
      exact hne rfl
    · exact List.nodup_nil
  · exact List.nodup_nil

theorem Unambiguous.isEntryName_of_mem_list (h : fs.Unambiguous) (root : Path) :
    ∀ child ∈ fs.list root, IsEntryName child.1 := by
  rintro ⟨name, entry⟩ hchild
  rw [list] at hchild
  split at hchild
  · split at hchild
    · exact h.isEntryName _ (mem_children_iff.mp hchild) name (by simp)
    · cases hchild
  · cases hchild

theorem Unambiguous.isEntryName_of_entryAt?_eq_some (h : fs.Unambiguous)
    (hentry : fs.entryAt? (place ++ [name]) = some entry) : IsEntryName name :=
  h.isEntryName _ ((h.entryAt?_eq_some_iff (by simp)).mp hentry) name (by simp)

/-! ## Paths in a folder -/

/-- How a walk that meets no link ends. -/
def Walk.ended? : Walk → Option (Except AccessError Target)
  | .arrived target => some (.ok target)
  | .failed error => some (.error error)
  | .link .. => none

section Way

variable {links : Nat} {more : List FileName} {rights : FolderRights}
  {result : Except AccessError Target} (hmore : (fs.walk target more).ended? = some result)

include hmore

theorem follow_of_ended? : fs.follow (links + 1) target more = result := by
  rw [follow]
  cases hwalk : fs.walk target more with
  | arrived arrival => rw [hwalk] at hmore; exact Option.some.inj hmore
  | failed error => rw [hwalk] at hmore; exact Option.some.inj hmore
  | link base path left => rw [hwalk] at hmore; cases hmore

/-- A way that leads to a folder, across links or not, goes on from there. -/
theorem follow_append (hne : more ≠ [])
    (h : fs.follow links place rest = .ok (.existing target (.folder rights))) :
    fs.follow links place (rest ++ more) = result := by
  induction links generalizing place rest with
  | zero => cases h
  | succ links ih =>
    rw [follow] at h ⊢
    rw [walk_append place rest hne]
    cases hwalk : fs.walk place rest with
    | arrived here =>
      rw [hwalk] at h
      cases h
      exact follow_of_ended? hmore
    | failed error => rw [hwalk] at h; cases h
    | link base path left =>
      rw [hwalk] at h
      dsimp only [Walk.goOn] at h ⊢
      split at h
      · cases h
      · next hpath => rw [if_neg hpath, ← List.append_assoc, ih h]

/-- A slash at the end of a path can be left out in front of more names. -/
theorem follow_names_append {start : Location}
    (hne : ∃ next later, more = next :: later ∧ next ≠ [])
    (h : fs.follow links start root.steps = .ok (.existing target (.folder rights))) :
    fs.follow links start (names root.bytes ++ more) = result := by
  obtain ⟨next, later, rfl, hnext⟩ := hne
  have hway := follow_append hmore (List.cons_ne_nil _ _) h
  rw [Path.steps_eq, List.append_assoc] at hway
  split at hway
  · rwa [List.singleton_append, follow_append_stays (.inl rfl) hnext] at hway
  · exact hway

end Way

/-- A regular file in a folder is looked up by the path of the folder with the name behind it,
unless that path is too long. That fails if the folder may not be searched. -/
theorem resolve_join {rights : FolderRights}
    (hroot : fs.resolve root = .ok (.existing place (.folder rights)))
    (hname : IsEntryName name) (hentry : fs.entryAt? (place ++ [name]) = some entry)
    (hregular : entry.size?.isSome) (hlength : (root.join ⟨name⟩).bytes.length < 4096) :
    fs.resolve (root.join ⟨name⟩) =
      if rights.searchable then .ok (.existing (place ++ [name]) entry) else .error .denied := by
  have hplace : fs.entryAt? place = some (.folder rights) := isTarget_of_resolve hroot
  have hstep : (fs.walk place [name]).ended? =
      some (if rights.searchable then .ok (.existing (place ++ [name]) entry)
        else .error .denied) := by
    by_cases hsearch : rights.searchable
    · have hlink : ∀ path, entry ≠ .link path := ne_link_of_isSome_size? hregular
      rw [walk_of_not_link hplace hsearch hname.toIsProper hentry hlink, walk, hentry,
        if_pos hsearch]
      rfl
    · rw [walk_of_not_searchable hplace hsearch hname.ne_nil, if_neg hsearch]
      rfl
  have hrelative := Path.isAbsolute_of_slash_not_mem hname.slash_not_mem
  rw [resolve] at hroot
  split at hroot
  · cases hroot
  next hempty =>
  split at hroot
  · cases hroot
  next hzero =>
  split at hroot
  · cases hroot
  have hne : root.bytes ≠ [] := fun h => hempty (by rw [Path.isEmpty, h]; rfl)
  have hjoinzero : ¬ (root.join ⟨name⟩).bytes.contains 0 := by
    rw [Path.contains_zero_join hrelative, Bool.or_eq_true_iff]
    exact not_or.mpr ⟨hzero, mt List.contains_iff_mem.mp hname.zero_not_mem⟩
  rw [resolve, Path.isEmpty_join hrelative hne, if_neg Bool.false_ne_true, if_neg hjoinzero,
    if_neg (Nat.not_le.mpr hlength), Path.isAbsolute_join hrelative hne,
    Path.steps_join_name hname.slash_not_mem hname.ne_nil]
  exact follow_names_append hstep ⟨name, [], rfl, hname.ne_nil⟩ hroot

theorem at?_eq_none_of_le_length {path : Path} (h : 4096 ≤ path.bytes.length) :
    fs.at? path = none := by
  rw [at?]
  split
  · next hresolve => exact absurd h (Nat.not_le.mpr (length_lt_of_resolve_eq_ok hresolve))
  · rfl

/-- A regular file in a folder is found by its path just if the folder may be searched and the path
is short enough to be looked up. -/
theorem at?_join {rights : FolderRights}
    (hroot : fs.resolve root = .ok (.existing place (.folder rights)))
    (hname : IsEntryName name) (hentry : fs.entryAt? (place ++ [name]) = some entry)
    (hregular : entry.size?.isSome) :
    fs.at? (root.join ⟨name⟩) =
      if rights.searchable ∧ (root.join ⟨name⟩).bytes.length < 4096 then some entry else none := by
  by_cases hlength : (root.join ⟨name⟩).bytes.length < 4096
  · rw [at?, resolve_join hroot hname hentry hregular hlength]
    by_cases hsearch : rights.searchable
    · rw [if_pos hsearch, if_pos ⟨hsearch, hlength⟩]
    · rw [if_neg hsearch, if_neg fun h => hsearch h.1]
  · rw [at?_eq_none_of_le_length (Nat.not_lt.mp hlength), if_neg fun h => hlength h.2]

/-! ## The same entries in another order -/

section Order

variable {fs' : FileSystem}

/-- What a walk depends on is what stands at each location. -/
theorem walk_of_entryAt?_eq (h : ∀ location, fs'.entryAt? location = fs.entryAt? location)
    (place : Location) (names : List FileName) : fs'.walk place names = fs.walk place names := by
  induction names generalizing place with
  | nil => rw [walk, walk, h]
  | cons name rest ih =>
    rw [walk, walk, h]
    simp only [ih, h]

theorem resolve_of_entryAt?_eq (h : ∀ location, fs'.entryAt? location = fs.entryAt? location)
    (hworking : fs'.working = fs.working) (path : Path) : fs'.resolve path = fs.resolve path := by
  have hfollow (links : Nat) (place : Location) (names : List FileName) :
      fs'.follow links place names = fs.follow links place names := by
    induction links generalizing place names with
    | zero => rfl
    | succ links ih =>
      rw [follow, follow, walk_of_entryAt?_eq h]
      simp only [ih]
  rw [resolve, resolve, hfollow, hworking]

/-- It makes no difference in which order the entries of a file system are held. -/
theorem Unambiguous.entryAt?_of_perm (hfs : fs.Unambiguous)
    (hperm : fs'.entries.Perm fs.entries) (location : Location) :
    fs'.entryAt? location = fs.entryAt? location := by
  have hfs' : fs'.Unambiguous :=
    ⟨(hperm.map _).nodup_iff.mpr hfs.nodup,
      fun child hchild => hfs.isEntryName child (hperm.mem_iff.mp hchild)⟩
  have hfind : (fs'.entries.find? (·.1 = location)).map Prod.snd =
      (fs.entries.find? (·.1 = location)).map Prod.snd :=
    Option.ext fun entry =>
      hfs'.find?_eq_some_iff.trans (hperm.mem_iff.trans hfs.find?_eq_some_iff.symm)
  rw [entryAt?, entryAt?, hfind]

theorem Unambiguous.resolve_of_perm (hfs : fs.Unambiguous) (hperm : fs'.entries.Perm fs.entries)
    (hworking : fs'.working = fs.working) (path : Path) : fs'.resolve path = fs.resolve path :=
  resolve_of_entryAt?_eq (hfs.entryAt?_of_perm hperm) hworking path

end Order

end RedactedBundle.FileSystem
