import Mathlib.Data.List.Induction
import RedactedBundle.Bundle

/-!
# Staging many snapshots

What a bundle holds after some snapshots were staged one after the other: each name has its place
where it came first, and the text that came with it last.

## Main definitions

- `Bundle.Overwrites`: what staging one snapshot changes

## Main statements

- `Bundle.names_ofList`, `Bundle.get?_ofList`: the names and the texts of a bundle
- `Bundle.entries_ofList_map`: the bundle of snapshots whose texts depend on their names
-/

namespace RedactedBundle

section EraseDups

variable {α : Type} [BEq α] [LawfulBEq α]

theorem eraseDups_append_singleton_of_mem {xs : List α} {x : α} (h : x ∈ xs) :
    (xs ++ [x]).eraseDups = xs.eraseDups := by
  rw [List.eraseDups_append, List.removeAll, List.filter_cons_of_neg (by simpa using h)]
  simp

theorem eraseDups_append_singleton_of_not_mem {xs : List α} {x : α} (h : x ∉ xs) :
    (xs ++ [x]).eraseDups = xs.eraseDups ++ [x] := by
  rw [List.eraseDups_append, List.removeAll, List.filter_cons_of_pos (by simpa using h)]
  rfl

theorem eraseDups_filter (p : α → Bool) (xs : List α) :
    (xs.filter p).eraseDups = xs.eraseDups.filter p := by
  induction xs using List.reverseRecOn with
  | nil => rfl
  | append_singleton xs x ih =>
    rw [List.filter_append]
    by_cases hp : p x
    · rw [List.filter_cons_of_pos hp, List.filter_nil]
      by_cases hx : x ∈ xs
      · rw [eraseDups_append_singleton_of_mem (List.mem_filter.mpr ⟨hx, hp⟩),
          eraseDups_append_singleton_of_mem hx, ih]
      · rw [eraseDups_append_singleton_of_not_mem fun h => hx (List.mem_filter.mp h).1,
          eraseDups_append_singleton_of_not_mem hx, ih, List.filter_append,
          List.filter_cons_of_pos hp, List.filter_nil]
    · rw [List.filter_cons_of_neg hp, List.filter_nil, List.append_nil, ih]
      by_cases hx : x ∈ xs
      · rw [eraseDups_append_singleton_of_mem hx]
      · rw [eraseDups_append_singleton_of_not_mem hx, List.filter_append,
          List.filter_cons_of_neg hp, List.filter_nil, List.append_nil]

end EraseDups

namespace Snapshot

variable {snapshot : Snapshot} {entries : List Snapshot}

/-- A name that is there already keeps its place. -/
theorem names_putInto_of_mem (h : snapshot.name ∈ entries.map name) :
    (snapshot.putInto entries).map name = entries.map name := by
  induction entries with
  | nil => cases h
  | cons other rest ih =>
    rw [putInto]
    by_cases hname : other.name = snapshot.name
    · simp [hname]
    · have hrest : snapshot.name ∈ rest.map name :=
        (List.mem_cons.mp h).resolve_left (Ne.symm hname)
      rw [if_neg hname, List.map_cons, ih hrest, List.map_cons]

/-- A snapshot of a new name comes to the end. -/
theorem putInto_of_not_mem (h : snapshot.name ∉ entries.map name) :
    snapshot.putInto entries = entries ++ [snapshot] := by
  induction entries with
  | nil => rfl
  | cons other rest ih =>
    rw [List.map_cons, List.mem_cons, not_or] at h
    rw [putInto, if_neg (Ne.symm h.1), ih h.2]
    rfl

theorem find?_putInto (other : String) :
    (snapshot.putInto entries).find? (·.name = other) =
      if other = snapshot.name then some snapshot else entries.find? (·.name = other) := by
  induction entries with
  | nil =>
    by_cases hother : other = snapshot.name
    · simp [putInto, hother]
    · simp [putInto, hother, Ne.symm hother]
  | cons head rest ih =>
    rw [putInto]
    by_cases hhead : head.name = snapshot.name
    · by_cases hother : other = snapshot.name
      · simp [hhead, hother]
      · simp [hhead, hother, Ne.symm hother]
    · rw [if_neg hhead, List.find?_cons, List.find?_cons, ih]
      by_cases hfound : head.name = other
      · have hother : other ≠ snapshot.name := hfound ▸ hhead
        simp [hfound, hother]
      · simp [hfound]

theorem eq_or_mem_of_mem_putInto {entry : Snapshot} (h : entry ∈ snapshot.putInto entries) :
    entry = snapshot ∨ entry ∈ entries := by
  induction entries with
  | nil => exact .inl (List.mem_singleton.mp h)
  | cons other rest ih =>
    rw [putInto] at h
    split at h
    · rcases List.mem_cons.mp h with rfl | hmem
      · exact .inl rfl
      · exact .inr (List.mem_cons_of_mem _ hmem)
    · rcases List.mem_cons.mp h with rfl | hmem
      · exact .inr List.mem_cons_self
      · exact (ih hmem).imp_right (List.mem_cons_of_mem _)

end Snapshot

namespace Bundle

theorem ofList_append (snapshots more : List Snapshot) :
    ofList (snapshots ++ more) = more.foldl stage (ofList snapshots) :=
  List.foldl_append

theorem get?_stage (bundle : Bundle) (snapshot : Snapshot) (name : String) :
    (bundle.stage snapshot).get? name =
      if name = snapshot.name then some snapshot.text else bundle.get? name := by
  rw [get?, entries_stage, Snapshot.find?_putInto]
  split <;> rfl

/-- A name that is new comes last. -/
theorem names_stage (bundle : Bundle) (snapshot : Snapshot) :
    (bundle.stage snapshot).names =
      if snapshot.name ∈ bundle.names then bundle.names else bundle.names ++ [snapshot.name] := by
  rw [names, entries_stage]
  by_cases hmem : snapshot.name ∈ bundle.names
  · rw [if_pos hmem, Snapshot.names_putInto_of_mem hmem]
    rfl
  · rw [if_neg hmem, Snapshot.putInto_of_not_mem hmem, List.map_append]
    rfl

/-- The entry of one name is put into a bundle, or overwritten. -/
structure Overwrites (bundle bundle' : Bundle) (snapshot : Snapshot) : Prop where
  text : bundle'.get? snapshot.name = some snapshot.text
  others : ∀ name, name ≠ snapshot.name → bundle'.get? name = bundle.get? name
  names : bundle'.names =
    if snapshot.name ∈ bundle.names then bundle.names else bundle.names ++ [snapshot.name]

theorem overwrites_stage (bundle : Bundle) (snapshot : Snapshot) :
    bundle.Overwrites (bundle.stage snapshot) snapshot where
  text := by rw [get?_stage, if_pos rfl]
  others name hname := by rw [get?_stage, if_neg hname]
  names := names_stage bundle snapshot

/-- Each name stands where it came first. -/
theorem names_ofList (snapshots : List Snapshot) :
    (ofList snapshots).names = (snapshots.map Snapshot.name).eraseDups := by
  induction snapshots using List.reverseRecOn with
  | nil => rfl
  | append_singleton snapshots snapshot ih =>
    rw [ofList_append, List.map_append]
    change ((ofList snapshots).stage snapshot).names =
      (snapshots.map Snapshot.name ++ [snapshot.name]).eraseDups
    rw [names_stage, ih]
    by_cases hold : snapshot.name ∈ snapshots.map Snapshot.name
    · rw [if_pos (List.mem_eraseDups.mpr hold), eraseDups_append_singleton_of_mem hold]
    · rw [if_neg fun hmem => hold (List.mem_eraseDups.mp hmem),
        eraseDups_append_singleton_of_not_mem hold]

/-- Each name has the text that came with it last. -/
theorem get?_ofList (snapshots : List Snapshot) (name : String) :
    (ofList snapshots).get? name =
      (snapshots.reverse.find? (·.name = name)).map Snapshot.text := by
  induction snapshots using List.reverseRecOn with
  | nil => rfl
  | append_singleton snapshots snapshot ih =>
    rw [ofList_append, List.reverse_append]
    change ((ofList snapshots).stage snapshot).get? name =
      ((snapshot :: snapshots.reverse).find? (·.name = name)).map Snapshot.text
    rw [get?_stage, ih, List.find?_cons]
    by_cases hname : name = snapshot.name
    · simp [hname]
    · simp [hname, Ne.symm hname]

theorem mem_of_mem_ofList {snapshots : List Snapshot} {entry : Snapshot}
    (h : entry ∈ (ofList snapshots).entries) : entry ∈ snapshots := by
  induction snapshots using List.reverseRecOn with
  | nil => exact h
  | append_singleton snapshots snapshot ih =>
    rw [ofList_append] at h
    rcases Snapshot.eq_or_mem_of_mem_putInto h with rfl | hmem
    · exact List.mem_append_right _ List.mem_cons_self
    · exact List.mem_append_left _ (ih hmem)

/-- The bundle of snapshots whose texts depend on their names holds each name once, in the order in
which the names came first. -/
theorem entries_ofList_map (text : String → String) (names : List String) :
    (ofList (names.map fun name => ⟨name, text name⟩)).entries =
      names.eraseDups.map fun name => ⟨name, text name⟩ := by
  have hnames := names_ofList (names.map fun name => ⟨name, text name⟩)
  rw [List.map_map] at hnames
  have hid : Snapshot.name ∘ (fun name => ⟨name, text name⟩) = id := rfl
  rw [hid, List.map_id] at hnames
  rw [← hnames, Bundle.names, List.map_map]
  refine (List.map_id _).symm.trans (List.map_congr_left fun entry hentry => ?_)
  obtain ⟨name, _, rfl⟩ := List.mem_map.mp (mem_of_mem_ofList hentry)
  rfl

end Bundle

end RedactedBundle
