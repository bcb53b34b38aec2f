/-!
# Bundles of staged snapshots

A bundle holds the snapshots of files in the order in which their names were first staged.
Staging a name again replaces its text and keeps its place.

## Main definitions

- `Bundle`: the staged snapshots
- `Bundle.stage`: staging a snapshot
-/

namespace RedactedBundle

/-- The text of a file at the moment it was staged. -/
structure Snapshot where
  name : String
  text : String
  deriving Repr, DecidableEq, Inhabited

/-- Puts the snapshot in the place of the one of the same name, or at the end. -/
def Snapshot.putInto (snapshot : Snapshot) : List Snapshot → List Snapshot
  | [] => [snapshot]
  | other :: rest =>
    if other.name = snapshot.name then snapshot :: rest else other :: snapshot.putInto rest

theorem Snapshot.mem_names_putInto {snapshot : Snapshot} {entries : List Snapshot}
    {name : String} :
    name ∈ (snapshot.putInto entries).map Snapshot.name ↔
      name = snapshot.name ∨ name ∈ entries.map Snapshot.name := by
  induction entries with
  | nil => simp [putInto]
  | cons other rest ih =>
    rw [putInto]
    split
    · next h => simp only [List.map_cons, List.mem_cons, h]; grind
    · simp only [List.map_cons, List.mem_cons, ih]; grind

theorem Snapshot.nodup_names_putInto {snapshot : Snapshot} {entries : List Snapshot}
    (h : (entries.map Snapshot.name).Nodup) :
    ((snapshot.putInto entries).map Snapshot.name).Nodup := by
  induction entries with
  | nil => simp [putInto]
  | cons other rest ih =>
    obtain ⟨hfresh, hrest⟩ := List.nodup_cons.mp h
    rw [putInto]
    split
    · next heq => exact List.nodup_cons.mpr ⟨heq ▸ hfresh, hrest⟩
    · next hne =>
      refine List.nodup_cons.mpr ⟨fun hmem => ?_, ih hrest⟩
      rcases mem_names_putInto.mp hmem with heq | hmem
      · exact hne heq
      · exact hfresh hmem

/-- Snapshots in staging order, each name once. -/
structure Bundle where
  entries : List Snapshot
  nodup : (entries.map Snapshot.name).Nodup

namespace Bundle

/-- The bundle with nothing staged. -/
def empty : Bundle := ⟨[], List.nodup_nil⟩

instance : Inhabited Bundle := ⟨empty⟩

/-- Stages a snapshot: a name staged before keeps its place and gets the new text. -/
def stage (bundle : Bundle) (snapshot : Snapshot) : Bundle :=
  ⟨snapshot.putInto bundle.entries, Snapshot.nodup_names_putInto bundle.nodup⟩

/-- Stages the snapshots of a list one after the other. -/
def ofList (snapshots : List Snapshot) : Bundle :=
  snapshots.foldl stage empty

def names (bundle : Bundle) : List String := bundle.entries.map Snapshot.name

/-- The text staged under a name. -/
def get? (bundle : Bundle) (name : String) : Option String :=
  (bundle.entries.find? (·.name = name)).map Snapshot.text

def contains (bundle : Bundle) (name : String) : Bool :=
  bundle.entries.any (·.name = name)

def size (bundle : Bundle) : Nat := bundle.entries.length

def isEmpty (bundle : Bundle) : Bool := bundle.entries.isEmpty

@[simp] theorem entries_stage (bundle : Bundle) (snapshot : Snapshot) :
    (bundle.stage snapshot).entries = snapshot.putInto bundle.entries := rfl

end Bundle

end RedactedBundle
