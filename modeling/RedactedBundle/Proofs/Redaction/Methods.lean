import Mathlib.Data.List.Pairwise
import RedactedBundle.Proofs.Redaction.Kept
import RedactedBundle.Proofs.Source.Address

/-!
# The bytes of a method that a redaction keeps

Declarations next to each other share no byte. So what is hidden elsewhere takes nothing from a
method: a byte of it is lost only with the body of the method itself or with a class around it.

## Main definitions

- `Decl.IsCollapsed`: a class that is hidden, given the names of those that are

## Main statements

- `removes_regionsOf_iff_of_method`: what removes a byte of a method
- `Source.WellFormed.mem_kept_iff_of_method`: when a byte of a method is kept
-/

namespace RedactedBundle

variable {hidden : Hidden} {text : List Char} {decls : List Decl} {range : Span} {position : Nat}
  {around : List Region} {place : Address} {decl : Decl}

/-- The declaration is a class with one of the names. -/
def Decl.IsCollapsed (classes : NameSet) : Decl → Prop
  | .bareClass .. => False
  | .fullClass name .. => name ∈ classes
  | .method _ => False

instance (classes : NameSet) : DecidablePred (Decl.IsCollapsed classes)
  | .bareClass .. => inferInstanceAs (Decidable False)
  | .fullClass name .. => inferInstanceAs (Decidable (name ∈ classes))
  | .method _ => inferInstanceAs (Decidable False)

/-- Declarations in order share no byte. -/
theorem Span.InOrder.eq_of_covers {other : Decl} (horder : InOrder range (decls.map Decl.span))
    (hdecl : decl ∈ decls) (hother : other ∈ decls) (hcovers : decl.span.Covers position)
    (hcovers' : other.span.Covers position) : decl = other := by
  let Apart (first second : Decl) : Prop :=
    ¬ (first.span.Covers position ∧ second.span.Covers position)
  have : Std.Symm Apart := ⟨fun _ _ hapart hboth => hapart hboth.symm⟩
  have hpair : decls.Pairwise Apart := by
    refine (List.pairwise_map.mp horder.pairwise_before).imp fun hbefore hboth => ?_
    obtain ⟨⟨-, hstop⟩, hstart, -⟩ := hboth
    exact Nat.not_lt_of_le (Nat.le_trans hbefore hstart) hstop
  by_contra hne
  exact hpair.forall hdecl hother hne ⟨hcovers, hcovers'⟩

/-- What a byte of a declaration loses is hidden in that declaration. -/
theorem removes_regionsOf_iff_of_covers (hdecls : ∀ decl ∈ decls, decl.WellFormed text)
    (horder : Span.InOrder range (decls.map Decl.span)) (hdecl : decl ∈ decls)
    (hcovers : decl.span.Covers position) :
    Removes hidden (regionsOf around decls) position ↔
      Removes hidden (decl.regions around) position := by
  constructor
  · rintro ⟨r, hr, hhidden, hregion⟩
    obtain ⟨other, hother, hr⟩ := mem_regionsOf.mp hr
    have hremoved : Removes hidden (other.regions around) position := ⟨r, hr, hhidden, hregion⟩
    have hcovers' := (hdecls other hother).covers_of_removes hremoved
    rwa [horder.eq_of_covers hdecl hother hcovers hcovers']
  · rintro ⟨r, hr, hremoved⟩
    exact ⟨r, mem_regionsOf.mpr ⟨decl, hdecl, hr⟩, hremoved⟩

theorem Decl.WellFormed.of_mem_members {member : Decl} (h : decl.WellFormed text)
    (hmember : member ∈ decl.members) :
    member.WellFormed text ∧ member.span.Within decl.span := by
  cases decl with
  | bareClass => cases hmember
  | fullClass name kind span inner members =>
    obtain ⟨-, -, hinner, horder, hmembers⟩ := h
    have hin := horder.within_range member.span (List.mem_map_of_mem hmember)
    exact ⟨allWellFormed_iff.mp hmembers member hmember, hin.trans hinner⟩
  | method => cases hmember

theorem Decl.WellFormed.of_follow? {target : Decl} (h : decl.WellFormed text)
    (htarget : Address.follow? members decl place = some target) :
    target.WellFormed text ∧ target.span.Within decl.span := by
  refine Address.of_follow? (motive := fun target => target.WellFormed text ∧
    target.span.Within decl.span) htarget ⟨h, Span.Within.refl _⟩ ?_
  rintro parent ⟨hparent, hin⟩ member hmember
  obtain ⟨hwell, hmemberIn⟩ := hparent.of_mem_members hmember
  exact ⟨hwell, hmemberIn.trans hin⟩

/-- A byte of a method is removed with a hidden class around the method, or with the hidden body of
the method itself. -/
theorem removes_regionsOf_iff_of_method {m : Method} (hdecls : ∀ decl ∈ decls, decl.WellFormed text)
    (horder : Span.InOrder range (decls.map Decl.span))
    (hplace : declAt? decls place = some (.method m)) (hcovers : m.span.Covers position) :
    Removes hidden (regionsOf around decls) position ↔
      (∃ decl ∈ declsAround decls place, decl.IsCollapsed hidden.classes) ∨
        (m.name ∈ hidden.methods ∧ ∃ body ∈ m.body, body.span.Covers position) := by
  induction place generalizing decls around range with
  | nil => cases hplace
  | cons i rest ih =>
    obtain ⟨decl, hdecl, hrest⟩ := Option.bind_eq_some_iff.mp hplace
    have hmem : decl ∈ decls := List.mem_of_getElem? hdecl
    have hwell := hdecls decl hmem
    have hin : (Decl.method m).span.Within decl.span := (hwell.of_follow? hrest).2
    rw [removes_regionsOf_iff_of_covers hdecls horder hmem (hcovers.mono hin)]
    cases rest with
    | nil =>
      obtain rfl := Option.some.inj hrest
      rw [Decl.regions]
      cases m.body <;> simp [Region.IsHidden, Region.span]
    | cons j others =>
      rw [declsAround_cons hdecl (List.cons_ne_nil j others)]
      cases decl with
      | bareClass => cases hrest
      | fullClass name kind span inner members =>
        obtain ⟨-, -, -, hmembersOrder, hmembers⟩ := hwell
        have hmembers := allWellFormed_iff.mp hmembers
        -- The byte lies in the member on the way, so the inside of the class covers it.
        have hinner : inner.Covers position := by
          obtain ⟨member, hmember, hothers⟩ := Option.bind_eq_some_iff.mp hrest
          have hmem : member ∈ members := List.mem_of_getElem? hmember
          have hmemberIn := hmembersOrder.within_range member.span (List.mem_map_of_mem hmem)
          have hmethodIn := ((hmembers member hmem).of_follow? hothers).2
          exact hcovers.mono (hmethodIn.trans hmemberIn)
        have hself : (Region.classInside name inner).span.Covers position := hinner
        have hcollapsed : (Decl.fullClass name kind span inner members).IsCollapsed hidden.classes ↔
            (Region.classInside name inner).IsHidden hidden := Iff.rfl
        rw [Decl.regions, removes_cons, ih hmembers hmembersOrder hrest]
        simp only [hself, and_true, List.exists_mem_cons_iff, hcollapsed, Decl.members, or_assoc]
      | method => cases hrest

/-- A byte of a method is kept exactly if no class around the method is hidden, and the method is not
hidden with the byte in its body. -/
theorem Source.WellFormed.mem_kept_iff_of_method {source : Source} (h : source.WellFormed)
    {m : Method} (hplace : declAt? source.decls place = some (.method m))
    (hcovers : m.span.Covers position) :
    position ∈ source.kept hidden ↔
      (∀ decl ∈ declsAround source.decls place, ¬ decl.IsCollapsed hidden.classes) ∧
        (m.name ∈ hidden.methods → ∀ body ∈ m.body, ¬ body.span.Covers position) := by
  have hdecls := allWellFormed_iff.mp h.decls
  have hlt : position < Text.byteLength source.text.toList := by
    have hne : place ≠ [] := by
      rintro rfl
      cases hplace
    obtain ⟨i, rest, rfl⟩ := List.exists_cons_of_ne_nil hne
    obtain ⟨decl, hdecl, hrest⟩ := Option.bind_eq_some_iff.mp hplace
    have hmem : decl ∈ source.decls := List.mem_of_getElem? hdecl
    have hin := ((hdecls decl hmem).of_follow? hrest).2
    have htext := h.inOrder.within_range decl.span (List.mem_map_of_mem hmem)
    exact (hcovers.mono (hin.trans htext)).2
  rw [h.mem_kept_iff, Source.regions, removes_regionsOf_iff_of_method hdecls h.inOrder hplace hcovers]
  simp only [hlt, true_and, not_or, not_exists, not_and]

end RedactedBundle
