import DocSite.Site.Location
import Mathlib.Data.List.Basic

/-!
# Segments are read back

Segments and anchors are written by putting words together: a word for the kind, a position, a name,
with dashes between them.  A text put together in this way can be taken apart again at its first
dash, or at its last one, as long as what stands on the other side of that dash has none.  So the
kind of a page and its name can be read off its segment, if the names of pages are free of dashes.

The order of the words does the rest.  A page of a module has its bare name, without any dash; the
segments of all other kinds have one dash or two, and those with two differ in their first letter.
-/

namespace DocSite

/-! ## Texts with a separator -/

section Separator

variable {α : Type} {sep : α} {a b x y : List α}

/-- A text is divided at its first separator. -/
theorem eq_of_append_first (ha : sep ∉ a) (hb : sep ∉ b) (h : a ++ sep :: x = b ++ sep :: y) :
    a = b ∧ x = y := by
  induction a generalizing b with
  | nil =>
    cases b with
    | nil => exact ⟨rfl, (List.cons.inj h).2⟩
    | cons c b => exact absurd ((List.cons.inj h).1 ▸ List.mem_cons_self) hb
  | cons c a ih =>
    cases b with
    | nil => exact absurd ((List.cons.inj h).1 ▸ List.mem_cons_self) ha
    | cons d b =>
      obtain ⟨hcd, hrest⟩ := List.cons.inj h
      obtain ⟨rfl, rfl⟩ :=
        ih (List.not_mem_of_not_mem_cons ha) (List.not_mem_of_not_mem_cons hb) hrest
      exact ⟨congrArg (· :: a) hcd, rfl⟩

/-- A text is divided at its last separator. -/
theorem eq_of_append_last (hx : sep ∉ x) (hy : sep ∉ y) (h : a ++ sep :: x = b ++ sep :: y) :
    a = b ∧ x = y := by
  have hreverse : x.reverse ++ sep :: a.reverse = y.reverse ++ sep :: b.reverse := by
    simpa using congrArg List.reverse h
  obtain ⟨hxy, hab⟩ := eq_of_append_first (by simpa using hx) (by simpa using hy) hreverse
  exact ⟨List.reverse_inj.mp hab, List.reverse_inj.mp hxy⟩

end Separator

/-! ## Positions -/

theorem toString_nat_toList (n : Nat) : (toString n).toList = Nat.toDigits 10 n := Nat.toList_repr

theorem notMem_toString {c : Char} (hc : ¬ c.isDigit) (n : Nat) : c ∉ (toString n).toList := by
  rw [toString_nat_toList]
  intro h
  exact hc (Nat.isDigit_of_mem_toDigits (by decide) (by decide) h)

theorem dash_notMem_toString (n : Nat) : '-' ∉ (toString n).toList :=
  notMem_toString (by decide) n

theorem toString_nat_inj {n m : Nat} (h : toString n = toString m) : n = m := by
  have hdigits := congrArg (fun s : String => Nat.ofDigitChars 10 s.toList 0) h
  simpa only [toString_nat_toList, Nat.ofDigitChars_ten_toDigits] using hdigits

/-- A position before a name, and a dash between them. -/
theorem numbered_inj {i j : Nat} {n m : String}
    (h : toString i ++ "-" ++ n = toString j ++ "-" ++ m) : i = j ∧ n = m := by
  have hlist : (toString i).toList ++ '-' :: n.toList = (toString j).toList ++ '-' :: m.toList := by
    simpa using congrArg String.toList h
  obtain ⟨hij, hnm⟩ := eq_of_append_first (dash_notMem_toString i) (dash_notMem_toString j) hlist
  exact ⟨toString_nat_inj (String.toList_inj.mp hij), String.toList_inj.mp hnm⟩

/-! ## Segments of pages -/

namespace PageKind

/-- How items name their pages: by a name without dashes, which in case of an argument follows the
position of the argument. -/
def Names (kind : PageKind) (name : String) : Prop :=
  match kind with
  | «module» | moduleType | «class» | classType => '-' ∉ name.toList
  | argument =>
    ∃ (position : Nat) (n : String), name = toString position ++ "-" ++ n ∧ '-' ∉ n.toList
  | package | unit | page => False

/-- How many dashes there are in the segment of such a page. -/
def dashes : PageKind → Nat
  | moduleType | classType | argument => 2
  | «class» => 1
  | package | unit | page | «module» => 0

theorem count_segment {kind : PageKind} {name : String} (h : kind.Names name) :
    (kind.segment name).toList.count '-' = kind.dashes := by
  cases kind with
  | «module» | moduleType | «class» | classType =>
    simp [segment, dashes, List.count_eq_zero_of_not_mem h]
  | argument =>
    obtain ⟨position, n, rfl, hn⟩ := h
    have hposition := List.count_eq_zero_of_not_mem (dash_notMem_toString position)
    rw [toString_nat_toList] at hposition
    simp [segment, dashes, List.count_eq_zero_of_not_mem hn, hposition]
  | package | unit | page => exact h.elim

/-- What stands before the name. -/
def lead : PageKind → String
  | package | unit | page | «module» => ""
  | moduleType => "module-type-"
  | «class» => "class-"
  | classType => "class-type-"
  | argument => "argument-"

theorem segment_eq_lead (kind : PageKind) (name : String) :
    kind.segment name = kind.lead ++ name := by
  cases kind <;> simp [segment, lead]

/-- Two kinds with equally many dashes differ in the first letter, if they differ at all. -/
theorem lead_append_ne {kind kind' : PageKind} {name name' : String} (h : kind.Names name)
    (h' : kind'.Names name') (hdashes : kind.dashes = kind'.dashes) (hne : kind ≠ kind') :
    kind.lead ++ name ≠ kind'.lead ++ name' := by
  intro heq
  have hhead : (kind.lead ++ name).toList.head? = (kind'.lead ++ name').toList.head? := by rw [heq]
  clear heq
  cases kind <;> cases kind' <;> simp_all [lead, dashes, Names]

/-- The kind of a page and its name are read off its segment. -/
theorem segment_inj {kind kind' : PageKind} {name name' : String} (h : kind.Names name)
    (h' : kind'.Names name') (heq : kind.segment name = kind'.segment name') :
    kind = kind' ∧ name = name' := by
  have hdashes : kind.dashes = kind'.dashes := by
    rw [← count_segment h, ← count_segment h', heq]
  rw [segment_eq_lead, segment_eq_lead] at heq
  by_cases hkind : kind = kind'
  · subst hkind
    exact ⟨rfl, (String.append_right_inj _).mp heq⟩
  · exact absurd heq (lead_append_ne h h' hdashes hkind)

end PageKind

end DocSite
