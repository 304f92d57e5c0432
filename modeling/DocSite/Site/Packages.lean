import DocSite.Interface.Identifier

/-!
# Packages

Which package a root belongs to.  The table is kept in the order of the roots and has one entry for
each, so two tables with the same assignments are the same table.
-/

namespace DocSite

/-- Assignments of packages to the names of roots, in the order of the roots and one for each. -/
structure Packages where
  entries : List (String × String)
  ordered : entries.Pairwise fun a b => a.1 < b.1
  deriving DecidableEq

namespace Packages

instance : EmptyCollection Packages := ⟨⟨[], .nil⟩⟩

/-- The entries with one more; an earlier entry for the same root is replaced. -/
def insertEntry (root package : String) : List (String × String) → List (String × String)
  | [] => [(root, package)]
  | (r, p) :: rest =>
    if r = root then (root, package) :: rest
    else if root < r then (root, package) :: (r, p) :: rest
    else (r, p) :: insertEntry root package rest

theorem mem_of_mem_insertEntry {root package : String} {e : String × String}
    {entries : List (String × String)} (h : e ∈ insertEntry root package entries) :
    e = (root, package) ∨ e ∈ entries := by
  induction entries with
  | nil => exact .inl (List.mem_singleton.mp h)
  | cons first rest ih =>
    rw [insertEntry] at h
    split at h
    · exact (List.mem_cons.mp h).imp_right (List.mem_cons_of_mem first)
    split at h
    · exact List.mem_cons.mp h
    · rcases List.mem_cons.mp h with rfl | h
      · exact .inr List.mem_cons_self
      · exact (ih h).imp_right (List.mem_cons_of_mem first)

/-- The roots stay in order, and none of them comes twice. -/
theorem pairwise_insertEntry (root package : String) {entries : List (String × String)}
    (h : entries.Pairwise (fun a b => a.1 < b.1)) :
    (insertEntry root package entries).Pairwise (fun a b => a.1 < b.1) := by
  induction entries with
  | nil => exact List.pairwise_singleton _ _
  | cons first rest ih =>
    obtain ⟨hfirst, hrest⟩ := List.pairwise_cons.mp h
    rw [insertEntry]
    split
    · next heq => exact List.pairwise_cons.mpr ⟨heq ▸ hfirst, hrest⟩
    split
    · next hlt =>
      refine List.pairwise_cons.mpr ⟨fun e he => ?_, h⟩
      rcases List.mem_cons.mp he with rfl | he
      · exact hlt
      · exact String.lt_trans hlt (hfirst e he)
    · next hne hnot =>
      refine List.pairwise_cons.mpr ⟨fun e he => ?_, ih hrest⟩
      rcases mem_of_mem_insertEntry he with rfl | he
      · exact Std.lt_of_le_of_ne (String.not_lt.mp hnot) hne
      · exact hfirst e he

def insert (t : Packages) (root package : String) : Packages :=
  ⟨insertEntry root package t.entries, pairwise_insertEntry root package t.ordered⟩

/-- The table of some assignments, the later ones winning. -/
def ofList (assignments : List (String × String)) : Packages :=
  assignments.foldl (fun t a => t.insert a.1 a.2) {}

def find? (t : Packages) (root : String) : Option String := t.entries.lookup root

/-- The package of an identifier: that of its root, which is the identifier itself if its chain
does not start at a root.  A root without an entry is a package of its own. -/
def packageOf (t : Packages) (id : Identifier) : String :=
  let root := id.root?.getD id
  (t.find? root.name).getD root.name

end Packages

end DocSite
