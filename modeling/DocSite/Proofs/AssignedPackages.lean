import DocSite.Config
import Mathlib.Data.List.Forall2
import Mathlib.Data.List.Nodup
import Mathlib.Data.List.Sort

/-!
# Assigned packages

A text assigns a package to a root by an equals sign, and assignments are added a few at a time.  A
text that assigns nothing ends its call; what stands before it in the call has been done by then and
stays done.  So what a configuration is in the end cannot be read off the calls that succeeded.  It
is read off the assignments that were carried out, `Config.Applies`, those of all calls in a row.

Of several assignments to one root the last one counts.  A table is collected from the entries of a
configuration, in whatever order these happen to come.  That order is not seen in the table, since
no root comes twice: `Packages.Lists.ofList_eq`.
-/

namespace DocSite

/-! ## Texts that assign -/

/-- The text assigns the package to the root: its first equals sign stands between the two, and
neither of them is empty. -/
structure Assigns (text root package : String) : Prop where
  text_eq : text = root ++ "=" ++ package
  first : '=' ∉ root.toList
  root_ne : root ≠ ""
  package_ne : package ≠ ""

instance (text root package : String) : Decidable (Assigns text root package) :=
  decidable_of_iff
    (text = root ++ "=" ++ package ∧ '=' ∉ root.toList ∧ root ≠ "" ∧ package ≠ "")
    ⟨fun ⟨h₁, h₂, h₃, h₄⟩ => ⟨h₁, h₂, h₃, h₄⟩, fun ⟨h₁, h₂, h₃, h₄⟩ => ⟨h₁, h₂, h₃, h₄⟩⟩

/-- What stands before the first equals sign, and the rest. -/
theorem Assigns.cut {text root package : String} (h : Assigns text root package) :
    text.toList.takeWhile (· ≠ '=') = root.toList ∧
      text.toList.dropWhile (· ≠ '=') = '=' :: package.toList := by
  have hroot : ∀ c ∈ root.toList, decide (c ≠ '=') = true := by
    intro c hc
    have hne : c ≠ '=' := fun heq => h.first (heq ▸ hc)
    exact decide_eq_true hne
  rw [h.text_eq, String.toList_append, String.toList_append, List.append_assoc,
    List.takeWhile_append_of_pos hroot, List.dropWhile_append_of_pos hroot]
  simp

namespace Config

theorem assignment?_of_assigns {text root package : String} (h : Assigns text root package) :
    assignment? text = some (root, package) := by
  obtain ⟨hroot, hpackage⟩ := h.cut
  have hne : root.toList.isEmpty = false := by
    rw [List.isEmpty_eq_false_iff]
    exact fun hnil => h.root_ne (String.toList_inj.mp hnil)
  obtain ⟨c, cs, hcs⟩ : ∃ c cs, package.toList = c :: cs :=
    List.exists_cons_of_ne_nil fun hnil => h.package_ne (String.toList_inj.mp hnil)
  rw [assignment?, hroot, hpackage, hcs]
  simp only [hne, Bool.false_eq_true, if_false]
  rw [← hcs, String.ofList_toList, String.ofList_toList]

theorem assigns_of_assignment? {text root package : String}
    (h : assignment? text = some (root, package)) : Assigns text root package := by
  rw [assignment?] at h
  split at h
  case h_2 => cases h
  next c d rest hdrop =>
  split at h
  case isTrue => cases h
  next hne =>
  obtain ⟨rfl, rfl⟩ := Prod.mk.inj (Option.some.inj h)
  have hc : c = '=' := by
    have hhead := List.head?_dropWhile_not (fun c => decide (c ≠ '=')) text.toList
    rw [hdrop] at hhead
    simpa using hhead
  refine ⟨String.toList_inj.mp ?_, ?_, ?_, ?_⟩
  · have hcut := List.takeWhile_append_dropWhile (p := fun c => decide (c ≠ '=')) (l := text.toList)
    rw [hdrop, hc] at hcut
    simpa using hcut.symm
  · rw [String.toList_ofList]
    intro hmem
    simpa using List.all_eq_true.mp List.all_takeWhile _ hmem
  · intro hempty
    rw [String.ofList_eq_empty_iff] at hempty
    exact hne (List.isEmpty_iff.mpr hempty)
  · simp

/-- **What is read as an assignment assigns**, and nothing else does. -/
theorem assignment?_eq_some_iff {text root package : String} :
    assignment? text = some (root, package) ↔ Assigns text root package :=
  ⟨assigns_of_assignment?, assignment?_of_assigns⟩

example : Assigns "a=b=c" "a" "b=c" ∧ ¬ Assigns "a=b=c" "a=b" "c" ∧ ¬ Assigns "=c" "" "c" := by
  decide

theorem assignment?_eq_none_iff {text : String} :
    assignment? text = none ↔ ¬ ∃ root package, Assigns text root package := by
  rw [Option.eq_none_iff_forall_ne_some]
  constructor
  · rintro hnone ⟨root, package, h⟩
    exact hnone (root, package) (assignment?_eq_some_iff.mpr h)
  · rintro h ⟨root, package⟩ hsome
    exact h ⟨root, package, assignment?_eq_some_iff.mp hsome⟩

end Config

/-! ## The last assignment -/

/-- The package that the last of some assignments to a root gives it. -/
def latest (assignments : List (String × String)) (root : String) : Option String :=
  ((assignments.filter fun a => a.1 = root).getLast?).map Prod.snd

@[simp] theorem latest_nil (root : String) : latest [] root = none := rfl

theorem latest_append (a b : List (String × String)) (root : String) :
    latest (a ++ b) root = (latest b root).or (latest a root) := by
  rw [latest, List.filter_append, List.getLast?_append, Option.map_or]
  rfl

theorem latest_cons (a : String × String) (rest : List (String × String)) (root : String) :
    latest (a :: rest) root = (latest rest root).or (if a.1 = root then some a.2 else none) := by
  have hhead : latest [a] root = if a.1 = root then some a.2 else none := by
    by_cases h : a.1 = root <;> simp [latest, h]
  rw [← hhead, ← latest_append, List.singleton_append]

namespace Packages

/-! ## Tables -/

theorem lookup_entry (root package r : String) (rest : List (String × String)) :
    ((root, package) :: rest).lookup r = if r = root then some package else rest.lookup r := by
  by_cases h : r = root
  · rw [h, if_pos rfl, List.lookup_cons_self]
  · rw [if_neg h, List.lookup_cons, beq_false_of_ne h]

theorem mem_iff_lookup_eq_some {entries : List (String × String)}
    (h : (entries.map Prod.fst).Nodup) (root package : String) :
    (root, package) ∈ entries ↔ entries.lookup root = some package := by
  induction entries with
  | nil => simp
  | cons e rest ih =>
    obtain ⟨s, p⟩ := e
    obtain ⟨hhead, hrest⟩ := List.nodup_cons.mp h
    rw [List.mem_cons, lookup_entry, ih hrest]
    by_cases hroot : root = s
    · have hother : rest.lookup root ≠ some package := by
        rw [Ne, ← ih hrest]
        exact fun hmem => hhead (List.mem_map.mpr ⟨_, hmem, hroot⟩)
      simp [hroot ▸ hother, hroot, eq_comm]
    · simp [hroot]

theorem lookup_insertEntry (root package r : String) (entries : List (String × String)) :
    (insertEntry root package entries).lookup r =
      if r = root then some package else entries.lookup r := by
  induction entries with
  | nil => exact lookup_entry root package r []
  | cons e rest ih =>
    obtain ⟨s, p⟩ := e
    rw [insertEntry]
    split
    · next hs =>
      rw [lookup_entry, lookup_entry, hs]
      split <;> rfl
    · next hs =>
      split
      · rw [lookup_entry]
      · -- the entry stays in front, and it is not one for the root
        rw [lookup_entry, lookup_entry, ih]
        by_cases h : r = root
        · rw [h, if_neg (Ne.symm hs), if_pos rfl, if_pos rfl]
        · rw [if_neg h, if_neg h]

theorem find?_insert (t : Packages) (root package r : String) :
    (t.insert root package).find? r = if r = root then some package else t.find? r :=
  lookup_insertEntry root package r t.entries

theorem find?_foldl_insert (assignments : List (String × String)) (t : Packages) (r : String) :
    (assignments.foldl (fun t a => t.insert a.1 a.2) t).find? r =
      (latest assignments r).or (t.find? r) := by
  induction assignments generalizing t with
  | nil => rfl
  | cons a rest ih =>
    rw [List.foldl_cons, ih, find?_insert, latest_cons, Option.or_assoc]
    congr 1
    by_cases h : a.1 = r
    · rw [if_pos h, if_pos h.symm, Option.some_or]
    · rw [if_neg h, if_neg (Ne.symm h), Option.none_or]

theorem nodup_roots (t : Packages) : (t.entries.map Prod.fst).Nodup := by
  rw [List.Nodup, List.pairwise_map]
  refine t.ordered.imp fun {a b} hlt heq => ?_
  rw [heq] at hlt
  exact String.lt_irrefl _ hlt

theorem mem_entries_iff (t : Packages) (root package : String) :
    (root, package) ∈ t.entries ↔ t.find? root = some package :=
  mem_iff_lookup_eq_some t.nodup_roots root package

/-- Tables with the same assignments are the same table. -/
theorem ext_find? {t t' : Packages} (h : ∀ root, t.find? root = t'.find? root) : t = t' := by
  have hirrefl : Std.Irrefl fun a b : String × String => a.1 < b.1 :=
    ⟨fun a => String.lt_irrefl a.1⟩
  have hantisymm : Std.Antisymm fun a b : String × String => a.1 < b.1 :=
    ⟨fun a b hab hba => absurd hba (String.lt_asymm hab)⟩
  have hentries : t.entries = t'.entries := by
    refine t.ordered.eq_of_mem_iff t'.ordered fun e => ?_
    rw [t.mem_entries_iff, t'.mem_entries_iff, h]
  cases t
  cases t'
  congr

/-- The assignments are those of the table, in some order: each root that has one comes once. -/
structure Lists (t : Packages) (listing : List (String × String)) : Prop where
  nodup : (listing.map Prod.fst).Nodup
  mem_iff : ∀ root package, (root, package) ∈ listing ↔ t.find? root = some package

namespace Lists

variable {t : Packages} {listing : List (String × String)}

/-- The entries of a table list it in any order. -/
theorem of_perm (hperm : listing.Perm t.entries) : t.Lists listing where
  nodup := (hperm.map Prod.fst).nodup_iff.mpr t.nodup_roots
  mem_iff := by
    intro root package
    rw [hperm.mem_iff, mem_entries_iff]

/-- With one assignment for each root, the last one is the only one. -/
theorem latest_eq_some_iff (h : t.Lists listing) {root package : String} :
    latest listing root = some package ↔ (root, package) ∈ listing := by
  have hlast {a : String × String} (ha : (listing.filter fun a => a.1 = root).getLast? = some a) :
      a ∈ listing ∧ a.1 = root := by
    simpa using List.mem_filter.mp (List.mem_of_getLast? ha)
  rw [latest, Option.map_eq_some_iff]
  constructor
  · rintro ⟨a, ha, rfl⟩
    obtain ⟨hmem, rfl⟩ := hlast ha
    exact hmem
  · intro hmem
    have hne : listing.filter (fun a => a.1 = root) ≠ [] :=
      List.ne_nil_of_mem (List.mem_filter.mpr ⟨hmem, decide_eq_true rfl⟩)
    have ha := List.getLast?_eq_some_getLast hne
    obtain ⟨hown, hroot⟩ := hlast ha
    refine ⟨_, ha, ?_⟩
    rw [List.inj_on_of_nodup_map h.nodup hown hmem hroot]

/-- **The order of the entries is not seen in a table.** -/
theorem ofList_eq (h : t.Lists listing) : ofList listing = t := by
  refine ext_find? fun root => ?_
  have hempty : find? {} root = none := rfl
  rw [ofList, find?_foldl_insert, hempty, Option.or_none]
  refine Option.ext fun package => ?_
  rw [h.latest_eq_some_iff, h.mem_iff]

end Lists

/-- Which package an identifier belongs to is decided by the name of its root, or by its own name if
its chain does not start at a root. -/
theorem packageOf_eq (t : Packages) (id : Identifier) :
    t.packageOf id =
      let name := if id.outermost.kind = .root then id.outermost.name else id.name
      (t.find? name).getD name := by
  rw [packageOf, Identifier.root?]
  split <;> rfl

end Packages

namespace Config

/-! ## Calls -/

/-- What a call does with its texts: those before the first that assigns nothing are carried out,
and the call fails on that one, if there is one. -/
def Applies (texts : List String) (assignments : List (String × String)) (failed : Option String) :
    Prop :=
  ∃ done rest, texts = done ++ rest ∧
    List.Forall₂ (fun text a => Assigns text a.1 a.2) done assignments ∧
    failed = rest.head? ∧ ∀ text ∈ failed, ¬ ∃ root package, Assigns text root package

namespace Applies

variable {text root package : String} {texts : List String}
  {assignments : List (String × String)} {failed : Option String}

theorem nil : Applies [] [] none := ⟨[], [], rfl, .nil, rfl, by simp⟩

theorem stop (h : ¬ ∃ root package, Assigns text root package) (rest : List String) :
    Applies (text :: rest) [] (some text) :=
  ⟨[], text :: rest, rfl, .nil, rfl, by simpa using h⟩

theorem cons (h : Assigns text root package) (hrest : Applies texts assignments failed) :
    Applies (text :: texts) ((root, package) :: assignments) failed := by
  obtain ⟨done, rest, rfl, hdone, hfailed⟩ := hrest
  exact ⟨text :: done, rest, rfl, .cons h hdone, hfailed⟩

/-- A call goes through exactly if all its texts assign. -/
theorem failed_eq_none_iff (h : Applies texts assignments failed) :
    failed = none ↔ ∀ text ∈ texts, ∃ root package, Assigns text root package := by
  obtain ⟨done, rest, rfl, hdone, rfl, hfailed⟩ := h
  have hassigns : ∀ text ∈ done, ∃ root package, Assigns text root package := by
    induction hdone with
    | nil => simp
    | cons ha _ ih => exact List.forall_mem_cons.mpr ⟨⟨_, _, ha⟩, ih⟩
  constructor
  · intro hnone
    rw [List.head?_eq_none_iff.mp hnone, List.append_nil]
    exact hassigns
  · intro hall
    cases rest with
    | nil => rfl
    | cons text rest => exact absurd (hall text (by simp)) (hfailed text rfl)

end Applies

/-- A configuration with some assignments added: every root that they name has the package of the
last one, and all else is as it was. -/
structure Adds (config : Config) (assignments : List (String × String)) (config' : Config) :
    Prop where
  find? : ∀ root, config'.packages.find? root =
    (latest assignments root).or (config.packages.find? root)
  defaultOpen : config'.defaultOpen = config.defaultOpen
  semanticUris : config'.semanticUris = config.semanticUris

namespace Adds

theorem refl (config : Config) : Adds config [] config := ⟨fun _ => rfl, rfl, rfl⟩

theorem append {config config' config'' : Config} {a b : List (String × String)}
    (h : Adds config a config') (h' : Adds config' b config'') : Adds config (a ++ b) config'' where
  find? := by
    intro root
    rw [h'.find?, h.find?, latest_append, Option.or_assoc]
  defaultOpen := h'.defaultOpen.trans h.defaultOpen
  semanticUris := h'.semanticUris.trans h.semanticUris

theorem assign (config : Config) (root package : String) :
    Adds config [(root, package)] (config.assign root package) where
  find? := by
    intro r
    have hinsert := Packages.find?_foldl_insert [(root, package)] config.packages r
    exact hinsert
  defaultOpen := rfl
  semanticUris := rfl

end Adds

/-- One call. -/
theorem exists_adds_assignAll (texts : List String) (config : Config) :
    ∃ assignments failed, Applies texts assignments failed ∧
      (config.assignAll texts).2 = failed.map AssignmentError.mk ∧
      Adds config assignments (config.assignAll texts).1 := by
  induction texts generalizing config with
  | nil => exact ⟨[], none, .nil, rfl, .refl config⟩
  | cons text rest ih =>
    rw [assignAll]
    cases htext : assignment? text with
    | none =>
      exact ⟨[], some text, .stop (assignment?_eq_none_iff.mp htext) rest, rfl, .refl config⟩
    | some a =>
      obtain ⟨root, package⟩ := a
      obtain ⟨assignments, failed, happlies, hfailed, hadds⟩ := ih (config.assign root package)
      exact ⟨(root, package) :: assignments, failed,
        .cons (assignment?_eq_some_iff.mp htext) happlies, hfailed,
        (Adds.assign config root package).append hadds⟩

/-- The configuration after some calls, whether they fail or not. -/
def afterCalls (config : Config) (calls : List (List String)) : Config :=
  calls.foldl (fun c texts => (c.assignAll texts).1) config

/-- All calls. -/
theorem exists_adds_afterCalls (calls : List (List String)) (config : Config) :
    ∃ applied : List (List (String × String)),
      List.Forall₂ (fun texts assignments => ∃ failed, Applies texts assignments failed) calls
        applied ∧
      Adds config applied.flatten (config.afterCalls calls) := by
  induction calls generalizing config with
  | nil => exact ⟨[], .nil, .refl config⟩
  | cons texts calls ih =>
    obtain ⟨assignments, failed, happlies, -, hadds⟩ := exists_adds_assignAll texts config
    obtain ⟨applied, hcalls, hrest⟩ := ih (config.assignAll texts).1
    exact ⟨assignments :: applied, .cons ⟨failed, happlies⟩ hcalls, hadds.append hrest⟩

/-- **The last assignment that was carried out decides.**  A call succeeds exactly if each of its
texts has a root before its first equals sign and a package behind it; otherwise it fails on the
first that has not.  Only what stands before that one is added, and how pages are shown is not
touched.  After any calls, failed ones among them, the package of an identifier is that of the last
assignment carried out for its root, else the one that the root had before, else the root's own
name.  In whatever order the entries of the configuration are collected into a table, the table says
the same. -/
theorem assigned_packages (config : Config) (calls : List (List String)) :
    (∀ texts, ∃ assignments failed, Applies texts assignments failed ∧
      (config.assignAll texts).2 = failed.map AssignmentError.mk ∧
      ((config.assignAll texts).2 = none ↔
        ∀ text ∈ texts, ∃ root package, Assigns text root package) ∧
      Adds config assignments (config.assignAll texts).1) ∧
    ∃ applied : List (List (String × String)),
      List.Forall₂ (fun texts assignments => ∃ failed, Applies texts assignments failed) calls
        applied ∧
      Adds config applied.flatten (config.afterCalls calls) ∧
      ∀ id : Identifier,
        let name := if id.outermost.kind = .root then id.outermost.name else id.name
        let package := ((latest applied.flatten name).or (config.packages.find? name)).getD name
        (config.afterCalls calls).settings.packages.packageOf id = package ∧
          ∀ listing, (config.afterCalls calls).packages.Lists listing →
            (Packages.ofList listing).packageOf id = package := by
  constructor
  · intro texts
    obtain ⟨assignments, failed, happlies, hfailed, hadds⟩ := exists_adds_assignAll texts config
    refine ⟨assignments, failed, happlies, hfailed, ?_, hadds⟩
    rw [hfailed, Option.map_eq_none_iff, happlies.failed_eq_none_iff]
  · obtain ⟨applied, hcalls, hadds⟩ := exists_adds_afterCalls calls config
    refine ⟨applied, hcalls, hadds, fun id => ?_⟩
    have hpackage : (config.afterCalls calls).packages.packageOf id = _ :=
      Packages.packageOf_eq _ id
    simp only [hadds.find?] at hpackage
    refine ⟨hpackage, fun listing hlisting => ?_⟩
    rw [hlisting.ofList_eq, hpackage]

/-- A file with two entries. -/
def sampleConfig : Config :=
  { semanticUris := true, packages := .ofList [("Std", "stdlib"), ("Foo", "old")] }

/-- Two calls.  The second one fails, after its first text has been carried out. -/
def sampleCalls : List (List String) :=
  [["Foo=new", "Bar=a=b"], ["Foo=newer", "=x", "Std=never"]]

theorem assigned_sampleCalls :
    let final := sampleConfig.afterCalls sampleCalls
    let listing := [("Std", "stdlib"), ("Foo", "newer"), ("Bar", "a=b")]
    let value := (Identifier.top .root "Foo").child .value "x"
    final.packages.Lists listing ∧
      (Packages.ofList listing).packageOf value = final.settings.packages.packageOf value ∧
      final.settings.packages.packageOf value = "newer" ∧
      (sampleConfig.assignAll ["Foo=new", "Bar=a=b"]).2 = none ∧
      ∀ text ∈ ["Foo=new", "Bar=a=b"], ∃ root package, Assigns text root package := by
  intro final listing value
  have hlisting : final.packages.Lists listing := .of_perm (by decide)
  obtain ⟨hcall, applied, -, -, hpackage⟩ := assigned_packages sampleConfig sampleCalls
  obtain ⟨hvalue, hlisted⟩ := hpackage value
  obtain ⟨-, -, -, -, hsucceeds, -⟩ := hcall ["Foo=new", "Bar=a=b"]
  have hnone : (sampleConfig.assignAll ["Foo=new", "Bar=a=b"]).2 = none := by decide
  exact ⟨hlisting, (hlisted listing hlisting).trans hvalue.symm, by decide, hnone,
    hsucceeds.mp hnone⟩

end Config

end DocSite
