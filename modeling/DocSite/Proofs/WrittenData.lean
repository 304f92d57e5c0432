import DocSite.Proofs.Nesting
import DocSite.Proofs.SpelledData

/-!
# Data are read back from what is written

`write` takes a datum to JSON by a slot and `read` goes the other way with a limit on the brackets.
The main result, `read_write`, says that for a datum that fits its slot the one undoes the other as
long as the limit allows, and that otherwise nothing is read: not a bracket too many is forgiven and
none is counted twice.

What is written is one of the spellings of the datum, so it is read like any other.  It has no
members that nobody knows, so all its brackets count.
-/

namespace DocSite.Exchange

/-! ## Data that fit -/

variable {N : Type} (table : N → Slot N)

mutual

/-- Whether a datum can stand at a slot. -/
def Fits (slot : Slot N) : Datum → Prop
  | .null => slot.isNullable = true
  | .flag _ => slot.resolve table = .flag
  | .number n =>
    match slot.resolve table with
    | .number bound => n < bound
    | _ => False
  | .text _ => slot.resolve table = .text
  | .list ds =>
    match slot.resolve table with
    | .list item => FitsList item ds
    | .tuple items => FitsTuple items ds
    | .record fields => FitsFields fields ds
    | _ => False
  | .variant name d =>
    match slot.resolve table with
    | .choice variants =>
      match Slot.payload? variants name with
      | some (some payload) => Fits payload d
      | some none => d = .null
      | none => False
    | _ => False

@[inherit_doc Fits]
def FitsList (item : Slot N) : List Datum → Prop
  | [] => True
  | d :: ds => Fits item d ∧ FitsList item ds

@[inherit_doc Fits]
def FitsTuple (items : List (Slot N)) : List Datum → Prop
  | [] => items = []
  | d :: ds =>
    match items with
    | [] => False
    | s :: ss => Fits s d ∧ FitsTuple ss ds

@[inherit_doc Fits]
def FitsFields (fields : List (Field (Slot N))) : List Datum → Prop
  | [] => fields = []
  | d :: ds =>
    match fields with
    | [] => False
    | f :: fs => Fits f.slot d ∧ FitsFields fs ds

end

/-! ## One step of writing -/

section Write

variable {table} {slot : Slot N}

/-- A datum is written at a slot as at what the slot resolves to. -/
theorem write_congr (slot' : Slot N) (h : slot.resolve table = slot'.resolve table) (d : Datum) :
    write table slot d = write table slot' d := by
  cases d <;> simp only [write, payloadSlot, h]

theorem write_list {item : Slot N} (h : slot.resolve table = .list item) (ds : List Datum) :
    write table slot (.list ds) = .array (writeList table item ds) :=
  write_congr (.list item) h (.list ds)

theorem write_tuple {items : List (Slot N)} (h : slot.resolve table = .tuple items)
    (ds : List Datum) : write table slot (.list ds) = .array (writeTuple table items ds) :=
  write_congr (.tuple items) h (.list ds)

theorem write_record {fields : List (Field (Slot N))} (h : slot.resolve table = .record fields)
    (ds : List Datum) : write table slot (.list ds) = .object (writeFields table fields ds) :=
  write_congr (.record fields) h (.list ds)

variable {variants : List (String × Option (Slot N))} {name : String}

theorem write_bare (h : slot.resolve table = .choice variants)
    (hname : Slot.payload? variants name = some none) (d : Datum) :
    write table slot (.variant name d) = .string name := by
  have hpayload : payloadSlot table slot name = none := by
    rw [payloadSlot, h]
    exact congrArg Option.join hname
  rw [write, hpayload]

theorem write_tagged {payload : Slot N} (h : slot.resolve table = .choice variants)
    (hname : Slot.payload? variants name = some (some payload)) (d : Datum) :
    write table slot (.variant name d) = .object [(some name, write table payload d)] := by
  have hpayload : payloadSlot table slot name = some payload := by
    rw [payloadSlot, h]
    exact congrArg Option.join hname
  rw [write, hpayload]

end Write

/-! ## Members of a written record -/

/-- A field is left out, which it is only when it is null, or it is written. -/
theorem writeFields_cons_cases (f : Field (Slot N)) (fs : List (Field (Slot N))) (d : Datum)
    (ds : List Datum) :
    (f.elide = true ∧ d = .null ∧
      writeFields table (f :: fs) (d :: ds) = writeFields table fs ds) ∨
    writeFields table (f :: fs) (d :: ds) =
      (some f.name, write table f.slot d) :: writeFields table fs ds := by
  by_cases h : f.elide = true ∧ d = .null
  · obtain ⟨helide, rfl⟩ := h
    exact .inl ⟨helide, rfl, by simp [writeFields, helide]⟩
  · refine .inr ?_
    rw [writeFields]
    exact fun helide hd => h ⟨helide, hd⟩

/-! ## What is written is a spelling -/

section Spelling

variable {table}

mutual

/-- What is written for a datum that fits spells it. -/
theorem spells_write (htable : ∀ n, (table n).tidy = true) :
    (d : Datum) → (slot : Slot N) → slot.tidy = true → Fits table slot d →
    Spells table slot d (write table slot d)
  | .null, slot, _, hfits => ⟨hfits, rfl⟩
  | .flag b, slot, _, hfits => ⟨hfits, rfl⟩
  | .number n, slot, _, hfits => by
    rw [Fits] at hfits
    split at hfits
    · next bound hslot => exact ⟨⟨bound, hslot, hfits⟩, rfl⟩
    · exact hfits.elim
  | .text s, slot, _, hfits => ⟨hfits, rfl⟩
  | .list ds, slot, htidy, hfits => by
    have hresolved := Slot.tidy_resolve htable htidy
    rw [Fits] at hfits
    split at hfits
    · next item hslot =>
      rw [hslot] at hresolved
      rw [write_list hslot]
      exact .list hslot (spellsList_writeList htable ds item hresolved hfits)
    · next items hslot =>
      rw [hslot] at hresolved
      rw [write_tuple hslot]
      exact .tuple hslot (spellsTuple_writeTuple htable ds items hresolved hfits)
    · next fields hslot =>
      rw [hslot] at hresolved
      rw [write_record hslot]
      have hknown := spellsFields_writeFields htable ds fields hresolved hfits
      have hperm : (writeFields table fields ds).Perm (writeFields table fields ds ++ []) := by
        rw [List.append_nil]
      exact .object hslot hperm hknown nofun
    · exact hfits.elim
  | .variant name d, slot, htidy, hfits => by
    have hresolved := Slot.tidy_resolve htable htidy
    rw [Fits] at hfits
    split at hfits
    · next variants hslot =>
      rw [hslot] at hresolved
      split at hfits
      · next payload hname =>
        have hpayload : payload.tidy = true := Slot.tidy_payload hresolved hname
        rw [write_tagged hslot hname]
        exact .tagged hslot hname (spells_write htable d payload hpayload hfits)
      · next hname =>
        rw [write_bare hslot hname, hfits]
        exact .bare hslot hname (.inl rfl)
      · exact hfits.elim
    · exact hfits.elim

theorem spellsList_writeList (htable : ∀ n, (table n).tidy = true) :
    (ds : List Datum) → (item : Slot N) → item.tidy = true → FitsList table item ds →
    SpellsList table item ds (writeList table item ds)
  | [], _, _, _ => rfl
  | d :: ds, item, htidy, ⟨hd, hds⟩ =>
    ⟨_, _, rfl, spells_write htable d item htidy hd, spellsList_writeList htable ds item htidy hds⟩

theorem spellsTuple_writeTuple (htable : ∀ n, (table n).tidy = true) :
    (ds : List Datum) → (items : List (Slot N)) → Slot.tidyAll items = true →
    FitsTuple table items ds → SpellsTuple table items ds (writeTuple table items ds)
  | [], items, _, hfits => ⟨hfits, rfl⟩
  | d :: ds, [], _, hfits => hfits.elim
  | d :: ds, s :: ss, htidy, ⟨hd, hds⟩ => by
    rw [Slot.tidyAll, Bool.and_eq_true] at htidy
    exact ⟨_, _, rfl, spells_write htable d s htidy.1 hd,
      spellsTuple_writeTuple htable ds ss htidy.2 hds⟩

theorem spellsFields_writeFields (htable : ∀ n, (table n).tidy = true) :
    (ds : List Datum) → (fields : List (Field (Slot N))) → Slot.tidyFields fields = true →
    FitsFields table fields ds → SpellsFields table fields ds (writeFields table fields ds)
  | [], fields, _, hfits => ⟨hfits, rfl⟩
  | d :: ds, [], _, hfits => hfits.elim
  | d :: ds, f :: fs, htidy, ⟨hd, hds⟩ => by
    obtain ⟨-, hdefault, hslot, hrest⟩ := Slot.tidyFields_cons htidy
    have hfields := spellsFields_writeFields htable ds fs hrest hds
    rcases writeFields_cons_cases table f fs d ds with ⟨helide, rfl, hwrite⟩ | hwrite
    · rw [hwrite]
      exact .missing (hdefault helide) hfields
    · rw [hwrite]
      exact .present (spells_write htable d f.slot hslot hd) hfields

end

/-! ## All brackets that are written count -/

mutual

/-- All brackets that are written for a datum are counted. -/
theorem nestingAt_write (htable : ∀ n, (table n).tidy = true) :
    (d : Datum) → (slot : Slot N) → slot.tidy = true →
    nestingAt table slot (write table slot d) = (write table slot d).nesting
  | .null, _, _ | .flag _, _, _ | .number _, _, _ | .text _, _, _ => rfl
  | .list ds, slot, htidy => by
    have hresolved := Slot.tidy_resolve htable htidy
    rw [write]
    split
    · next item hslot =>
      rw [hslot] at hresolved
      rw [nestingAt, nestingAtItems_writeList htable ds item hresolved 0 (item?_list hslot)]
      rfl
    · next items hslot =>
      rw [hslot] at hresolved
      have hitems : ∀ k, slot.item? table (0 + k) = items[k]? := by
        intro k
        rw [Nat.zero_add, item?_tuple hslot]
      rw [nestingAt, nestingAtItems_writeTuple htable ds items hresolved 0 hitems]
      rfl
    · next fields hslot =>
      rw [hslot] at hresolved
      have hmember : ∀ f ∈ fields, slot.member? table (some f.name) = some f.slot :=
        fun f hf => member?_field hslot hresolved hf
      rw [nestingAt, nestingAtMembers_writeFields htable ds fields hresolved hmember]
      rfl
    · rfl
  | .variant name d, slot, htidy => by
    have hresolved := Slot.tidy_resolve htable htidy
    rw [write]
    split
    · next payload hpayload =>
      unfold payloadSlot at hpayload
      split at hpayload
      · next variants hslot =>
        have hname : Slot.payload? variants name = some (some payload) :=
          Option.join_eq_some_iff.mp hpayload
        rw [hslot] at hresolved
        rw [nestingAt, nestingAtMembers_cons table (member?_choice hslot hname),
          nestingAt_write htable d payload (Slot.tidy_payload hresolved hname)]
        rfl
      · cases hpayload
    · rfl

theorem nestingAtItems_writeList (htable : ∀ n, (table n).tidy = true) :
    (ds : List Datum) → (item : Slot N) → item.tidy = true → {slot : Slot N} → (i : Nat) →
    (∀ k, slot.item? table k = some item) →
    nestingAtItems table slot i (writeList table item ds) =
      Json.nestingItems (writeList table item ds)
  | [], _, _, _, _, _ => rfl
  | d :: ds, item, htidy, slot, i, hitem => by
    rw [writeList, nestingAtItems_cons table (hitem i), nestingAt_write htable d item htidy,
      nestingAtItems_writeList htable ds item htidy (i + 1) hitem, Json.nestingItems]

theorem nestingAtItems_writeTuple (htable : ∀ n, (table n).tidy = true) :
    (ds : List Datum) → (items : List (Slot N)) → Slot.tidyAll items = true → {slot : Slot N} →
    (i : Nat) → (∀ k, slot.item? table (i + k) = items[k]?) →
    nestingAtItems table slot i (writeTuple table items ds) =
      Json.nestingItems (writeTuple table items ds)
  | [], _, _, _, _, _ => rfl
  | _ :: _, [], _, _, _, _ => rfl
  | d :: ds, s :: ss, htidy, slot, i, hitems => by
    rw [Slot.tidyAll, Bool.and_eq_true] at htidy
    have hhere : slot.item? table i = some s := hitems 0
    have hlater : ∀ k, slot.item? table (i + 1 + k) = ss[k]? := by
      intro k
      rw [Nat.add_assoc, Nat.add_comm 1 k, hitems, List.getElem?_cons_succ]
    rw [writeTuple, nestingAtItems_cons table hhere, nestingAt_write htable d s htidy.1,
      nestingAtItems_writeTuple htable ds ss htidy.2 (i + 1) hlater, Json.nestingItems]

theorem nestingAtMembers_writeFields (htable : ∀ n, (table n).tidy = true) :
    (ds : List Datum) → (fields : List (Field (Slot N))) → Slot.tidyFields fields = true →
    {slot : Slot N} → (∀ f ∈ fields, slot.member? table (some f.name) = some f.slot) →
    nestingAtMembers table slot (writeFields table fields ds) =
      Json.nestingMembers (writeFields table fields ds)
  | [], _, _, _, _ => rfl
  | _ :: _, [], _, _, _ => rfl
  | d :: ds, f :: fs, htidy, slot, hmember => by
    obtain ⟨-, -, hslot, hrest⟩ := Slot.tidyFields_cons htidy
    obtain ⟨hhere, hlater⟩ := List.forall_mem_cons.mp hmember
    have hfields := nestingAtMembers_writeFields htable ds fs hrest hlater
    rcases writeFields_cons_cases table f fs d ds with ⟨-, -, hwrite⟩ | hwrite
    · rw [hwrite, hfields]
    · rw [hwrite, nestingAtMembers_cons table hhere, nestingAt_write htable d f.slot hslot, hfields,
        Json.nestingMembers]

end

/-- A datum that fits is read back if the brackets written for it stay within the limit, and nothing
is read if they do not. -/
theorem read_write (htable : ∀ n, (table n).tidy = true) (d : Datum) (slot : Slot N)
    (htidy : slot.tidy = true) (hfits : Fits table slot d) (depth : Nat) :
    read table depth slot (write table slot d) = within (write table slot d).nesting depth d := by
  rw [← nestingAt_write htable d slot htidy]
  exact read_of_spells htable d slot htidy (spells_write htable d slot htidy hfits) depth

end Spelling

/-! ## Numbers in what was written -/

mutual

/-- Only natural numbers are written. -/
theorem plain_write : (d : Datum) → (slot : Slot N) → (write table slot d).Plain
  | .null, _ => trivial
  | .flag _, _ => trivial
  | .number _, _ => trivial
  | .text _, _ => trivial
  | .list ds, slot => by
    rw [write]
    split
    · exact plain_writeList ds _
    · exact plain_writeTuple ds _
    · exact plain_writeFields ds _
    · trivial
  | .variant name d, slot => by
    rw [write]
    split
    · exact ⟨plain_write d _, trivial⟩
    · trivial

theorem plain_writeList : (ds : List Datum) → (item : Slot N) →
    Json.PlainItems (writeList table item ds)
  | [], _ => trivial
  | d :: ds, item => ⟨plain_write d item, plain_writeList ds item⟩

theorem plain_writeTuple : (ds : List Datum) → (items : List (Slot N)) →
    Json.PlainItems (writeTuple table items ds)
  | [], _ => trivial
  | _ :: _, [] => trivial
  | d :: ds, s :: ss => ⟨plain_write d s, plain_writeTuple ds ss⟩

theorem plain_writeFields : (ds : List Datum) → (fields : List (Field (Slot N))) →
    Json.PlainMembers (writeFields table fields ds)
  | [], _ => trivial
  | _ :: _, [] => trivial
  | d :: ds, f :: fs => by
    rcases writeFields_cons_cases table f fs d ds with ⟨-, -, hwrite⟩ | hwrite
    · rw [hwrite]
      exact plain_writeFields ds fs
    · rw [hwrite]
      exact ⟨plain_write d f.slot, plain_writeFields ds fs⟩

end

end DocSite.Exchange
