import DocSite.Exchange.Slot

/-!
# Data are read from every spelling

One datum has many spellings as JSON.  The members of a record may stand in any order and among
others that nobody knows, a field with a default may be missing when it has that value, a record may
be the array of its fields, and a variant without payload may be an object.  `Spells` is the
relation between a datum and its spellings at a slot.

The main result is `read_of_spells`: a datum is read from each of its spellings as long as the limit
on brackets allows, and otherwise nothing is read.  Only brackets outside of unknown members count;
`nestingAt` counts them, with the slot as a guide to what is known.  The other result,
`read_of_repeats`, is about the one thing an object must not do: a member that is known and given
twice is an error, unless all of it lies in a member that is not known.

The format has to be in order.  Fields of one record must be told apart by their names, and a field
that may be left out must have null as its default, since it is when it is null that it is left out.
`Slot.tidy` is that condition; it is about the format alone, so it is evaluated once for a table and
not for each value.
-/

namespace DocSite.Exchange

/-! ## Formats in order -/

namespace Slot

variable {N : Type}

mutual

/-- Whether the fields of every record have names of their own, and those that may be left out are
null when they are. -/
def tidy : Slot N → Bool
  | text => true
  | flag => true
  | number _ => true
  | nullable s => s.tidy
  | list s => s.tidy
  | tuple ss => tidyAll ss
  | record fs => tidyFields fs
  | choice vs => tidyVariants vs
  | ref _ => true

@[inherit_doc tidy]
def tidyAll : List (Slot N) → Bool
  | [] => true
  | s :: ss => s.tidy && tidyAll ss

@[inherit_doc tidy]
def tidyFields : List (Field (Slot N)) → Bool
  | [] => true
  | ⟨name, s, default, elide⟩ :: fs =>
    !(fs.map Field.name).contains name && (!elide || default matches some .null) && s.tidy &&
      tidyFields fs

@[inherit_doc tidy]
def tidyVariants : List (String × Option (Slot N)) → Bool
  | [] => true
  | (_, none) :: vs => tidyVariants vs
  | (_, some s) :: vs => s.tidy && tidyVariants vs

end

theorem tidy_resolve {table : N → Slot N} (htable : ∀ n, (table n).tidy = true) {slot : Slot N}
    (h : slot.tidy = true) : (slot.resolve table).tidy = true := by
  fun_induction resolve table slot with
  | case1 s ih => exact ih h
  | case2 n => exact htable n
  | case3 s => exact h

theorem tidy_payload {vs : List (String × Option (Slot N))} (h : tidyVariants vs = true)
    {name : String} {s : Slot N} (hs : payload? vs name = some (some s)) : s.tidy = true := by
  induction vs with
  | nil => cases hs
  | cons v vs ih =>
    obtain ⟨n, s'⟩ := v
    by_cases hname : name == n
    · -- the first variant of that name is the one meant
      simp only [payload?, List.lookup_cons, hname, Option.some.injEq] at hs
      rw [hs, tidyVariants, Bool.and_eq_true] at h
      exact h.1
    · simp only [payload?, List.lookup_cons, hname] at hs
      have hrest : tidyVariants vs = true := by
        cases s' with
        | none => exact h
        | some s' =>
          rw [tidyVariants, Bool.and_eq_true] at h
          exact h.2
      exact ih hrest hs

theorem tidyFields_cons {f : Field (Slot N)} {fs : List (Field (Slot N))}
    (h : tidyFields (f :: fs) = true) :
    (∀ f' ∈ fs, f'.name ≠ f.name) ∧ (f.elide = true → f.default = some .null) ∧
      f.slot.tidy = true ∧ tidyFields fs = true := by
  obtain ⟨name, s, default, elide⟩ := f
  simp only [tidyFields, Bool.and_eq_true, Bool.not_eq_true', Bool.or_eq_true] at h
  obtain ⟨⟨⟨hname, helide⟩, hs⟩, hfs⟩ := h
  refine ⟨fun f' hf' heq => ?_, fun h => ?_, hs, hfs⟩
  · have hmem : name ∈ fs.map Field.name := List.mem_map.2 ⟨f', hf', heq⟩
    simp [hmem] at hname
  · rcases helide with hkept | hnull
    · exact absurd (h.symm.trans hkept) (by decide)
    · split at hnull
      · rfl
      · exact absurd hnull (by decide)

end Slot

/-! ## Spellings -/

variable {N : Type} (table : N → Slot N)

mutual

/-- The value spells the datum at a slot. -/
def Spells (slot : Slot N) : Datum → Json → Prop
  | .null, j => slot.isNullable = true ∧ j = .null
  | .flag b, j => slot.resolve table = .flag ∧ j = .bool b
  | .number n, j => (∃ bound, slot.resolve table = .number bound ∧ n < bound) ∧ j = .natural n
  | .text s, j => slot.resolve table = .text ∧ j = .string s
  | .list ds, j =>
    match slot.resolve table with
    | .list item => ∃ js, j = .array js ∧ SpellsList item ds js
    | .tuple items => ∃ js, j = .array js ∧ SpellsTuple items ds js
    | .record fields =>
      -- known members in any order, among unknown ones with any values, or the fields in a row
      (∃ members known unknown, j = .object members ∧ members.Perm (known ++ unknown) ∧
        SpellsFields fields ds known ∧
        ∀ m ∈ unknown, ∃ name, m.1 = some name ∧ ∀ f ∈ fields, f.name ≠ name) ∨
      ∃ js, j = .array js ∧ SpellsPositions fields ds js
    | _ => False
  | .variant name d, j =>
    match slot.resolve table with
    | .choice variants =>
      match Slot.payload? variants name with
      | some (some payload) => ∃ j', j = .object [(some name, j')] ∧ Spells payload d j'
      | some none => d = .null ∧ (j = .string name ∨ j = .object [(some name, .null)])
      | none => False
    | _ => False

/-- The items of a list, all alike. -/
def SpellsList (item : Slot N) : List Datum → List Json → Prop
  | [], js => js = []
  | d :: ds, js => ∃ j rest, js = j :: rest ∧ Spells item d j ∧ SpellsList item ds rest

/-- The items of a tuple, each at its place. -/
def SpellsTuple (items : List (Slot N)) : List Datum → List Json → Prop
  | [], js => items = [] ∧ js = []
  | d :: ds, js =>
    match items with
    | [] => False
    | s :: ss => ∃ j rest, js = j :: rest ∧ Spells s d j ∧ SpellsTuple ss ds rest

/-- The fields of a record, as known members in the order of their declaration.  A field that has
its default may be missing. -/
def SpellsFields (fields : List (Field (Slot N))) : List Datum → List (Json.Text × Json) → Prop
  | [], known => fields = [] ∧ known = []
  | d :: ds, known =>
    match fields with
    | [] => False
    | f :: fs =>
      (f.default = some d ∧ SpellsFields fs ds known) ∨
      ∃ j rest, known = (some f.name, j) :: rest ∧ Spells f.slot d j ∧ SpellsFields fs ds rest

/-- The fields of a record in a row.  At its end fields that have their defaults may be missing. -/
def SpellsPositions (fields : List (Field (Slot N))) : List Datum → List Json → Prop
  | [], js => fields = [] ∧ js = []
  | d :: ds, js =>
    match fields with
    | [] => False
    | f :: fs =>
      (js = [] ∧ f.default = some d ∧ SpellsPositions fs ds []) ∨
      ∃ j rest, js = j :: rest ∧ Spells f.slot d j ∧ SpellsPositions fs ds rest

end

/-! ### Ways to spell -/

section Ways

variable {table} {slot : Slot N} {ds : List Datum}

theorem Spells.list {item : Slot N} (h : slot.resolve table = .list item) {js : List Json}
    (hjs : SpellsList table item ds js) : Spells table slot (.list ds) (.array js) := by
  rw [Spells, h]
  exact ⟨js, rfl, hjs⟩

theorem Spells.tuple {items : List (Slot N)} (h : slot.resolve table = .tuple items)
    {js : List Json} (hjs : SpellsTuple table items ds js) :
    Spells table slot (.list ds) (.array js) := by
  rw [Spells, h]
  exact ⟨js, rfl, hjs⟩

theorem Spells.object {fields : List (Field (Slot N))} (h : slot.resolve table = .record fields)
    {members known unknown : List (Json.Text × Json)} (hperm : members.Perm (known ++ unknown))
    (hknown : SpellsFields table fields ds known)
    (hunknown : ∀ m ∈ unknown, ∃ name, m.1 = some name ∧ ∀ f ∈ fields, f.name ≠ name) :
    Spells table slot (.list ds) (.object members) := by
  rw [Spells, h]
  exact .inl ⟨members, known, unknown, rfl, hperm, hknown, hunknown⟩

theorem Spells.positions {fields : List (Field (Slot N))} (h : slot.resolve table = .record fields)
    {js : List Json} (hjs : SpellsPositions table fields ds js) :
    Spells table slot (.list ds) (.array js) := by
  rw [Spells, h]
  exact .inr ⟨js, rfl, hjs⟩

section Fields

variable {f : Field (Slot N)} {fs : List (Field (Slot N))} {d : Datum} {j : Json}

theorem SpellsFields.missing {known : List (Json.Text × Json)} (hd : f.default = some d)
    (h : SpellsFields table fs ds known) : SpellsFields table (f :: fs) (d :: ds) known := by
  rw [SpellsFields]
  exact .inl ⟨hd, h⟩

theorem SpellsFields.present {known : List (Json.Text × Json)} (hj : Spells table f.slot d j)
    (h : SpellsFields table fs ds known) :
    SpellsFields table (f :: fs) (d :: ds) ((some f.name, j) :: known) := by
  rw [SpellsFields]
  exact .inr ⟨j, known, rfl, hj, h⟩

theorem SpellsPositions.missing (hd : f.default = some d) (h : SpellsPositions table fs ds []) :
    SpellsPositions table (f :: fs) (d :: ds) [] := by
  rw [SpellsPositions]
  exact .inl ⟨rfl, hd, h⟩

theorem SpellsPositions.present {js : List Json} (hj : Spells table f.slot d j)
    (h : SpellsPositions table fs ds js) : SpellsPositions table (f :: fs) (d :: ds) (j :: js) := by
  rw [SpellsPositions]
  exact .inr ⟨j, js, rfl, hj, h⟩

end Fields

variable {variants : List (String × Option (Slot N))} {name : String}

theorem Spells.tagged (h : slot.resolve table = .choice variants) {payload : Slot N}
    (hname : Slot.payload? variants name = some (some payload)) {d : Datum} {j : Json}
    (hj : Spells table payload d j) :
    Spells table slot (.variant name d) (.object [(some name, j)]) := by
  rw [Spells, h]
  simp only [hname]
  exact ⟨j, rfl, hj⟩

theorem Spells.bare (h : slot.resolve table = .choice variants)
    (hname : Slot.payload? variants name = some none) {j : Json}
    (hj : j = .string name ∨ j = .object [(some name, .null)]) :
    Spells table slot (.variant name .null) j := by
  rw [Spells, h]
  simp only [hname]
  exact ⟨trivial, hj⟩

end Ways

/-! ## What is known -/

namespace Slot

/-- The slot of the item at a place of an array; there is none where no item is read. -/
def item? (slot : Slot N) (i : Nat) : Option (Slot N) :=
  match slot.resolve table with
  | .list item => some item
  | .tuple items => items[i]?
  | .record fields => fields[i]?.map Field.slot
  | _ => none

/-- The slot of the member with a key; there is none if the member is not read. -/
def member? (slot : Slot N) (key : Json.Text) : Option (Slot N) :=
  match slot.resolve table with
  | .record fields => (fields.find? fun f => key == some f.name).map Field.slot
  | .choice variants => (key.bind (payload? variants)).join
  | _ => none

end Slot

mutual

/-- How many brackets are open at once in a value, not counting those inside of what is not read. -/
def nestingAt (slot : Slot N) : Json → Nat
  | .scalar _ => 0
  | .array js => nestingAtItems slot 0 js + 1
  | .object ms => nestingAtMembers slot ms + 1

/-- The items of an array, from a place on. -/
def nestingAtItems (slot : Slot N) (i : Nat) : List Json → Nat
  | [] => 0
  | j :: js =>
    max (match slot.item? table i with
      | some s => nestingAt s j
      | none => 0) (nestingAtItems slot (i + 1) js)

/-- The members of an object. -/
def nestingAtMembers (slot : Slot N) : List (Json.Text × Json) → Nat
  | [] => 0
  | (k, j) :: ms =>
    max (match slot.member? table k with
      | some s => nestingAt s j
      | none => 0) (nestingAtMembers slot ms)

end

theorem nestingAtItems_cons {slot s : Slot N} {i : Nat} (h : slot.item? table i = some s) (j : Json)
    (js : List Json) :
    nestingAtItems table slot i (j :: js) =
      max (nestingAt table s j) (nestingAtItems table slot (i + 1) js) := by
  rw [nestingAtItems, h]

theorem nestingAtMembers_cons {slot s : Slot N} {k : Json.Text} (h : slot.member? table k = some s)
    (j : Json) (ms : List (Json.Text × Json)) :
    nestingAtMembers table slot ((k, j) :: ms) =
      max (nestingAt table s j) (nestingAtMembers table slot ms) := by
  rw [nestingAtMembers, h]

/-- Somewhere in what is read of the value, a record has a field twice. -/
inductive Repeats : Slot N → Json → Prop
  | field {slot : Slot N} {fields : List (Field (Slot N))} {f : Field (Slot N)}
      {ms : List (Json.Text × Json)} (hslot : slot.resolve table = .record fields)
      (hf : f ∈ fields) (h : 1 < (ms.map Prod.fst).count (some f.name)) : Repeats slot (.object ms)
  | item {slot s : Slot N} {i : Nat} {j : Json} {js : List Json} (hj : js[i]? = some j)
      (hs : slot.item? table i = some s) (h : Repeats s j) : Repeats slot (.array js)
  | member {slot s : Slot N} {k : Json.Text} {j : Json} {ms : List (Json.Text × Json)}
      (hm : (k, j) ∈ ms) (hs : slot.member? table k = some s) (h : Repeats s j) :
      Repeats slot (.object ms)

section Known

variable {table} {slot : Slot N}

theorem item?_list {item : Slot N} (h : slot.resolve table = .list item) (i : Nat) :
    slot.item? table i = some item := by
  rw [Slot.item?, h]

theorem item?_tuple {items : List (Slot N)} (h : slot.resolve table = .tuple items) (i : Nat) :
    slot.item? table i = items[i]? := by
  rw [Slot.item?, h]

theorem item?_record {fields : List (Field (Slot N))} (h : slot.resolve table = .record fields)
    (i : Nat) : slot.item? table i = fields[i]?.map Field.slot := by
  rw [Slot.item?, h]

theorem find?_field {fields : List (Field (Slot N))} (htidy : Slot.tidyFields fields = true)
    {f : Field (Slot N)} (hf : f ∈ fields) :
    (fields.find? fun f' => some f.name == some f'.name) = some f := by
  induction fields with
  | nil => cases hf
  | cons f' fs ih =>
    obtain ⟨hapart, -, -, hrest⟩ := Slot.tidyFields_cons htidy
    rcases List.mem_cons.mp hf with rfl | hf
    · exact List.find?_cons_of_pos (beq_self_eq_true _)
    · have hne : (some f.name == some f'.name) = false := by
        simpa using hapart f hf
      rw [List.find?_cons, hne]
      exact ih hrest hf

theorem member?_field {fields : List (Field (Slot N))} (h : slot.resolve table = .record fields)
    (htidy : Slot.tidyFields fields = true) {f : Field (Slot N)} (hf : f ∈ fields) :
    slot.member? table (some f.name) = some f.slot := by
  rw [Slot.member?, h]
  exact congrArg (Option.map Field.slot) (find?_field htidy hf)

theorem member?_unknown {fields : List (Field (Slot N))} (h : slot.resolve table = .record fields)
    {name : String} (hname : ∀ f ∈ fields, f.name ≠ name) :
    slot.member? table (some name) = none := by
  have hfind : (fields.find? fun f => some name == some f.name) = none := by
    rw [List.find?_eq_none]
    intro f hf
    simpa using (hname f hf).symm
  rw [Slot.member?, h]
  exact congrArg (Option.map Field.slot) hfind

theorem member?_choice {variants : List (String × Option (Slot N))}
    (h : slot.resolve table = .choice variants) {name : String} {payload : Option (Slot N)}
    (hname : Slot.payload? variants name = some payload) :
    slot.member? table (some name) = payload := by
  rw [Slot.member?, h]
  exact congrArg Option.join hname

end Known

/-! ## Reading within a limit -/

/-- A value, if what it costs stays within a limit. -/
def within {α : Type} (cost limit : Nat) (a : α) : Option α :=
  if cost ≤ limit then some a else none

section Within

variable {α β γ : Type}

@[simp] theorem within_zero (limit : Nat) (a : α) : within 0 limit a = some a := by
  simp [within]

theorem within_succ (cost limit : Nat) (a : α) :
    within (cost + 1) (limit + 1) a = within cost limit a := by
  simp [within]

theorem within_succ_zero (cost : Nat) (a : α) : within (cost + 1) 0 a = none := by
  simp [within]

theorem map_within (f : α → β) (cost limit : Nat) (a : α) :
    (within cost limit a).map f = within cost limit (f a) := by
  unfold within
  split <;> rfl

theorem within_bind (cost limit : Nat) (a : α) (f : α → Option β) :
    (within cost limit a).bind f = if cost ≤ limit then f a else none := by
  unfold within
  split <;> rfl

/-- Two values in turn stay within a limit when the dearer one does. -/
theorem within_bind_within (f : α → β → γ) (m n limit : Nat) (a : α) (b : β) :
    ((within m limit a).bind fun x => (within n limit b).bind fun y => some (f x y)) =
      within (max m n) limit (f a b) := by
  have hmax : max m n ≤ limit ↔ m ≤ limit ∧ n ≤ limit := Nat.max_le
  by_cases hm : m ≤ limit
  · by_cases hn : n ≤ limit <;> simp [within, hmax, hm, hn]
  · simp [within, hmax, hm]

end Within

/-! ## One step of reading -/

section Step

variable {table} {slot : Slot N}

/-- What is read from a scalar does not depend on the limit. -/
theorem read_scalar {s : Json.Scalar} {d : Datum}
    (h : ∀ inner, readStep table inner slot (.scalar s) = some d) (depth : Nat) :
    read table depth slot (.scalar s) = some d := by
  cases depth with
  | zero => exact h _
  | succ depth => exact h _

/-- What stands in brackets is read within one less than the limit around them. -/
theorem read_bracketed {j : Json} {cost : Nat} {d : Datum} (hj : j.isScalar = false)
    (h : ∀ depth, readStep table (read table depth) slot j = within cost depth d) (depth : Nat) :
    read table depth slot j = within (cost + 1) depth d := by
  cases depth with
  | zero => simp [read, hj, within_succ_zero]
  | succ depth => exact (h depth).trans (within_succ cost depth d).symm

theorem not_null_at {j : Json} (h : j.isNull = false) :
    ¬ (slot.isNullable && j.isNull) = true := by
  rw [h, Bool.and_false]
  decide

variable (inner : Slot N → Json → Option Datum)

theorem readStep_null (h : slot.isNullable = true) :
    readStep table inner slot .null = some .null := by
  unfold readStep
  rw [h]
  rfl

/-- Apart from null, a slot is read as what it resolves to. -/
theorem readStep_congr (slot' : Slot N) (h : slot.resolve table = slot'.resolve table) {j : Json}
    (hj : j.isNull = false) : readStep table inner slot j = readStep table inner slot' j := by
  unfold readStep
  rw [if_neg (not_null_at hj), if_neg (not_null_at hj), h]

theorem readStep_flag (h : slot.resolve table = .flag) (b : Bool) :
    readStep table inner slot (.bool b) = some (.flag b) :=
  readStep_congr inner .flag h rfl

theorem readStep_number {n bound : Nat} (h : slot.resolve table = .number bound) (hn : n < bound) :
    readStep table inner slot (.natural n) = some (.number n) :=
  (readStep_congr inner (.number bound) h rfl).trans (if_pos hn)

theorem readStep_text (h : slot.resolve table = .text) (s : String) :
    readStep table inner slot (.string s) = some (.text s) :=
  readStep_congr inner .text h rfl

theorem readStep_list {item : Slot N} (h : slot.resolve table = .list item) (js : List Json) :
    readStep table inner slot (.array js) = (readList inner item js).map .list :=
  readStep_congr inner (.list item) h rfl

theorem readStep_tuple {items : List (Slot N)} (h : slot.resolve table = .tuple items)
    (js : List Json) :
    readStep table inner slot (.array js) = (readTuple inner items js).map .list :=
  readStep_congr inner (.tuple items) h rfl

theorem readStep_positions {fields : List (Field (Slot N))}
    (h : slot.resolve table = .record fields) (js : List Json) :
    readStep table inner slot (.array js) = (readPositions inner fields js).map .list :=
  readStep_congr inner (.record fields) h rfl

theorem readStep_record {fields : List (Field (Slot N))} (h : slot.resolve table = .record fields)
    {members : List (Json.Text × Json)} (hnamed : ∀ m ∈ members, m.1.isSome = true) :
    readStep table inner slot (.object members) = (readMembers inner members fields).map .list := by
  have hall : (members.all fun m => m.1.isSome) = true := List.all_eq_true.2 hnamed
  exact (readStep_congr inner (.record fields) h rfl).trans (if_pos hall)

variable {variants : List (String × Option (Slot N))} {name : String}

theorem readStep_bare (h : slot.resolve table = .choice variants)
    (hname : Slot.payload? variants name = some none) :
    readStep table inner slot (.string name) = some (.variant name .null) := by
  unfold readStep
  rw [if_neg (not_null_at rfl), h, Json.string]
  simp only [hname]

theorem readStep_bareObject (h : slot.resolve table = .choice variants)
    (hname : Slot.payload? variants name = some none) :
    readStep table inner slot (.object [(some name, .null)]) = some (.variant name .null) := by
  unfold readStep
  rw [if_neg (not_null_at rfl), h]
  simp only [hname]
  rfl

theorem readStep_tagged {payload : Slot N} (h : slot.resolve table = .choice variants)
    (hname : Slot.payload? variants name = some (some payload)) (j : Json) :
    readStep table inner slot (.object [(some name, j)]) =
      (inner payload j).map (.variant name) := by
  unfold readStep
  rw [if_neg (not_null_at rfl), h]
  simp only [hname]

end Step

/-! ## Members in any order -/

section Members

variable {table}

/-- The members that bear a name, if none of them does. -/
theorem filter_name_eq_nil {members : List (Json.Text × Json)} {name : String}
    (h : ∀ m ∈ members, m.1 ≠ some name) :
    (members.filter fun m => m.1 == some name) = [] := by
  rw [List.filter_eq_nil_iff]
  intro m hm
  simpa using h m hm

variable {inner : Slot N → Json → Option Datum} {f : Field (Slot N)} {fs : List (Field (Slot N))}

theorem readMembers_missing {members : List (Json.Text × Json)} {d : Datum}
    (hmembers : ∀ m ∈ members, m.1 ≠ some f.name) (hdefault : f.default = some d) :
    readMembers inner members (f :: fs) =
      (readMembers inner members fs).map fun ds => d :: ds := by
  rw [readMembers, filter_name_eq_nil hmembers]
  cases readMembers inner members fs <;> simp [hdefault]

theorem readMembers_present {before after : List (Json.Text × Json)} {j : Json}
    (hbefore : ∀ m ∈ before, m.1 ≠ some f.name) (hafter : ∀ m ∈ after, m.1 ≠ some f.name) :
    readMembers inner (before ++ (some f.name, j) :: after) (f :: fs) =
      (inner f.slot j).bind fun d =>
        (readMembers inner (before ++ (some f.name, j) :: after) fs).bind fun ds =>
          some (d :: ds) := by
  rw [readMembers, List.filter_append, List.filter_cons, filter_name_eq_nil hbefore,
    filter_name_eq_nil hafter]
  simp

/-- The order of members does not matter. -/
theorem readMembers_perm {ms ms' : List (Json.Text × Json)} (h : ms.Perm ms')
    (fields : List (Field (Slot N))) :
    readMembers inner ms fields = readMembers inner ms' fields := by
  induction fields with
  | nil => rfl
  | cons f fs ih =>
    have hfilter := h.filter fun m => m.1 == some f.name
    rw [readMembers, readMembers, ih]
    -- the members of that name are none, one or more on both sides
    rcases hms : ms.filter (fun m => m.1 == some f.name) with _ | ⟨m, _ | ⟨n, rest⟩⟩
    · rw [hms] at hfilter
      rw [hms, List.nil_perm.mp hfilter]
    · rw [hms] at hfilter
      rw [hms, ← List.singleton_perm.mp hfilter]
    · have hlength := hfilter.length_eq
      rw [hms] at hlength
      rcases hms' : ms'.filter (fun m => m.1 == some f.name) with _ | ⟨m', _ | ⟨n', rest'⟩⟩
      · simp [hms'] at hlength
      · simp [hms'] at hlength
      · rw [hms, hms']

theorem nestingAtMembers_perm {slot : Slot N} {ms ms' : List (Json.Text × Json)}
    (h : ms.Perm ms') : nestingAtMembers table slot ms = nestingAtMembers table slot ms' := by
  induction h with
  | nil => rfl
  | cons m _ ih => rw [nestingAtMembers, nestingAtMembers, ih]
  | swap m n ms =>
    simp only [nestingAtMembers]
    omega
  | trans _ _ ih ih' => rw [ih, ih']

theorem nestingAtMembers_append (slot : Slot N) (ms ms' : List (Json.Text × Json)) :
    nestingAtMembers table slot (ms ++ ms') =
      max (nestingAtMembers table slot ms) (nestingAtMembers table slot ms') := by
  induction ms with
  | nil => exact (Nat.zero_max _).symm
  | cons m ms ih =>
    rw [List.cons_append, nestingAtMembers, nestingAtMembers, ih, Nat.max_assoc]

/-- Brackets in unknown members are not counted. -/
theorem nestingAtMembers_unknown {slot : Slot N} {ms : List (Json.Text × Json)}
    (h : ∀ m ∈ ms, slot.member? table m.1 = none) : nestingAtMembers table slot ms = 0 := by
  induction ms with
  | nil => rfl
  | cons m ms ih =>
    obtain ⟨hm, hms⟩ := List.forall_mem_cons.mp h
    rw [nestingAtMembers, hm, ih hms, Nat.max_self]

end Members

/-! ## Reading what is spelled -/

section Reading

variable {table}

/-- The keys of known members are names of fields. -/
theorem exists_field_of_spellsFields {fields : List (Field (Slot N))} {ds : List Datum}
    {known : List (Json.Text × Json)} (h : SpellsFields table fields ds known)
    {m : Json.Text × Json} (hm : m ∈ known) : ∃ f ∈ fields, m.1 = some f.name := by
  induction ds generalizing fields known with
  | nil =>
    rw [SpellsFields] at h
    rw [h.2] at hm
    cases hm
  | cons d ds ih =>
    cases fields with
    | nil =>
      rw [SpellsFields] at h
      exact h.elim
    | cons f fs =>
      have hlater {rest : List (Json.Text × Json)} (hrest : SpellsFields table fs ds rest)
          (hm : m ∈ rest) : ∃ f' ∈ f :: fs, m.1 = some f'.name := by
        obtain ⟨f', hf', hname⟩ := ih hrest hm
        exact ⟨f', List.mem_cons_of_mem f hf', hname⟩
      rw [SpellsFields] at h
      rcases h with ⟨-, hrest⟩ | ⟨j, rest, rfl, -, hrest⟩
      · exact hlater hrest hm
      · rcases List.mem_cons.mp hm with rfl | hm
        · exact ⟨f, List.mem_cons_self, rfl⟩
        · exact hlater hrest hm

/-- A record is read from its members, the known ones among the unknown ones, if it is read from the
known ones in order. -/
theorem readStep_of_spells {slot : Slot N} {fields : List (Field (Slot N))} {ds : List Datum}
    {members known unknown : List (Json.Text × Json)} {depth : Nat}
    (hslot : slot.resolve table = .record fields) (htidy : Slot.tidyFields fields = true)
    (hperm : members.Perm (known ++ unknown)) (hknown : SpellsFields table fields ds known)
    (hunknown : ∀ m ∈ unknown, ∃ name, m.1 = some name ∧ ∀ f ∈ fields, f.name ≠ name)
    (hread : (∀ f ∈ fields, slot.member? table (some f.name) = some f.slot) →
      ∀ others : List (Json.Text × Json), (∀ m ∈ others, ∀ f ∈ fields, m.1 ≠ some f.name) →
        readMembers (read table depth) (others ++ known) fields =
          within (nestingAtMembers table slot known) depth ds) :
    readStep table (read table depth) slot (.object members) =
      within (nestingAtMembers table slot members) depth (.list ds) := by
  have hnamed : ∀ m ∈ members, m.1.isSome = true := by
    intro m hm
    rcases List.mem_append.mp (hperm.mem_iff.mp hm) with hm | hm
    · obtain ⟨f, -, hname⟩ := exists_field_of_spellsFields hknown hm
      rw [hname]
      rfl
    · obtain ⟨name, hname, -⟩ := hunknown m hm
      rw [hname]
      rfl
  have hothers : ∀ m ∈ unknown, ∀ f ∈ fields, m.1 ≠ some f.name := by
    intro m hm f hf heq
    obtain ⟨name, hname, hapart⟩ := hunknown m hm
    exact hapart f hf (Option.some.inj (heq.symm.trans hname))
  have hignored : ∀ m ∈ unknown, slot.member? table m.1 = none := by
    intro m hm
    obtain ⟨name, hname, hapart⟩ := hunknown m hm
    rw [hname]
    exact member?_unknown hslot hapart
  have hcount : nestingAtMembers table slot members = nestingAtMembers table slot known := by
    rw [nestingAtMembers_perm hperm, nestingAtMembers_append, nestingAtMembers_unknown hignored]
    exact Nat.max_zero _
  rw [readStep_record _ hslot hnamed, readMembers_perm (hperm.trans List.perm_append_comm),
    hread (fun f hf => member?_field hslot htidy hf) unknown hothers, map_within, hcount]

mutual

/-- A datum is read from its spelling if the brackets of what is known in it stay within the limit,
and nothing is read if they do not.  The induction is over the datum; the slot changes with it. -/
theorem read_of_spells (htable : ∀ n, (table n).tidy = true) :
    (d : Datum) → (slot : Slot N) → slot.tidy = true → {j : Json} → Spells table slot d j →
    (depth : Nat) → read table depth slot j = within (nestingAt table slot j) depth d
  | .null, slot, _, j, h, depth => by
    obtain ⟨hslot, rfl⟩ := h
    exact (read_scalar (fun inner => readStep_null inner hslot) depth).trans (within_zero ..).symm
  | .flag b, slot, _, j, h, depth => by
    obtain ⟨hslot, rfl⟩ := h
    exact (read_scalar (fun inner => readStep_flag inner hslot b) depth).trans (within_zero ..).symm
  | .number n, slot, _, j, h, depth => by
    obtain ⟨⟨bound, hslot, hn⟩, rfl⟩ := h
    exact (read_scalar (fun inner => readStep_number inner hslot hn) depth).trans
      (within_zero ..).symm
  | .text s, slot, _, j, h, depth => by
    obtain ⟨hslot, rfl⟩ := h
    exact (read_scalar (fun inner => readStep_text inner hslot s) depth).trans (within_zero ..).symm
  | .list ds, slot, htidy, j, h, depth => by
    have hresolved := Slot.tidy_resolve htable htidy
    rw [Spells] at h
    split at h
    · next item hslot =>
      obtain ⟨js, rfl, hjs⟩ := h
      rw [hslot] at hresolved
      refine read_bracketed rfl (fun depth => ?_) depth
      rw [readStep_list _ hslot,
        readList_of_spells htable ds item hresolved hjs depth 0 (item?_list hslot), map_within]
    · next items hslot =>
      obtain ⟨js, rfl, hjs⟩ := h
      rw [hslot] at hresolved
      refine read_bracketed rfl (fun depth => ?_) depth
      have hitems : ∀ k, slot.item? table (0 + k) = items[k]? := by
        intro k
        rw [Nat.zero_add, item?_tuple hslot]
      rw [readStep_tuple _ hslot, readTuple_of_spells htable ds items hresolved hjs depth 0 hitems,
        map_within]
    · next fields hslot =>
      rw [hslot] at hresolved
      rcases h with ⟨members, known, unknown, rfl, hperm, hknown, hunknown⟩ | ⟨js, rfl, hjs⟩
      · refine read_bracketed rfl (fun depth => ?_) depth
        exact readStep_of_spells hslot hresolved hperm hknown hunknown
          (readMembers_of_spells htable ds fields hresolved hknown depth)
      · refine read_bracketed rfl (fun depth => ?_) depth
        have hfields : ∀ k, slot.item? table (0 + k) = fields[k]?.map Field.slot := by
          intro k
          rw [Nat.zero_add, item?_record hslot]
        rw [readStep_positions _ hslot,
          readPositions_of_spells htable ds fields hresolved hjs depth 0 hfields, map_within]
    · exact h.elim
  | .variant name d, slot, htidy, j, h, depth => by
    have hresolved := Slot.tidy_resolve htable htidy
    rw [Spells] at h
    split at h
    · next variants hslot =>
      rw [hslot] at hresolved
      split at h
      · next payload hname =>
        obtain ⟨j', rfl, hj'⟩ := h
        have hpayload : payload.tidy = true := Slot.tidy_payload hresolved hname
        have hcount :
            nestingAtMembers table slot [(some name, j')] = nestingAt table payload j' := by
          rw [nestingAtMembers_cons table (member?_choice hslot hname)]
          exact Nat.max_zero _
        refine read_bracketed rfl (fun depth => ?_) depth
        rw [readStep_tagged _ hslot hname, hcount, read_of_spells htable d payload hpayload hj',
          map_within]
      · next hname =>
        obtain ⟨rfl, rfl | rfl⟩ := h
        · exact (read_scalar (fun inner => readStep_bare inner hslot hname) depth).trans
            (within_zero ..).symm
        · have hcount : nestingAtMembers table slot [(some name, .null)] = 0 := by
            rw [nestingAtMembers, member?_choice hslot hname]
            rfl
          refine read_bracketed rfl (fun depth => ?_) depth
          rw [readStep_bareObject _ hslot hname, hcount, within_zero]
      · exact h.elim
    · exact h.elim

theorem readList_of_spells (htable : ∀ n, (table n).tidy = true) :
    (ds : List Datum) → (item : Slot N) → item.tidy = true → {js : List Json} →
    SpellsList table item ds js → (depth : Nat) → {slot : Slot N} → (i : Nat) →
    (∀ k, slot.item? table k = some item) →
    readList (read table depth) item js = within (nestingAtItems table slot i js) depth ds
  | [], _, _, js, h, depth, slot, i, _ => by
    rw [SpellsList] at h
    rw [h, readList]
    exact (within_zero depth []).symm
  | d :: ds, item, htidy, js, h, depth, slot, i, hitem => by
    rw [SpellsList] at h
    obtain ⟨j, rest, rfl, hj, hrest⟩ := h
    rw [readList, read_of_spells htable d item htidy hj,
      readList_of_spells htable ds item htidy hrest depth (i + 1) hitem,
      nestingAtItems_cons table (hitem i)]
    exact within_bind_within List.cons ..

theorem readTuple_of_spells (htable : ∀ n, (table n).tidy = true) :
    (ds : List Datum) → (items : List (Slot N)) → Slot.tidyAll items = true → {js : List Json} →
    SpellsTuple table items ds js → (depth : Nat) → {slot : Slot N} → (i : Nat) →
    (∀ k, slot.item? table (i + k) = items[k]?) →
    readTuple (read table depth) items js = within (nestingAtItems table slot i js) depth ds
  | [], items, _, js, h, depth, slot, i, _ => by
    rw [SpellsTuple] at h
    rw [h.1, h.2, readTuple]
    exact (within_zero depth []).symm
  | d :: ds, [], _, js, h, depth, slot, i, _ => by
    rw [SpellsTuple] at h
    exact h.elim
  | d :: ds, s :: ss, htidy, js, h, depth, slot, i, hitems => by
    rw [SpellsTuple] at h
    obtain ⟨j, rest, rfl, hj, hrest⟩ := h
    rw [Slot.tidyAll, Bool.and_eq_true] at htidy
    have hhere : slot.item? table i = some s := hitems 0
    have hlater : ∀ k, slot.item? table (i + 1 + k) = ss[k]? := by
      intro k
      rw [Nat.add_assoc, Nat.add_comm 1 k, hitems, List.getElem?_cons_succ]
    rw [readTuple, read_of_spells htable d s htidy.1 hj,
      readTuple_of_spells htable ds ss htidy.2 hrest depth (i + 1) hlater,
      nestingAtItems_cons table hhere]
    exact within_bind_within List.cons ..

theorem readPositions_of_spells (htable : ∀ n, (table n).tidy = true) :
    (ds : List Datum) → (fields : List (Field (Slot N))) → Slot.tidyFields fields = true →
    {js : List Json} → SpellsPositions table fields ds js → (depth : Nat) → {slot : Slot N} →
    (i : Nat) → (∀ k, slot.item? table (i + k) = fields[k]?.map Field.slot) →
    readPositions (read table depth) fields js = within (nestingAtItems table slot i js) depth ds
  | [], fields, _, js, h, depth, slot, i, _ => by
    rw [SpellsPositions] at h
    rw [h.1, h.2, readPositions]
    exact (within_zero depth []).symm
  | d :: ds, [], _, js, h, depth, slot, i, _ => by
    rw [SpellsPositions] at h
    exact h.elim
  | d :: ds, f :: fs, htidy, js, h, depth, slot, i, hfields => by
    obtain ⟨-, -, hslot, hrest⟩ := Slot.tidyFields_cons htidy
    have hlater : ∀ k, slot.item? table (i + 1 + k) = fs[k]?.map Field.slot := by
      intro k
      rw [Nat.add_assoc, Nat.add_comm 1 k, hfields, List.getElem?_cons_succ]
    rw [SpellsPositions] at h
    rcases h with ⟨rfl, hdefault, hds⟩ | ⟨j, rest, rfl, hj, hds⟩
    · rw [readPositions, hdefault,
        readPositions_of_spells htable ds fs hrest hds depth (i + 1) hlater]
      exact within_bind_within List.cons 0 0 depth d ds
    · have hhere : slot.item? table i = some f.slot := hfields 0
      rw [readPositions, read_of_spells htable d f.slot hslot hj,
        readPositions_of_spells htable ds fs hrest hds depth (i + 1) hlater,
        nestingAtItems_cons table hhere]
      exact within_bind_within List.cons ..

/-- All members are searched for each field, so those of other fields and the unknown ones stand
around, as `others`. -/
theorem readMembers_of_spells (htable : ∀ n, (table n).tidy = true) :
    (ds : List Datum) → (fields : List (Field (Slot N))) → Slot.tidyFields fields = true →
    {known : List (Json.Text × Json)} → SpellsFields table fields ds known → (depth : Nat) →
    {slot : Slot N} → (∀ f ∈ fields, slot.member? table (some f.name) = some f.slot) →
    (others : List (Json.Text × Json)) → (∀ m ∈ others, ∀ f ∈ fields, m.1 ≠ some f.name) →
    readMembers (read table depth) (others ++ known) fields =
      within (nestingAtMembers table slot known) depth ds
  | [], fields, _, known, h, depth, slot, _, others, _ => by
    rw [SpellsFields] at h
    rw [h.1, h.2, readMembers]
    exact (within_zero depth []).symm
  | d :: ds, [], _, known, h, depth, slot, _, others, _ => by
    rw [SpellsFields] at h
    exact h.elim
  | d :: ds, f :: fs, htidy, known, h, depth, slot, hmember, others, hothers => by
    obtain ⟨hapart, -, hslot, hrest⟩ := Slot.tidyFields_cons htidy
    obtain ⟨hhere, hlater⟩ := List.forall_mem_cons.mp hmember
    have haside : ∀ m ∈ others, m.1 ≠ some f.name :=
      fun m hm => hothers m hm f List.mem_cons_self
    have hafter {rest : List (Json.Text × Json)} (hds : SpellsFields table fs ds rest) :
        ∀ m ∈ rest, m.1 ≠ some f.name := by
      intro m hm heq
      obtain ⟨f', hf', hname⟩ := exists_field_of_spellsFields hds hm
      exact hapart f' hf' (Option.some.inj (hname.symm.trans heq))
    rw [SpellsFields] at h
    rcases h with ⟨hdefault, hds⟩ | ⟨j, rest, rfl, hj, hds⟩
    · have hothers' : ∀ m ∈ others, ∀ f' ∈ fs, m.1 ≠ some f'.name :=
        fun m hm f' hf' => hothers m hm f' (List.mem_cons_of_mem f hf')
      have hnone : ∀ m ∈ others ++ known, m.1 ≠ some f.name :=
        List.forall_mem_append.mpr ⟨haside, hafter hds⟩
      rw [readMembers_missing hnone hdefault,
        readMembers_of_spells htable ds fs hrest hds depth hlater others hothers', map_within]
    · have hothers' : ∀ m ∈ others ++ [(some f.name, j)], ∀ f' ∈ fs, m.1 ≠ some f'.name := by
        intro m hm f' hf'
        rcases List.mem_append.mp hm with hm | hm
        · exact hothers m hm f' (List.mem_cons_of_mem f hf')
        · rw [List.mem_singleton.mp hm]
          exact fun heq => hapart f' hf' (Option.some.inj heq).symm
      have hread := readMembers_of_spells htable ds fs hrest hds depth hlater _ hothers'
      rw [← List.append_cons] at hread
      rw [readMembers_present haside (hafter hds), hread, read_of_spells htable d f.slot hslot hj,
        nestingAtMembers_cons table hhere]
      exact within_bind_within List.cons ..

end

end Reading

/-! ## Fields given twice -/

section Repeating

variable {table} {slot s : Slot N} {inner : Slot N → Json → Option Datum}

theorem readList_eq_none {item : Slot N} {js : List Json} {i : Nat} {j : Json}
    (hj : js[i]? = some j) (h : inner item j = none) : readList inner item js = none := by
  induction js generalizing i with
  | nil => cases hj
  | cons j' js ih =>
    rw [readList]
    cases i with
    | zero =>
      rw [Option.some.inj hj, h]
      rfl
    | succ i =>
      rw [ih hj]
      cases inner item j' <;> rfl

theorem readTuple_eq_none {items : List (Slot N)} {js : List Json} {i : Nat} {j : Json}
    (hj : js[i]? = some j) (hs : items[i]? = some s) (h : inner s j = none) :
    readTuple inner items js = none := by
  induction js generalizing items i with
  | nil => cases hj
  | cons j' js ih =>
    cases items with
    | nil => rfl
    | cons s' ss =>
      rw [readTuple]
      cases i with
      | zero =>
        rw [Option.some.inj hj, Option.some.inj hs, h]
        rfl
      | succ i =>
        rw [ih hj hs]
        cases inner s' j' <;> rfl

theorem readPositions_eq_none {fields : List (Field (Slot N))} {js : List Json} {i : Nat} {j : Json}
    (hj : js[i]? = some j) (hs : fields[i]?.map Field.slot = some s) (h : inner s j = none) :
    readPositions inner fields js = none := by
  induction js generalizing fields i with
  | nil => cases hj
  | cons j' js ih =>
    cases fields with
    | nil => rfl
    | cons f fs =>
      rw [readPositions]
      cases i with
      | zero =>
        have hslot : f.slot = s := Option.some.inj hs
        rw [Option.some.inj hj, hslot, h]
        rfl
      | succ i =>
        rw [ih hj hs]
        cases inner f.slot j' <;> rfl

/-- An array is not read if one of the items that are read is not. -/
theorem readStep_array_eq_none {js : List Json} {i : Nat} {j : Json} (hj : js[i]? = some j)
    (hs : slot.item? table i = some s) (h : inner s j = none) :
    readStep table inner slot (.array js) = none := by
  unfold Slot.item? at hs
  split at hs
  · next item hslot =>
    rw [readStep_list _ hslot, readList_eq_none hj (Option.some.inj hs ▸ h), Option.map_none]
  · next items hslot => rw [readStep_tuple _ hslot, readTuple_eq_none hj hs h, Option.map_none]
  · next fields hslot =>
    rw [readStep_positions _ hslot, readPositions_eq_none hj hs h, Option.map_none]
  · cases hs

/-- Fields are read one after the other, and all have to be. -/
theorem readMembers_eq_none {ms : List (Json.Text × Json)} {fields : List (Field (Slot N))}
    {f : Field (Slot N)} (hf : f ∈ fields)
    (h : ∀ fs, readMembers inner ms (f :: fs) = none) : readMembers inner ms fields = none := by
  induction fields with
  | nil => cases hf
  | cons f' fs ih =>
    rcases List.mem_cons.mp hf with rfl | hf
    · exact h fs
    · rw [readMembers, ih hf]
      split
      · cases f'.default <;> rfl
      · next m _ => cases inner f'.slot m.2 <;> rfl
      · rfl

theorem readMembers_repeated {ms : List (Json.Text × Json)} {f : Field (Slot N)}
    (h : 1 < (ms.map Prod.fst).count (some f.name)) (fs : List (Field (Slot N))) :
    readMembers inner ms (f :: fs) = none := by
  have hlength : (ms.filter fun m => m.1 == some f.name).length =
      (ms.map Prod.fst).count (some f.name) := by
    rw [List.count_eq_countP, List.countP_map, List.countP_eq_length_filter]
    rfl
  rw [← hlength] at h
  rw [readMembers]
  split
  · next hnil => simp [hnil] at h
  · next m hone => simp [hone] at h
  · rfl

theorem readMembers_unread {ms : List (Json.Text × Json)} {f : Field (Slot N)} {j : Json}
    (hm : (some f.name, j) ∈ ms) (h : inner f.slot j = none) (fs : List (Field (Slot N))) :
    readMembers inner ms (f :: fs) = none := by
  have hmem : (some f.name, j) ∈ ms.filter fun m => m.1 == some f.name :=
    List.mem_filter.mpr ⟨hm, beq_self_eq_true _⟩
  rw [readMembers]
  split
  · next hnil =>
    rw [hnil] at hmem
    cases hmem
  · next m hone =>
    rw [hone] at hmem
    rw [← List.mem_singleton.mp hmem, h]
    rfl
  · rfl

/-- A record is not read if one of its fields cannot be. -/
theorem readStep_object_eq_none {fields : List (Field (Slot N))} {f : Field (Slot N)}
    {ms : List (Json.Text × Json)} (hslot : slot.resolve table = .record fields) (hf : f ∈ fields)
    (h : ∀ fs, readMembers inner ms (f :: fs) = none) :
    readStep table inner slot (.object ms) = none := by
  by_cases hnamed : ∀ m ∈ ms, m.1.isSome = true
  · rw [readStep_record _ hslot hnamed, readMembers_eq_none hf h, Option.map_none]
  · have hall : ¬ (ms.all fun m => m.1.isSome) = true := by
      rwa [List.all_eq_true]
    exact (readStep_congr inner (.record fields) hslot rfl).trans (if_neg hall)

/-- An object is not read if one of the members that are read is not. -/
theorem readStep_member_eq_none {ms : List (Json.Text × Json)} {k : Json.Text} {j : Json}
    (hm : (k, j) ∈ ms) (hs : slot.member? table k = some s) (h : inner s j = none) :
    readStep table inner slot (.object ms) = none := by
  unfold Slot.member? at hs
  split at hs
  · next fields hslot =>
    obtain ⟨f, hfind, rfl⟩ := Option.map_eq_some_iff.mp hs
    have hkey : k = some f.name := by simpa using List.find?_some hfind
    rw [hkey] at hm
    exact readStep_object_eq_none hslot (List.mem_of_find?_eq_some hfind) (readMembers_unread hm h)
  · next variants hslot =>
    -- a variant is read from an object with one member only
    rcases ms with _ | ⟨⟨key, j'⟩, _ | ⟨m, rest⟩⟩
    · cases hm
    · obtain ⟨rfl, rfl⟩ := Prod.mk.inj (List.mem_singleton.mp hm)
      cases k with
      | none => cases hs
      | some name =>
        have hname : Slot.payload? variants name = some (some s) := Option.join_eq_some_iff.mp hs
        rw [readStep_tagged _ hslot hname, h, Option.map_none]
    · refine (readStep_congr inner (.choice variants) hslot rfl).trans ?_
      cases key <;> rfl
  · cases hs

/-- Nothing is read from a value in which a field is given twice, however deep it lies and whatever
the limit is. -/
theorem read_of_repeats {j : Json} (h : Repeats table slot j) (depth : Nat) :
    read table depth slot j = none := by
  induction h generalizing depth with
  | field hslot hf hcount =>
    cases depth with
    | zero => rfl
    | succ depth => exact readStep_object_eq_none hslot hf (readMembers_repeated hcount)
  | item hj hs _ ih =>
    cases depth with
    | zero => rfl
    | succ depth => exact readStep_array_eq_none hj hs (ih depth)
  | member hm hs _ ih =>
    cases depth with
    | zero => rfl
    | succ depth => exact readStep_member_eq_none hm hs (ih depth)

end Repeating

end DocSite.Exchange
