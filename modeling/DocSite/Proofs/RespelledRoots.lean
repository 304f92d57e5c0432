import DocSite.Proofs.SavedRoots

/-!
# Roots are loaded from every spelling

What a file says about a root is what is read from it, not how it is spelled.  The freedoms are of
two kinds.  `Json.SpelledBy` has those of the text: white space and the escapes of strings.
`Spells` has those of the format: the order of members, members that nobody knows, defaults that are
left out, records as arrays and variants without payload as objects.  The file that is saved is one
of the spellings, and all of them are loaded as the same root, as long as no more than 127 brackets
are open at once outside of unknown members.  What is never forgiven is a known field given twice.
-/

namespace DocSite.Root

open Exchange

section Loading

variable {j : Json} {text : String} {r : Root}

theorem load_eq_check (h : j.SpelledBy text) (hdecode : decode j = some r) :
    load text = r.check.mapError .wrongKind := by
  rw [load, Json.parse_of_spelledBy h, Option.bind_some, hdecode]

theorem load_eq_malformed (h : j.SpelledBy text) (hdecode : (decode j : Option Root) = none) :
    load text = .error .malformed := by
  rw [load, Json.parse_of_spelledBy h, Option.bind_some, hdecode]

theorem decode_of_spells (h : Spells table Format.root (toDatum r) j) :
    decode j = if nestingAt table Format.root j ≤ 127 then some r else none := by
  have hread : read table nestingLimit Format.root j =
      within (nestingAt table Format.root j) nestingLimit (toDatum r) :=
    read_of_spells tidy_table (toDatum r) Format.root rfl h nestingLimit
  have hdecode : (decode j : Option Root) = (read table nestingLimit Format.root j).bind ofDatum? :=
    rfl
  rw [hdecode, hread, within_bind, ofDatum?_toDatum]
  rfl

theorem decode_of_repeats (h : Repeats table Format.root j) :
    (decode j : Option Root) = none := by
  have hdecode : (decode j : Option Root) = (read table nestingLimit Format.root j).bind ofDatum? :=
    rfl
  rw [hdecode, read_of_repeats h, Option.bind_none]

end Loading

/-- **Loading depends only on what is spelled.**  The saved file of a root spells it.  From every
text that spells a root which passes the check, the root is loaded if no more than 127 brackets are
open at once outside of unknown members, and otherwise the text is malformed.  A text in which a
known field is given twice, outside of unknown members, is malformed too. -/
theorem load_respelled {r : Root} (h : r.check = .ok r) :
    (Spells table Format.root (toDatum r) (encode r) ∧ (encode r).SpelledBy r.save) ∧
      ∀ (j : Json) (text : String), j.SpelledBy text →
        (Spells table Format.root (toDatum r) j →
          (nestingAt table Format.root j ≤ 127 → load text = .ok r) ∧
          (127 < nestingAt table Format.root j → load text = .error .malformed)) ∧
        (Repeats table Format.root j → load text = .error .malformed) := by
  refine ⟨⟨?_, Json.spelledBy_print (plain_encode r)⟩, fun j text htext => ⟨fun hj => ⟨?_, ?_⟩, ?_⟩⟩
  · exact spells_write tidy_table (toDatum r) Format.root rfl (fits r)
  · intro hshallow
    have hdecode : decode j = some r := by
      rw [decode_of_spells hj, if_pos hshallow]
    rw [load_eq_check htext hdecode, h]
    rfl
  · intro hdeep
    apply load_eq_malformed htext
    rw [decode_of_spells hj, if_neg (Nat.not_le.2 hdeep)]
  · exact fun hrepeats => load_eq_malformed htext (decode_of_repeats hrepeats)

/-- A unit without anything in it. -/
def emptyUnit : Root := .unit ⟨.top .root "A", [], .module []⟩

/-- The unit with its members in another order, an unknown member given twice, no documentation, the
identifier as an array and its kind as an object. -/
def emptyUnitJson : Json :=
  .object [(some "unit", .object [(some "content", .object [(some "module", .array [])]),
    (some "u", .array [.object []]),
    (some "id", .array [.object [(some "root", .null)], .string "A"]),
    (some "u", .scalar (.numeral "1e0"))])]

/-- The value as a text up to its identifier, with a line break in front. -/
def emptyUnitHead : String :=
  "\n\x7b\"unit\": \x7b\"content\": \x7b\"module\": []\x7d,\"u\": [\x7b\x7d],"

/-- The rest of the text, with the name written by its number and a tab between two brackets. -/
def emptyUnitTail : String :=
  "\"id\": [\x7b\"root\": null\x7d,\"\\u0041\"],\"u\": 1e0\x7d\t\x7d"

theorem spells_emptyUnit : Spells table Format.root (toDatum emptyUnit) emptyUnitJson := by
  have hid : Spells table (.ref .identifier) (.list [.variant "root" .null, .text "A", .null])
      (.array [.object [(some "root", .null)], .string "A"]) := by
    refine .positions rfl (.present (.bare rfl rfl (.inr rfl)) (.present ⟨rfl, rfl⟩ ?_))
    exact .missing rfl ⟨rfl, rfl⟩
  have hcontent : Spells table Format.unitContent (.variant "module" (.list []))
      (.object [(some "module", .array [])]) := .tagged rfl rfl (.list rfl rfl)
  have hknown : SpellsFields table
      [Format.id, Format.doc, Format.field "content" Format.unitContent]
      [.list [.variant "root" .null, .text "A", .null], .list [], .variant "module" (.list [])]
      [(some "id", .array [.object [(some "root", .null)], .string "A"]),
        (some "content", .object [(some "module", .array [])])] :=
    .present hid (.missing rfl (.present hcontent ⟨rfl, rfl⟩))
  have hperm (i c u v : Json.Text × Json) : [c, u, i, v].Perm ([i, c] ++ [u, v]) :=
    show ([c, u] ++ i :: [v]).Perm (i :: ([c, u] ++ [v])) from List.perm_middle
  refine .tagged rfl rfl (.object rfl (hperm ..) hknown ?_)
  intro m hm
  refine ⟨"u", ?_, by decide⟩
  simp only [List.mem_cons, List.not_mem_nil, or_false] at hm
  rcases hm with rfl | rfl <;> rfl

theorem spelledBy_emptyUnit : emptyUnitJson.SpelledBy (emptyUnitHead ++ emptyUnitTail) := by
  have hname : Json.IsScalar (.string "A") "\"\\u0041\"".toList := by
    have hdigits : Json.FourDigits 'A'.toNat "0041".toList :=
      .mk (.inl rfl) (.inl rfl) (.inl rfl) (.inl rfl)
    exact .string (.cons (.char (.number hdigits)) .nil) (List.isChain_singleton _)
  have hnumber : Json.IsScalar (.numeral "1e0") "1e0".toList := by
    have hdigit (d : Char) (hd : d.isDigit = true) : Json.Digits [d] :=
      ⟨List.cons_ne_nil d [], List.forall_mem_singleton.2 hd⟩
    have hone : Json.IsInteger ['1'] := .digits (by decide) (hdigit '1' rfl)
    have hexp : Json.IsExponent ['e', '0'] := .some (.inl rfl) (.inl rfl) (hdigit '0' rfl)
    exact .numeral (.unsigned hone .none hexp (by decide))
  have hblank (c : Char) (hc : c ∈ [' ', '\n', '\r', '\t']) : Json.Blank [c] :=
    List.forall_mem_singleton.2 hc
  have hnil : Json.Blank [] := List.forall_mem_nil _
  have hhead : Json.Spelling _ emptyUnitHead.toList :=
    .blank_append (hblank '\n' (by decide)) <| .mark (t := .openObject) rfl <|
    .key (k := some "unit") <| .mark (t := .openObject) rfl <| .key (k := some "content") <|
    .mark (t := .openObject) rfl <| .key (k := some "module") <| .mark (t := .openArray) rfl <|
    .mark (t := .closeArray) rfl <| .mark (t := .closeObject) rfl <| .mark (t := .comma) rfl <|
    .key (k := some "u") <| .mark (t := .openArray) rfl <| .mark (t := .openObject) rfl <|
    .mark (t := .closeObject) rfl <| .mark (t := .closeArray) rfl <| .mark (t := .comma) rfl <|
    .blank hnil
  have htail : Json.Spelling _ emptyUnitTail.toList :=
    .key (k := some "id") <| .mark (t := .openArray) rfl <| .mark (t := .openObject) rfl <|
    .key (k := some "root") <| .cons (.scalar .null) <| .mark (t := .closeObject) rfl <|
    .mark (t := .comma) rfl <| .cons (.scalar hname) <| .mark (t := .closeArray) rfl <|
    .mark (t := .comma) rfl <| .key (k := some "u") <| .cons (.scalar hnumber) <|
    .mark (t := .closeObject) rfl <| .blank_append (hblank '\t' (by decide)) <|
    .mark (t := .closeObject) rfl (.blank hnil)
  rw [Json.SpelledBy, String.toList_append]
  exact hhead.append htail

/-- The field that names a page, given twice. -/
def twiceNamed : Json :=
  .object [(some "page", .object [(some "name", .natural 0), (some "name", .natural 1)])]

/-- A unit is loaded from a text far from the saved one, and a page with two names is not loaded. -/
theorem load_respelled_emptyUnit :
    emptyUnit.check = .ok emptyUnit ∧ load (emptyUnitHead ++ emptyUnitTail) = .ok emptyUnit ∧
      load twiceNamed.print = .error .malformed := by
  have hcheck : emptyUnit.check = .ok emptyUnit := rfl
  have hrepeats : Repeats table Format.root twiceNamed :=
    .member List.mem_cons_self rfl (.field rfl List.mem_cons_self (by decide))
  have hplain : twiceNamed.Plain := ⟨⟨trivial, trivial, trivial⟩, trivial⟩
  obtain ⟨-, hload⟩ := load_respelled hcheck
  refine ⟨hcheck, ?_, ?_⟩
  · exact ((hload _ _ spelledBy_emptyUnit).1 spells_emptyUnit).1 (by decide)
  · exact (hload _ _ (Json.spelledBy_print hplain)).2 hrepeats

end DocSite.Root
