import DocSite.Interface.TypeExpr

/-!
# The syntax of types

How the language reads the text of a type, once it is cut into tokens.  There are four levels.  What
binds most tightly is a simple type: a variable, a path, or a path behind its arguments.  Simple
types are multiplied, products are joined by arrows, and an alias, which binds least, names all that
stands before it.  Parentheses make any type simple.  A level is a type of its own here, so that a
tree can only be built if the tokens it is built from can be read in that way: a product has no
place for an arrow, unless the arrow is in a group.

Arrows group to the right.  Application, multiplication and naming group to the left, and so do the
arguments in a list.

Not every row of tokens is a type, but none is a type in two ways: `Phrase.tokens_injective`.  This
is shown by a reader that goes through the tokens once, from left to right, and keeps what it has
read so far: the brackets that are open around it, the arguments before the last comma, the sources
of the arrows it has passed, and the factors of the product it is in.
-/

namespace DocSite

/-- A type as far as it can be seen in its text: a path is known only by what it looks like.  Of the
types that are written with brackets of their own there is none. -/
inductive PlainType where
  | var (name : String)
  | any
  | alias (type : PlainType) (name : String)
  | arrow (label : Option Label) (source target : PlainType)
  | tuple (elements : List PlainType)
  | constr (path : String) (arguments : List PlainType)

namespace TypeSyntax

/-! ## Tokens and trees -/

inductive Token where
  | variable (name : String)
  | any
  | path (text : String)
  | label (label : Label)
  | star
  | arrow
  /-- The word that stands before the name of an alias. -/
  | naming
  | comma
  | opening
  | closing

mutual

/-- What stands for itself in a product: `'a`, `_`, `t`, `'a t`, `('a, 'b) t` and `('a -> 'b)`. -/
inductive Simple where
  | variable (name : String)
  | any
  | path (text : String)
  | apply (argument : Simple) (path : String)
  | applyTo (arguments : Arguments) (last : Phrase) (path : String)
  | group (inner : Phrase)

/-- Simple types with stars between them. -/
inductive Product where
  | one (factor : Simple)
  | times (factors : Product) (last : Simple)

/-- Products with arrows between them. -/
inductive Function where
  | result (product : Product)
  | arrow (label : Option Label) (source : Product) (target : Function)

/-- A whole type, named or not. -/
inductive Phrase where
  | function (function : Function)
  | alias (type : Phrase) (name : String)

/-- The arguments before the last one. -/
inductive Arguments where
  | one (type : Phrase)
  | more (arguments : Arguments) (last : Phrase)

end

mutual

def Simple.tokens : Simple → List Token
  | .variable n => [.variable n]
  | .any => [.any]
  | .path p => [.path p]
  | .apply s p => s.tokens ++ [.path p]
  | .applyTo ws w p => .opening :: (ws.tokens ++ .comma :: (w.tokens ++ [.closing, .path p]))
  | .group w => .opening :: (w.tokens ++ [.closing])

def Product.tokens : Product → List Token
  | .one s => s.tokens
  | .times p s => p.tokens ++ .star :: s.tokens

def Function.tokens : Function → List Token
  | .result p => p.tokens
  | .arrow l p f => (l.map Token.label).toList ++ (p.tokens ++ .arrow :: f.tokens)

def Phrase.tokens : Phrase → List Token
  | .function f => f.tokens
  | .alias w n => w.tokens ++ [.naming, .variable n]

def Arguments.tokens : Arguments → List Token
  | .one w => w.tokens
  | .more ws w => ws.tokens ++ .comma :: w.tokens

end

/-- What an alias names where arrows stand before it: everything before it, as the language has it,
or only what stands behind the last arrow. -/
inductive Naming where
  | everything
  | lastResult

mutual

/-- The type that is meant. -/
def Simple.meaning (naming : Naming) : Simple → PlainType
  | .variable n => .var n
  | .any => .any
  | .path p => .constr p []
  | .apply s p => .constr p [s.meaning naming]
  | .applyTo ws w p => .constr p (ws.meanings naming ++ [w.meaning naming []])
  | .group w => w.meaning naming []

@[inherit_doc Simple.meaning]
def Product.meaning (naming : Naming) : Product → PlainType
  | .one s => s.meaning naming
  | .times p s => .tuple (p.meanings naming ++ [s.meaning naming])

/-- The factors of a product. -/
def Product.meanings (naming : Naming) : Product → List PlainType
  | .one s => [s.meaning naming]
  | .times p s => p.meanings naming ++ [s.meaning naming]

/-- A function whose last result gets some names; there are none if an alias names everything. -/
def Function.meaning (naming : Naming) (names : List String) : Function → PlainType
  | .result p => names.foldl .alias (p.meaning naming)
  | .arrow l p f => .arrow l (p.meaning naming) (f.meaning naming names)

@[inherit_doc Function.meaning]
def Phrase.meaning (naming : Naming) (names : List String) : Phrase → PlainType
  | .function f => f.meaning naming names
  | .alias w n =>
    match naming with
    | .everything => names.foldl .alias (.alias (w.meaning naming []) n)
    | .lastResult => w.meaning naming (n :: names)

@[inherit_doc Simple.meaning]
def Arguments.meanings (naming : Naming) : Arguments → List PlainType
  | .one w => [w.meaning naming []]
  | .more ws w => ws.meanings naming ++ [w.meaning naming []]

end

/-- The type that a phrase is in the language. -/
def Phrase.type (w : Phrase) : PlainType := w.meaning .everything []

/-- An alias names all that stands before it. -/
@[simp] theorem Phrase.type_alias (w : Phrase) (n : String) :
    (Phrase.alias w n).type = .alias w.type n := rfl

/-- Arrows group to the right. -/
@[simp] theorem Phrase.type_arrow (l : Option Label) (p : Product) (f : Function) :
    (Phrase.function (.arrow l p f)).type =
      .arrow l (p.meaning .everything) (Phrase.function f).type := rfl

/-! ## The reader -/

/-- What has been read since a bracket was opened, up to where the reader stands. -/
structure Bracket where
  before : Option Arguments := none
  /-- The sources before the last arrow, the latest one first. -/
  arrows : List (Option Label × Product) := []
  label : Option Label := none
  factors : Option Product := none

/-- What stands directly before the reader. -/
inductive Focus where
  /-- Nothing that belongs to the type that has to follow. -/
  | start
  | simple (type : Simple)
  /-- A list of arguments, whose path has to follow. -/
  | arguments (before : Arguments) (last : Phrase)
  | phrase (type : Phrase)
  /-- A type whose name has to follow. -/
  | naming (type : Phrase)

structure Reader where
  outer : List Bracket
  here : Bracket
  focus : Focus

/-- A product with one more factor. -/
def Product.extend : Option Product → Simple → Product
  | none, s => .one s
  | some p, s => .times p s

/-- A list of arguments with one more argument. -/
def Arguments.extend : Option Arguments → Phrase → Arguments
  | none, w => .one w
  | some ws, w => .more ws w

/-- A function behind some arrows. -/
def Function.after : List (Option Label × Product) → Function → Function
  | [], f => f
  | (l, p) :: arrows, f => after arrows (.arrow l p f)

namespace Reader

/-- The type that ends where the reader stands. -/
def phrase? (r : Reader) : Option Phrase :=
  match r.focus with
  | .simple s =>
    if r.here.label.isNone then
      some (.function (.after r.here.arrows (.result (.extend r.here.factors s))))
    else none
  | .phrase w => some w
  | _ => none

/-- One token further. -/
def step (r : Reader) : Token → Option Reader
  | .variable n =>
    match r.focus with
    | .start => some { r with focus := .simple (.variable n) }
    | .naming w => some { r with focus := .phrase (.alias w n) }
    | _ => none
  | .any =>
    match r.focus with
    | .start => some { r with focus := .simple .any }
    | _ => none
  | .path p =>
    match r.focus with
    | .start => some { r with focus := .simple (.path p) }
    | .simple s => some { r with focus := .simple (.apply s p) }
    | .arguments ws w => some { r with focus := .simple (.applyTo ws w p) }
    | _ => none
  | .label l =>
    match r.focus, r.here.label, r.here.factors with
    | .start, none, none => some { r with here := { r.here with label := some l } }
    | _, _, _ => none
  | .star =>
    match r.focus with
    | .simple s =>
      some ⟨r.outer, { r.here with factors := some (.extend r.here.factors s) }, .start⟩
    | _ => none
  | .arrow =>
    match r.focus with
    | .simple s =>
      some ⟨r.outer,
        { before := r.here.before
          arrows := (r.here.label, .extend r.here.factors s) :: r.here.arrows }, .start⟩
    | _ => none
  | .naming => r.phrase?.map fun w => ⟨r.outer, { before := r.here.before }, .naming w⟩
  | .comma =>
    match r.outer with
    | [] => none
    | _ :: _ =>
      r.phrase?.map fun w => ⟨r.outer, { before := some (.extend r.here.before w) }, .start⟩
  | .opening =>
    match r.focus with
    | .start => some ⟨r.here :: r.outer, {}, .start⟩
    | _ => none
  | .closing =>
    match r.outer with
    | [] => none
    | here :: outer =>
      r.phrase?.map fun w =>
        ⟨outer, here,
          match r.here.before with
          | none => .simple (.group w)
          | some ws => .arguments ws w⟩

def run (r : Reader) : List Token → Option Reader
  | [] => some r
  | t :: ts => (r.step t).bind fun r => r.run ts

theorem run_append (r : Reader) (ts us : List Token) :
    r.run (ts ++ us) = (r.run ts).bind fun r => r.run us := by
  induction ts generalizing r with
  | nil => rfl
  | cons t ts ih =>
    rw [List.cons_append, run, run, Option.bind_assoc]
    exact Option.bind_congr fun r _ => ih r

theorem step_opening (outer : List Bracket) (here : Bracket) :
    step ⟨outer, here, .start⟩ .opening = some ⟨here :: outer, {}, .start⟩ := rfl

section

variable (outer : List Bracket) (before : Option Arguments)
  (arrows : List (Option Label × Product)) (l : Option Label) (factors : Option Product)
  (s : Simple)

theorem step_star : step ⟨outer, ⟨before, arrows, l, factors⟩, .simple s⟩ .star =
    some ⟨outer, ⟨before, arrows, l, some (.extend factors s)⟩, .start⟩ := rfl

theorem step_arrow : step ⟨outer, ⟨before, arrows, l, factors⟩, .simple s⟩ .arrow =
    some ⟨outer, ⟨before, (l, .extend factors s) :: arrows, none, none⟩, .start⟩ := rfl

end

/-- The reader has read a type inside some brackets. -/
structure Holds (r : Reader) (outer : List Bracket) (before : Option Arguments) (w : Phrase) :
    Prop where
  outer : r.outer = outer
  before : r.here.before = before
  phrase : r.phrase? = some w

section

variable {r : Reader} {outer : List Bracket} {before : Option Arguments} {w : Phrase}

theorem Holds.step_naming (h : r.Holds outer before w) :
    r.step .naming = some ⟨outer, { before := before }, .naming w⟩ := by
  rw [step, h.phrase, h.outer, h.before, Option.map_some]

theorem Holds.step_comma {here : Bracket} (h : r.Holds (here :: outer) before w) :
    r.step .comma = some ⟨here :: outer, { before := some (.extend before w) }, .start⟩ := by
  simp only [step, h.outer, h.phrase, h.before, Option.map_some]

theorem Holds.step_closing {here : Bracket} (h : r.Holds (here :: outer) none w) :
    r.step .closing = some ⟨outer, here, .simple (.group w)⟩ := by
  simp only [step, h.outer, h.phrase, h.before, Option.map_some]

theorem Holds.step_closing_arguments {here : Bracket} {ws : Arguments}
    (h : r.Holds (here :: outer) (some ws) w) :
    r.step .closing = some ⟨outer, here, .arguments ws w⟩ := by
  simp only [step, h.outer, h.phrase, h.before, Option.map_some]

end

end Reader

open Reader

/-! ## One reading for each row of tokens -/

theorem run_label (outer : List Bracket) (before : Option Arguments)
    (arrows : List (Option Label × Product)) (l : Option Label) :
    run ⟨outer, ⟨before, arrows, none, none⟩, .start⟩ (l.map Token.label).toList =
      some ⟨outer, ⟨before, arrows, l, none⟩, .start⟩ := by
  cases l <;> rfl

mutual

theorem Simple.run_tokens (outer : List Bracket) (here : Bracket) :
    ∀ s : Simple, run ⟨outer, here, .start⟩ s.tokens = some ⟨outer, here, .simple s⟩
  | .variable n => rfl
  | .any => rfl
  | .path p => rfl
  | .apply s p => by
    rw [Simple.tokens, run_append, Simple.run_tokens outer here s]
    rfl
  | .applyTo ws w p => by
    obtain ⟨r, hrun, hholds⟩ := Phrase.run_tokens (here :: outer) (some ws) w
    rw [Simple.tokens, run, step_opening, Option.bind_some, List.append_cons ws.tokens, run_append,
      Arguments.run_tokens here outer ws, Option.bind_some, run_append, hrun, Option.bind_some, run,
      hholds.step_closing_arguments]
    rfl
  | .group w => by
    obtain ⟨r, hrun, hholds⟩ := Phrase.run_tokens (here :: outer) none w
    rw [Simple.tokens, run, step_opening, Option.bind_some, run_append, hrun, Option.bind_some, run,
      hholds.step_closing]
    rfl

theorem Product.run_tokens (outer : List Bracket) (before : Option Arguments)
    (arrows : List (Option Label × Product)) (l : Option Label) :
    ∀ p : Product, ∃ factors s,
      run ⟨outer, ⟨before, arrows, l, none⟩, .start⟩ p.tokens =
        some ⟨outer, ⟨before, arrows, l, factors⟩, .simple s⟩ ∧ Product.extend factors s = p
  | .one s => ⟨none, s, Simple.run_tokens outer _ s, rfl⟩
  | .times p s => by
    obtain ⟨factors, last, hrun, hextend⟩ := Product.run_tokens outer before arrows l p
    refine ⟨some p, s, ?_, rfl⟩
    rw [Product.tokens, run_append, hrun, Option.bind_some, run, step_star, hextend,
      Option.bind_some, Simple.run_tokens outer _ s]

theorem Function.run_tokens (outer : List Bracket) (before : Option Arguments)
    (arrows : List (Option Label × Product)) :
    ∀ f : Function, ∃ r, run ⟨outer, ⟨before, arrows, none, none⟩, .start⟩ f.tokens = some r ∧
      r.Holds outer before (.function (.after arrows f))
  | .result p => by
    obtain ⟨factors, s, hrun, rfl⟩ := Product.run_tokens outer before arrows none p
    exact ⟨_, hrun, rfl, rfl, rfl⟩
  | .arrow l p f => by
    obtain ⟨factors, s, hproduct, hextend⟩ := Product.run_tokens outer before arrows l p
    obtain ⟨r, hrun, hholds⟩ := Function.run_tokens outer before ((l, p) :: arrows) f
    refine ⟨r, ?_, hholds⟩
    rw [Function.tokens, run_append, run_label, Option.bind_some, run_append, hproduct,
      Option.bind_some, run, step_arrow, hextend, Option.bind_some, hrun]

theorem Phrase.run_tokens (outer : List Bracket) (before : Option Arguments) :
    ∀ w : Phrase, ∃ r, run ⟨outer, ⟨before, [], none, none⟩, .start⟩ w.tokens = some r ∧
      r.Holds outer before w
  | .function f => Function.run_tokens outer before [] f
  | .alias w n => by
    obtain ⟨r, hrun, hholds⟩ := Phrase.run_tokens outer before w
    refine ⟨⟨outer, ⟨before, [], none, none⟩, .phrase (.alias w n)⟩, ?_, rfl, rfl, rfl⟩
    rw [Phrase.tokens, run_append, hrun, Option.bind_some, run, hholds.step_naming]
    rfl

theorem Arguments.run_tokens (here : Bracket) (outer : List Bracket) :
    ∀ ws : Arguments, run ⟨here :: outer, {}, .start⟩ (ws.tokens ++ [.comma]) =
      some ⟨here :: outer, { before := some ws }, .start⟩
  | .one w => by
    obtain ⟨r, hrun, hholds⟩ := Phrase.run_tokens (here :: outer) none w
    rw [Arguments.tokens, run_append, hrun, Option.bind_some, run, hholds.step_comma]
    rfl
  | .more ws w => by
    obtain ⟨r, hrun, hholds⟩ := Phrase.run_tokens (here :: outer) (some ws) w
    rw [Arguments.tokens, List.append_assoc, List.cons_append, List.append_cons ws.tokens,
      run_append, Arguments.run_tokens here outer ws, Option.bind_some, run_append, hrun,
      Option.bind_some, run, hholds.step_comma]
    rfl

end

/-- Reads tokens as a type; in the end no bracket may be open. -/
def read (ts : List Token) : Option Phrase :=
  (run ⟨[], {}, .start⟩ ts).bind fun r => if r.outer.isEmpty then r.phrase? else none

theorem read_tokens (w : Phrase) : read w.tokens = some w := by
  obtain ⟨r, hrun, hholds⟩ := Phrase.run_tokens [] none w
  rw [read, hrun, Option.bind_some, hholds.outer, hholds.phrase]
  rfl

/-- **No row of tokens is a type in two ways.** -/
theorem Phrase.tokens_injective : ∀ w v : Phrase, w.tokens = v.tokens → w = v := by
  intro w v h
  have hread := read_tokens w
  rw [h, read_tokens v] at hread
  exact (Option.some.inj hread).symm

end TypeSyntax

end DocSite
