/-!
# Escaping

A character with a meaning of its own is written as an entity, and every other stands for itself.
There are two ways to do that.  `Escape.text` goes through the text once and looks each character up
in a table.  `Escape.html` goes through it once for each of the five special characters; the
ampersand has to come first, since every entity begins with one.
-/

namespace DocSite.Escape

/-- The entities of element content and attribute values. -/
def entity? : Char → Option String
  | '&' => some "&amp;"
  | '<' => some "&lt;"
  | '>' => some "&gt;"
  | '"' => some "&quot;"
  | '\'' => some "&#x27;"
  | _ => none

/-- The entities of text that the page template takes in, where the slash has one too. -/
def slotEntity? : Char → Option String
  | '/' => some "&#x2F;"
  | c => entity? c

/-- What stands for one character. -/
def char (table : Char → Option String) (c : Char) : List Char :=
  match table c with
  | some e => e.toList
  | none => [c]

/-- The text with every character escaped by the table. -/
def text (table : Char → Option String) (s : String) : String :=
  String.ofList (s.toList.flatMap (char table))

/-- The text with one character replaced by an entity throughout. -/
def substitute (special : Char) (entity : String) (cs : List Char) : List Char :=
  cs.flatMap fun c => if c = special then entity.toList else [c]

/-- The special characters of element content and attribute values, in the order in which they are
replaced. -/
def stages : List (Char × String) :=
  [('&', "&amp;"), ('<', "&lt;"), ('>', "&gt;"), ('"', "&quot;"), ('\'', "&#x27;")]

/-- The text as element content or attribute value. -/
def html (s : String) : String :=
  String.ofList (stages.foldl (fun cs stage => substitute stage.1 stage.2 cs) s.toList)

/-- The text as a value of the page template. -/
def slot (s : String) : String := text slotEntity? s

end DocSite.Escape
