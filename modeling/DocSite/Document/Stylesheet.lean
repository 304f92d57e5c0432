/-!
# The stylesheet

One stylesheet serves all pages of a site.
-/

namespace DocSite.Stylesheet

/-- A rule: what it applies to, one selector on a line, and what it sets. -/
structure Rule where
  selectors : List String
  declarations : List (String × String)

namespace Rule

def text (r : Rule) : String :=
  ",\n".intercalate r.selectors ++ " \x7b\n" ++
    String.join (r.declarations.map fun d => "  " ++ d.1 ++ ": " ++ d.2 ++ ";\n") ++ "\x7d\n"

end Rule

def rules : List Rule := [
  ⟨["body.odoc"],
    [("max-width", "80ch"), ("margin", "0 auto"), ("padding", "1em 2em"),
      ("font-family", "system-ui, sans-serif"), ("line-height", "1.5")]⟩,
  ⟨["code, pre"], [("font-family", "ui-monospace, monospace")]⟩,
  ⟨[".keyword"], [("font-weight", "bold")]⟩,
  ⟨[".odoc-spec"], [("margin", "1em 0")]⟩,
  ⟨[".spec"],
    [("position", "relative"), ("padding", "0.25em 0.5em"), ("border-left", "3px solid #5c9cf5"),
      ("background", "#f6f8fa")]⟩,
  ⟨[".spec-doc"], [("margin-left", "1.5em")]⟩,
  ⟨["a.anchor"], [("position", "absolute"), ("left", "-1.5em"), ("visibility", "hidden")]⟩,
  ⟨["a.anchor::before"], [("content", "\"#\"")]⟩,
  ⟨[".spec:hover > a.anchor", "tr.anchored:hover a.anchor"], [("visibility", "visible")]⟩,
  ⟨["table.variant", "table.record", "table.extension"],
    [("margin-left", "1em"), ("border-collapse", "collapse")]⟩,
  ⟨["td.doc"], [("padding-left", "1em"), ("color", "#555")]⟩,
  ⟨["details > summary"], [("cursor", "pointer")]⟩,
  ⟨[".odoc-toc"], [("font-size", "0.9em")]⟩,
  ⟨[".xref-unresolved"], [("text-decoration", "underline dotted")]⟩]

/-- The rules, divided by empty lines. -/
def text : String := "\n".intercalate (rules.map Rule.text)

/-- The file of the stylesheet, in the directory of the site. -/
def fileName : String := "odoc.css"

end DocSite.Stylesheet
