import DocSite.Markup.Definition

/-!
# Nodes of a page

Where a node stands in a page does not matter for what is proved about pages: ids and links are
looked for among all nodes.  These are the rules for the list of all nodes, one for each way in
which markup is put together.
-/

namespace DocSite

namespace Row

def id? : Row → Option String
  | mk id _ => id

def cells : Row → List Cell
  | mk _ cells => cells

end Row

namespace Cell

def children : Cell → Markup
  | mk _ children => children

end Cell

namespace Markup

@[simp] theorem allNodes_append (a b : Markup) : allNodes (a ++ b) = allNodes a ++ allNodes b := by
  induction a with
  | nil => rfl
  | cons n ns ih => simp [allNodes, ih]

theorem allNodes_subset_of_mem {n : Node} {ns : Markup} (h : n ∈ ns) :
    n.allNodes ⊆ allNodes ns := by
  obtain ⟨before, after, rfl⟩ := List.append_of_mem h
  simp [allNodes]

theorem mem_allNodes_of_mem {n : Node} {ns : Markup} (h : n ∈ ns) : n ∈ allNodes ns := by
  refine allNodes_subset_of_mem h ?_
  cases n <;> simp [Node.allNodes]

/-- Nodes that are the items of a list, one in each, are nodes of the page. -/
@[simp] theorem allNodesOfItems_singletons (ns : Markup) :
    Node.allNodesOfItems (ns.map fun n => [n]) = allNodes ns := by
  induction ns with
  | nil => rfl
  | cons n ns ih => simp [Node.allNodesOfItems, allNodes, ih]

/-- The nodes of a definition are nodes of the declaration around it. -/
theorem allNodes_definition_subset (kind : String) (anchor : Option String)
    (definition doc : Markup) :
    allNodes definition ⊆ (declaration kind anchor definition doc).allNodes := by
  intro n hn
  simp [declaration, block, Node.allNodes, allNodes, hn]

end Markup

namespace Node

theorem mem_allNodesOfItems {n : Node} {items : List Markup} :
    n ∈ allNodesOfItems items ↔ ∃ item ∈ items, n ∈ Markup.allNodes item := by
  induction items with
  | nil => simp [allNodesOfItems]
  | cons item items ih => simp [allNodesOfItems, ih]

end Node

theorem Cell.mem_allNodes {n : Node} {cells : List Cell} :
    n ∈ Cell.allNodes cells ↔ ∃ cell ∈ cells, n ∈ Markup.allNodes cell.children := by
  induction cells with
  | nil => simp [Cell.allNodes]
  | cons cell cells ih =>
    obtain ⟨cls, children⟩ := cell
    simp [Cell.allNodes, Cell.children, ih]

/-- The nodes of a table are those of its cells. -/
theorem Row.mem_allNodes {n : Node} {rows : List Row} :
    n ∈ Row.allNodes rows ↔
      ∃ row ∈ rows, ∃ cell ∈ row.cells, n ∈ Markup.allNodes cell.children := by
  induction rows with
  | nil => simp [Row.allNodes]
  | cons row rows ih =>
    obtain ⟨id, cells⟩ := row
    simp [Row.allNodes, Row.cells, Cell.mem_allNodes, ih]

namespace Definition

theorem allNodes_block_subset {node : Node} :
    ∀ {parts : List Part} {pending : Markup}, Part.block node ∈ parts →
      Markup.allNodes [node] ⊆ Markup.allNodes (layoutFrom pending parts)
  | .inline tokens :: parts, pending, h => by
    have h' : Part.block node ∈ parts := by simpa using h
    rw [layoutFrom]
    exact allNodes_block_subset h'
  | .block first :: parts, pending, h => by
    rw [layoutFrom, Markup.allNodes_append]
    refine List.Subset.trans ?_ (List.subset_append_right _ _)
    rcases List.mem_cons.mp h with heq | h
    · obtain rfl : node = first := Part.block.inj heq
      simp [Markup.allNodes]
    · rw [Markup.allNodes]
      exact List.Subset.trans (allNodes_block_subset h) (List.subset_append_right _ _)

end Definition

end DocSite
