import DocSite.Proofs.TypeWriting
import Mathlib.Data.List.Chain

/-!
# The layout of a definition

A definition is put together from tokens and blocks, a few at a time and by several hands: the head
of a type, the fields of a record and the result of a constructor each add parts of their own.  The
layout has to hold back the tokens until it knows whether more of them follow, so a token could be
lost, moved behind a block or written twice.

Here the parts are read all at once.  The blocks cut them into gaps, one more than there are blocks
(`Definition.gaps`), and `Definition.collected` puts the tokens of each gap together and leaves out
the gaps without any.  `Definition.layout_eq_collected` says that the layout writes just that.  What
it writes is again a list of parts, since a block can be a piece of code as well: a part still tells
the pieces that the layout has made from those that it was given.
-/

namespace DocSite.Definition

/-! ## Gaps and blocks -/

namespace Part

def isBlock : Part → Bool
  | inline _ => false
  | block _ => true

def block? : Part → Option Node
  | inline _ => none
  | block node => some node

/-- How a part is written: tokens as a piece of code, and a block as it is. -/
def written : Part → Node
  | inline tokens => .code tokens
  | block node => node

/-- One part for all the tokens of a gap, if there are any. -/
def ofGap : Markup → List Part
  | [] => []
  | tokens => [inline tokens]

theorem map_written_ofGap (tokens : Markup) : (ofGap tokens).map written = codeOf tokens := by
  cases tokens <;> rfl

theorem flatMap_nodes_ofGap (tokens : Markup) : (ofGap tokens).flatMap nodes = tokens := by
  cases tokens with
  | nil => rfl
  | cons n ns => exact List.append_nil _

end Part

/-- The blocks among the parts. -/
def blocks (parts : List Part) : List Node := parts.filterMap Part.block?

/-- The tokens before the first block, between any two and after the last. -/
def gaps (parts : List Part) : List Markup :=
  (parts.splitOnP Part.isBlock).map fun gap => gap.flatMap Part.nodes

/-- Gaps and blocks in turn, beginning with a gap. -/
def inTurn : List Markup → List Node → List Part
  | [], _ => []
  | gap :: _, [] => Part.ofGap gap
  | gap :: gaps, node :: nodes => Part.ofGap gap ++ .block node :: inTurn gaps nodes

/-- The parts with the tokens of each gap put together. -/
def collected (parts : List Part) : List Part := inTurn (gaps parts) (blocks parts)

@[simp] theorem gaps_nil : gaps [] = [[]] := rfl

@[simp] theorem blocks_nil : blocks [] = [] := rfl

@[simp] theorem blocks_inline (tokens : Markup) (parts : List Part) :
    blocks (.inline tokens :: parts) = blocks parts := rfl

@[simp] theorem blocks_block (node : Node) (parts : List Part) :
    blocks (.block node :: parts) = node :: blocks parts := rfl

@[simp] theorem gaps_block (node : Node) (parts : List Part) :
    gaps (.block node :: parts) = [] :: gaps parts := by
  rw [gaps, List.splitOnP_cons_eq_if_modifyHead]
  rfl

/-- The gaps after some tokens: the tokens belong to the first of them. -/
@[simp] theorem gaps_inline (tokens : Markup) (parts : List Part) :
    gaps (.inline tokens :: parts) = (gaps parts).modifyHead (tokens ++ ·) := by
  obtain ⟨gap, others, hsplit⟩ :=
    List.exists_cons_of_ne_nil (List.splitOnP_ne_nil Part.isBlock parts)
  rw [gaps, gaps, List.splitOnP_cons_eq_if_modifyHead, hsplit]
  rfl

/-- There is a first gap, whatever the parts are. -/
theorem length_gaps (parts : List Part) : (gaps parts).length = (blocks parts).length + 1 := by
  induction parts with
  | nil => rfl
  | cons part parts ih =>
    cases part with
    | inline tokens => rw [gaps_inline, List.length_modifyHead, ih, blocks_inline]
    | block node => rw [gaps_block, List.length_cons, ih, blocks_block, List.length_cons]

/-! ## The layout -/

theorem modifyHead_nil_append (gaps : List Markup) : gaps.modifyHead ([] ++ ·) = gaps :=
  congrFun List.modifyHead_id gaps

/-- What is pending belongs to the first gap of the parts to come. -/
theorem layoutFrom_eq_inTurn (pending : Markup) (parts : List Part) :
    layoutFrom pending parts =
      (inTurn ((gaps parts).modifyHead (pending ++ ·)) (blocks parts)).map Part.written := by
  induction parts generalizing pending with
  | nil =>
    rw [gaps_nil, List.modifyHead_cons, List.append_nil, blocks_nil, inTurn,
      Part.map_written_ofGap, layoutFrom]
  | cons part parts ih =>
    cases part with
    | inline tokens =>
      have hgap : (pending ++ tokens ++ ·) = (pending ++ ·) ∘ (tokens ++ · : Markup → Markup) :=
        funext fun gap => List.append_assoc pending tokens gap
      rw [layoutFrom, ih, gaps_inline, List.modifyHead_modifyHead, hgap, blocks_inline]
    | block node =>
      rw [layoutFrom, ih, modifyHead_nil_append, gaps_block, List.modifyHead_cons, List.append_nil,
        blocks_block, inTurn, List.map_append, Part.map_written_ofGap, List.map_cons, Part.written]

theorem layout_eq_collected (parts : List Part) :
    layout parts = (collected parts).map Part.written := by
  rw [layout, layoutFrom_eq_inTurn, modifyHead_nil_append, collected]

/-! ## Nothing is lost and nothing is left apart -/

theorem flatMap_nodes_inTurn_modifyHead (tokens : Markup) {gaps : List Markup} (hne : gaps ≠ [])
    (blocks : List Node) :
    (inTurn (gaps.modifyHead (tokens ++ ·)) blocks).flatMap Part.nodes =
      tokens ++ (inTurn gaps blocks).flatMap Part.nodes := by
  obtain ⟨gap, others, rfl⟩ := List.exists_cons_of_ne_nil hne
  rw [List.modifyHead_cons]
  cases blocks with
  | nil => rw [inTurn, inTurn, Part.flatMap_nodes_ofGap, Part.flatMap_nodes_ofGap]
  | cons node nodes =>
    rw [inTurn, inTurn, List.flatMap_append, List.flatMap_append, Part.flatMap_nodes_ofGap,
      Part.flatMap_nodes_ofGap, List.append_assoc]

theorem flatMap_nodes_collected (parts : List Part) :
    (collected parts).flatMap Part.nodes = parts.flatMap Part.nodes := by
  induction parts with
  | nil => rfl
  | cons part parts ih =>
    cases part with
    | inline tokens =>
      have hne : gaps parts ≠ [] := List.ne_nil_of_length_eq_add_one (length_gaps parts)
      rw [collected, gaps_inline, blocks_inline, flatMap_nodes_inTurn_modifyHead tokens hne,
        ← collected, ih, List.flatMap_cons, Part.nodes]
    | block node =>
      rw [collected, gaps_block, blocks_block, inTurn, List.flatMap_append,
        Part.flatMap_nodes_ofGap, List.nil_append, List.flatMap_cons, ← collected, ih,
        List.flatMap_cons]

/-- A block stands on one side of any place where two parts meet. -/
theorem isChain_inTurn (gaps : List Markup) (blocks : List Node) :
    (inTurn gaps blocks).IsChain fun p q => p.isBlock ∨ q.isBlock := by
  induction gaps generalizing blocks with
  | nil => exact .nil
  | cons gap gaps ih =>
    have hgap : (Part.ofGap gap).IsChain fun p q => p.isBlock ∨ q.isBlock := by
      cases gap with
      | nil => exact .nil
      | cons n ns => exact .singleton _
    cases blocks with
    | nil => exact hgap
    | cons node nodes =>
      refine List.isChain_append.mpr ⟨hgap, List.isChain_cons.mpr ⟨?_, ih nodes⟩, ?_⟩
      · exact fun _ _ => Or.inl rfl
      · rintro p - q ⟨⟩
        exact Or.inr rfl

/-- A definition is laid out as its blocks, in order, with one piece of code for the tokens of each
gap that has any.  So the pieces of code that the layout has made can be opened again to get all
tokens and blocks as they were given, and no two of them stand side by side. -/
theorem layout_keeps_parts (parts : List Part) :
    layout parts = (collected parts).map Part.written ∧
      (gaps parts).length = (blocks parts).length + 1 ∧
      (collected parts).flatMap Part.nodes = parts.flatMap Part.nodes ∧
      (collected parts).IsChain fun p q => p.isBlock ∨ q.isBlock :=
  ⟨layout_eq_collected parts, length_gaps parts, flatMap_nodes_collected parts,
    isChain_inTurn (gaps parts) (blocks parts)⟩

example : layout [.inline [], .inline [.text "a"], .block (.code []), .inline []] =
    [.code [.text "a"], .code []] := rfl

end DocSite.Definition
