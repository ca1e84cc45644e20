import DiagramCheck.Proofs.Grammar
import DiagramCheck.Proofs.Reading

/-!
# How deep nodes are nested while they are read

The reader opens a node only where a level is left for it. `ParseState.Fits` is what this keeps true
of every state: the complete top-level nodes stand on at most `maxNesting` levels, and so does each
open node together with the nodes that are nested in it so far.
-/

namespace DiagramCheck

/-- Each of the open nodes, given from the inside out, stands at its level with its nested nodes
below it, all within the limit. -/
def LevelsFit : List Node → Prop
  | [] => True
  | n :: outer => outer.length + 1 + Node.nestingAll n.children ≤ maxNesting ∧ LevelsFit outer

namespace ParseState

/-- The nodes of a state, complete or open, stay within the limit of nesting. -/
def Fits : ParseState → Prop
  | .outside finished => Node.nestingAll finished ≤ maxNesting
  | .inside finished enclosing focus => Node.nestingAll finished ≤ maxNesting ∧
      enclosing.length + 1 ≤ maxNesting ∧ LevelsFit (focus.node?.toList ++ enclosing)

/-- A node may be closed where it fits. -/
theorem fits_close {finished enclosing : List Node} {node : Node}
    (hfinished : Node.nestingAll finished ≤ maxNesting)
    (hlevels : LevelsFit (node :: enclosing)) : (close finished enclosing node).Fits := by
  obtain ⟨hnode, houter⟩ := hlevels
  cases enclosing with
  | nil =>
    -- The forest is as deep as it was, or as the new node is.
    simp only [close, Fits, Node.nestingAll_append, Node.nestingAll, Node.nesting_eq]
    simp only [List.length_nil] at hnode
    omega
  | cons outer others =>
    obtain ⟨hthis, hothers⟩ := houter
    -- The node around the closed one stands one level above it, and so leaves room for it.
    have hchild : others.length + 1 + Node.nestingAll (outer.addChild node).children ≤
        maxNesting := by
      simp only [List.length_cons] at hnode
      simp only [Node.addChild, Node.nestingAll_append, Node.nestingAll, Node.nesting_eq]
      omega
    exact ⟨hfinished, by omega, hchild, hothers⟩

/-- Every step stays within the limit. -/
theorem Takes.fits {s s' : ParseState} {x : Lexeme} (h : s.Takes x s') (hs : s.Fits) :
    s'.Fits := by
  cases h with
  | openTop finished hx => exact ⟨hs, by decide, trivial⟩
  | openNode finished enclosing id hx => exact ⟨hs.1, hs.2.1, hs.2.1, hs.2.2⟩
  | closeNode finished enclosing node hx => exact fits_close hs.1 hs.2.2
  | openNested finished enclosing node hx hdepth => exact ⟨hs.1, hdepth, hs.2.2⟩
  | _ => exact hs

/-- Every run stays within the limit. -/
theorem Reaches.fits {s s' : ParseState} {xs : List Lexeme} (h : s.Reaches xs s') (hs : s.Fits) :
    s'.Fits := by
  induction h with
  | refl => exact hs
  | cons h _ ih => exact ih (h.fits hs)

/-- What has been read when the reader stands outside of all nodes is within the limit. -/
theorem Reaches.nesting_le {xs : List Lexeme} {d : Diagram}
    (h : start.Reaches xs (.outside d.topLevel)) : d.nesting ≤ maxNesting :=
  h.fits (Nat.zero_le maxNesting)

end ParseState

end DiagramCheck
