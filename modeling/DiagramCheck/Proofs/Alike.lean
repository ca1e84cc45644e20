import DiagramCheck.Proofs.Acceptance
import DiagramCheck.Proofs.FirstFault
import DiagramCheck.Proofs.Relocation
import DiagramCheck.Proofs.Grammar.Unambiguity

/-!
# Sources with the same tokens

Two sources with the same tokens are read alike, wherever the tokens stand
(`Diagram.readAlike_of_tokens_eq`): the diagrams agree, or the errors do, and these are decided on
by the tokens with the same number.

The reader has nothing to do with places, so readings of the same tokens are the same one when all
places are forgotten (`Diagram.parse_forget_eq`). The token that decides on an error is the one
behind those that have been accepted (`Diagram.decidedAt_iff_of_parse`).
-/

namespace DiagramCheck

/-! ## Errors that agree -/

/-- Two syntax errors agree when they are of the same kind, ask for the same token, and have found
the same token or the same names, wherever these stand. -/
inductive SyntaxError.Agrees : SyntaxError → SyntaxError → Prop
  /-- Another token than the same fixed one. -/
  | unexpectedToken (expected : Token) {found found' : Lexeme} (h : found.token = found'.token) :
    Agrees (.unexpectedToken expected found) (.unexpectedToken expected found')
  /-- No name. -/
  | expectedIdentifier {found found' : Lexeme} (h : found.token = found'.token) :
    Agrees (.expectedIdentifier found) (.expectedIdentifier found')
  /-- A wrong source in the same node. -/
  | edgeSourceMismatch {node node' found found' : Spanned} (position position' : Position)
    (hnode : node.text = node'.text) (h : found.text = found'.text) :
    Agrees (.edgeSourceMismatch node found position) (.edgeSourceMismatch node' found' position')
  /-- A node that is too deep. -/
  | nestingTooDeep {found found' : Lexeme} (h : found.token = found'.token) :
    Agrees (.nestingTooDeep found) (.nestingTooDeep found')

/-- Lexemes that are the same one elsewhere have the same token. -/
theorem Lexeme.token_eq_of_relocate_eq {r : Relocation} {x y : Lexeme}
    (h : x.relocate r = y.relocate r) : x.token = y.token :=
  (Lexeme.mk.inj h).1

/-- Texts that are the same one elsewhere are the same. -/
theorem Spanned.text_eq_of_relocate_eq {r : Relocation} {v w : Spanned}
    (h : v.relocate r = w.relocate r) : v.text = w.text :=
  (Spanned.mk.inj h).1

/-- Errors that are the same one elsewhere agree. -/
theorem SyntaxError.agrees_of_relocate_eq {r : Relocation} {e e' : SyntaxError}
    (h : e.relocate r = e'.relocate r) : e.Agrees e' := by
  cases e <;> cases e' <;> simp only [relocate, unexpectedToken.injEq, expectedIdentifier.injEq,
    edgeSourceMismatch.injEq, nestingTooDeep.injEq, reduceCtorEq] at h
  -- What is left are two errors of the same kind.
  case unexpectedToken.unexpectedToken =>
    obtain ⟨rfl, hfound⟩ := h
    exact .unexpectedToken _ (Lexeme.token_eq_of_relocate_eq hfound)
  case expectedIdentifier.expectedIdentifier =>
    exact .expectedIdentifier (Lexeme.token_eq_of_relocate_eq h)
  case edgeSourceMismatch.edgeSourceMismatch =>
    obtain ⟨hnode, hfound, -⟩ := h
    exact .edgeSourceMismatch _ _ (Spanned.text_eq_of_relocate_eq hnode)
      (Spanned.text_eq_of_relocate_eq hfound)
  case nestingTooDeep.nestingTooDeep => exact .nestingTooDeep (Lexeme.token_eq_of_relocate_eq h)

/-! ## Readings without places -/

/-- The change of places that forgets all of them. -/
def Relocation.forget : Relocation :=
  ⟨fun _ => Span.origin, fun _ => Position.origin⟩

/-- Lexemes with the same tokens are the same when their places are forgotten. -/
theorem map_relocate_forget {xs ys : List Lexeme}
    (h : xs.map Lexeme.token = ys.map Lexeme.token) :
    xs.map (Lexeme.relocate .forget) = ys.map (Lexeme.relocate .forget) := by
  have hforget : ∀ zs : List Lexeme, zs.map (Lexeme.relocate .forget) =
      (zs.map Lexeme.token).map fun t => ⟨t, Position.origin, Span.origin⟩ := by
    intro zs
    rw [List.map_map]
    rfl
  rw [hforget, h, ← hforget]

/-- The ends of two streams are the same when their places are forgotten. -/
theorem TokenStream.Ended.relocate_forget {s t : TokenStream} (hs : s.Ended) (ht : t.Ended) :
    s.stop.relocate .forget = t.stop.relocate .forget := by
  rw [Lexeme.relocate, Lexeme.relocate, hs.stop_token, ht.stop_token]
  rfl

namespace Diagram

variable {s t : String}

/-- Sources with the same tokens are read as the same up to places, and as many tokens of them are
accepted. -/
theorem parse_forget_eq
    (h : (TokenStream.ofString s).tokens = (TokenStream.ofString t).tokens) :
    ((Diagram.parse s).map (Diagram.relocate .forget)).mapError (SyntaxError.relocate .forget) =
        ((Diagram.parse t).map (Diagram.relocate .forget)).mapError
          (SyntaxError.relocate .forget) ∧
      (TokenStream.ofString s).parse.accepted.length =
        (TokenStream.ofString t).parse.accepted.length := by
  -- Both are those of one reading of lexemes that stand nowhere.
  have hwords := map_relocate_forget h
  have hstop := (Cursor.ofString s).stream_ended.relocate_forget (Cursor.ofString t).stream_ended
  have hrun := ParseState.run_relocate .forget [] .start
  have hlength := ParseState.length_accepted_run_relocate .forget [] .start
  constructor
  · have hs := hrun (TokenStream.ofString s).stop (TokenStream.ofString s).words
    rw [hwords, TokenStream.ofString, hstop] at hs
    exact hs.symm.trans (hrun (TokenStream.ofString t).stop (TokenStream.ofString t).words)
  · have hs := hlength (TokenStream.ofString s).stop (TokenStream.ofString s).words
    rw [hwords, TokenStream.ofString, hstop] at hs
    exact hs.symm.trans (hlength (TokenStream.ofString t).stop (TokenStream.ofString t).words)

/-- The token that decides on the error of a source is the one behind those that are accepted. -/
theorem decidedAt_iff_of_parse {e : SyntaxError} (h : Diagram.parse s = .error e) (j : Nat) :
    e.DecidedAt (TokenStream.ofString s).toList j ↔
      j = (TokenStream.ofString s).parse.accepted.length := by
  obtain ⟨xs, x, state, hfront, hxs, hrefuses⟩ := Diagram.parse_eq_error_iff.1 h
  have hdecided : e.DecidedAt (TokenStream.ofString s).toList xs.length := by
    obtain ⟨zs, hzs⟩ := hfront
    rw [← hzs, List.append_assoc]
    exact hrefuses.decidedAt hxs zs
  have haccepted : (TokenStream.ofString s).parse.accepted = xs := by
    rw [TokenStream.toList, List.prefix_concat_iff] at hfront
    rcases hfront with heq | ⟨zs, hzs⟩
    · obtain ⟨hwords, -⟩ := List.append_inj' heq rfl
      have hrun := hxs.run_eq (TokenStream.ofString s).stop []
      rw [List.append_nil] at hrun
      rw [TokenStream.parse, ← hwords, hrun]
      exact List.append_nil xs
    · rw [List.append_assoc, List.singleton_append] at hzs
      rw [TokenStream.parse, ← hzs, hxs.run_eq, ParseState.run, hrefuses.1]
      exact List.append_nil xs
  rw [haccepted]
  have hnodup := (Cursor.ofString s).stream_nodup
  exact ⟨fun hj => hj.unique hnodup hdecided, fun hj => hj ▸ hdecided⟩

/-- Two sources are read alike when their diagrams agree, or their errors do and are decided on by
the tokens with the same number. -/
inductive ReadAlike (s t : String) : Prop
  /-- Both are accepted. -/
  | accepted {d d' : Diagram} (h : Diagram.parse s = .ok d) (h' : Diagram.parse t = .ok d')
    (hagrees : d.agrees d' = true)
  /-- Both are refused. -/
  | refused {e e' : SyntaxError} {k : Nat} (h : Diagram.parse s = .error e)
    (h' : Diagram.parse t = .error e') (hagrees : e.Agrees e')
    (hdecided : ∀ j, e.DecidedAt (TokenStream.ofString s).toList j ↔ j = k)
    (hdecided' : ∀ j, e'.DecidedAt (TokenStream.ofString t).toList j ↔ j = k)

/-- Sources with the same tokens are read alike. -/
theorem readAlike_of_tokens_eq
    (h : (TokenStream.ofString s).tokens = (TokenStream.ofString t).tokens) : ReadAlike s t := by
  obtain ⟨hparse, hlength⟩ := parse_forget_eq h
  cases hs : Diagram.parse s with
  | ok d =>
    cases ht : Diagram.parse t with
    | ok d' =>
      refine .accepted hs ht ?_
      exact (h ▸ (derives_of_parse hs).1).unambiguous (derives_of_parse ht).1
    | error e =>
      rw [hs, ht] at hparse
      cases hparse
  | error e =>
    cases ht : Diagram.parse t with
    | ok d =>
      rw [hs, ht] at hparse
      cases hparse
    | error e' =>
      rw [hs, ht] at hparse
      have hagrees := SyntaxError.agrees_of_relocate_eq (Except.error.inj hparse)
      exact .refused hs ht hagrees (decidedAt_iff_of_parse hs)
        (hlength ▸ decidedAt_iff_of_parse ht)

end Diagram

end DiagramCheck
