import DiagramCheck.Proofs.FindingsAlike
import DiagramCheck.Proofs.Interchange
import DiagramCheck.Proofs.Tokenization

/-!
# Other spellings of a diagram

The language leaves some choice in how a diagram is written. `Respelled` lists it, as changes to the
words that a source is written with (`spellings`): two keywords have a second spelling each, a label
may stand in quotes, an edge may name the node that it is declared in, and items of different kinds
may change places. Sources that differ in any number of such changes are read as diagrams that
agree, and the findings of an analysis agree then too (`Diagram.parse_respelled`).

Each change either leaves the tokens as they are, or replaces some by others that are
interchangeable with them where they stand (`Respelled.leads_iff`). The words of a source say what
its tokens are (`tokens_eq_map_spellings`), so nothing else about the source matters.
-/

namespace DiagramCheck

open Grammar Text

/-! ## Texts at spans -/

namespace Text

/-- A text without its first bytes. -/
def dropBytes (n : Nat) : List Char → List Char
  | [] => []
  | c :: cs => if n = 0 then c :: cs else dropBytes (n - c.utf8Size) cs

/-- The first bytes of a text. -/
def takeBytes (n : Nat) : List Char → List Char
  | [] => []
  | c :: cs => if n = 0 then [] else c :: takeBytes (n - c.utf8Size) cs

/-- A text without the bytes of its first part is its second part. -/
theorem dropBytes_append (a b : List Char) : dropBytes (byteLength a) (a ++ b) = b := by
  induction a with
  | nil => cases b <;> rfl
  | cons c a ih =>
    have hpos := byteLength_pos (List.cons_ne_nil c a)
    rw [List.cons_append, dropBytes, if_neg hpos.ne', byteLength, Nat.add_sub_cancel_left, ih]

/-- The bytes of the first part of a text are that part. -/
theorem takeBytes_append (a b : List Char) : takeBytes (byteLength a) (a ++ b) = a := by
  induction a with
  | nil => cases b <;> rfl
  | cons c a ih =>
    have hpos := byteLength_pos (List.cons_ne_nil c a)
    rw [List.cons_append, takeBytes, if_neg hpos.ne', byteLength, Nat.add_sub_cancel_left, ih]

end Text

/-- What stands in a source at a span. -/
def Span.textIn (span : Span) (source : String) : String :=
  String.ofList (takeBytes (span.stop - span.start) (dropBytes span.start source.toList))

/-- A span that cuts a source has the text there that it cuts out. -/
theorem Span.Splits.textIn_eq {span : Span} {source : String} {before text after : List Char}
    (h : span.Splits source.toList before text after) :
    span.textIn source = String.ofList text := by
  have hlength : span.stop - span.start = byteLength text := by
    rw [← h.stop_eq, ← h.start_eq, byteLength_append, Nat.add_sub_cancel_left]
  rw [textIn, hlength, h.source_eq, ← h.start_eq, List.append_assoc, dropBytes_append,
    takeBytes_append]

/-! ## The words of a source -/

/-- The words that a source is written with: what stands at the spans of its tokens, in order. -/
def spellings (source : String) : List String :=
  (TokenStream.ofString source).words.map fun x => x.span.textIn source

/-- The token that a word by itself is read as. -/
def Token.ofText (word : String) : Token :=
  match word.toList with
  | [] => .endOfInput
  | c :: cs => (Piece.read c cs).token

/-- A text that spells a token also does so by itself. -/
theorem Token.SpelledBy.ofText_eq {t : Token} {text after : List Char}
    (h : t.SpelledBy text after) : ofText (String.ofList text) = t := by
  have halone : t.SpelledBy text [] := by
    cases h with
    | arrow => exact .arrow []
    | lbrace => exact .lbrace []
    | rbrace => exact .rbrace []
    | colon => exact .colon []
    | quote => exact .quote []
    | word hc hcs _ => exact .word hc hcs nofun
    | unknown hfixed hletter _ => exact .unknown hfixed hletter fun _ => nofun
  obtain ⟨c, cs, rfl, hread⟩ := halone.read_eq
  rw [List.append_nil] at hread
  rw [ofText, String.toList_ofList]
  exact congrArg Piece.token hread

/-- The word at the span of a token is read as that token by itself. -/
theorem Token.ofText_textIn {source : String} {x : Lexeme}
    (hx : x ∈ (TokenStream.ofString source).words) :
    Token.ofText (x.span.textIn source) = x.token := by
  obtain ⟨before, text, after, hsplits, hspelled, -⟩ :=
    (TokenStream.cutsUp source).spelled x.placed (List.mem_map_of_mem hx)
  have htext : x.span.textIn source = String.ofList text := hsplits.textIn_eq
  rw [htext]
  exact hspelled.ofText_eq

/-- The words of a source say what its tokens are. -/
theorem tokens_eq_map_spellings (source : String) :
    (TokenStream.ofString source).tokens = (spellings source).map Token.ofText := by
  rw [TokenStream.tokens, spellings, List.map_map]
  exact List.map_congr_left fun x hx => (Token.ofText_textIn hx).symm

/-! ## Changes of spelling -/

/-- `Respelled ws ws'` says that the words `ws'` are the words `ws` with one change. -/
inductive Respelled : List String → List String → Prop
  /-- The keyword of an edge has two spellings. -/
  | edgeKeyword (pre post : List String) :
    Respelled (pre ++ ["edge"] ++ post) (pre ++ ["calls"] ++ post)
  /-- The keyword of a label has two spellings. -/
  | labelKeyword (pre post : List String) :
    Respelled (pre ++ ["label"] ++ post) (pre ++ ["desc"] ++ post)
  /-- The value of a label may stand in quotes. -/
  | quotes (pre post : List String) {keyword value name : String}
    (hkeyword : Token.ofText keyword = .label) (hvalue : Token.ofText value = .identifier name) :
    Respelled (pre ++ [keyword, ":", value] ++ post)
      (pre ++ [keyword, ":", "\x22", value, "\x22"] ++ post)
  /-- An edge may name its source, which is the node that it is declared in. -/
  | source (pre post : List String) {keyword source target id name : String}
    (hid : InNode (pre.map Token.ofText) id) (hkeyword : Token.ofText keyword = .edge)
    (hsource : Token.ofText source = .identifier id)
    (htarget : Token.ofText target = .identifier name) :
    Respelled (pre ++ [keyword, target, "\x7b"] ++ post)
      (pre ++ [keyword, source, "->", target, "\x7b"] ++ post)
  /-- Two neighbouring items of different kinds in the body of one node may change places. -/
  | items (pre post : List String) {ws us : List String} {id : String} {k k' : ItemKind}
    (hid : InNode (pre.map Token.ofText) id) (hws : Item id k (ws.map Token.ofText))
    (hus : Item id k' (us.map Token.ofText)) (hne : k ≠ k') :
    Respelled (pre ++ (ws ++ us) ++ post) (pre ++ (us ++ ws) ++ post)

variable {ws us : List String}

/-- A change of spelling does not change where the tokens lead. -/
theorem Respelled.leads_iff (h : Respelled ws us) (t : ParseState) :
    ParseState.start.Leads (ws.map Token.ofText) t ↔
      ParseState.start.Leads (us.map Token.ofText) t := by
  have hcolon : Token.ofText ":" = .colon := by decide
  have hquote : Token.ofText "\x22" = .quote := by decide
  have hbrace : Token.ofText "\x7b" = .lbrace := by decide
  have harrow : Token.ofText "->" = .arrow := by decide
  cases h with
  | edgeKeyword pre post =>
    have hkeyword : Token.ofText "edge" = Token.ofText "calls" := by decide
    simp only [List.map_append, List.map_cons, hkeyword]
  | labelKeyword pre post =>
    have hkeyword : Token.ofText "label" = Token.ofText "desc" := by decide
    simp only [List.map_append, List.map_cons, hkeyword]
  | quotes pre post hkeyword hvalue =>
    simp only [List.map_append, List.map_cons, List.map_nil, hkeyword, hvalue, hcolon, hquote]
    exact (interchangeable_quotes _ _).leads_iff _ t
  | source pre post hid hkeyword hsource htarget =>
    simp only [List.map_append, List.map_cons, List.map_nil, hkeyword, hsource, htarget, hbrace,
      harrow]
    exact (interchangeable_source hid _).leads_iff _ t
  | items pre post hid hws hus hne =>
    simp only [List.map_append]
    exact (interchangeable_items hid hws hus hne).leads_iff _ t

/-- Any number of changes of spelling do not change where the tokens lead. -/
theorem leads_iff_of_respelled (h : Relation.EqvGen Respelled ws us) (t : ParseState) :
    ParseState.start.Leads (ws.map Token.ofText) t ↔
      ParseState.start.Leads (us.map Token.ofText) t := by
  induction h with
  | rel ws us h => exact h.leads_iff t
  | refl ws => exact Iff.rfl
  | symm ws us _ ih => exact ih.symm
  | trans ws us vs _ _ ih ih' => exact ih.trans ih'

/-- A source that differs from an accepted one in any number of changes of spelling is accepted too,
and read as a diagram that agrees. The findings in the two diagrams agree under every policy. -/
theorem Diagram.parse_respelled {s t : String} {d : Diagram} (hs : Diagram.parse s = .ok d)
    (h : Relation.EqvGen Respelled (spellings s) (spellings t)) :
    ∃ d', Diagram.parse t = .ok d' ∧ d'.agrees d = true ∧
      ∀ policy, (d'.analyze policy).Agrees (d.analyze policy) := by
  have hself : d.agrees d = true := (derives_of_parse hs).1.unambiguous (derives_of_parse hs).1
  obtain ⟨d₀, hleads, hagrees⟩ := exists_parse_iff_leads.1 ⟨d, hs, hself⟩
  rw [tokens_eq_map_spellings, leads_iff_of_respelled h, ← tokens_eq_map_spellings] at hleads
  obtain ⟨d', ht, hagrees'⟩ := exists_parse_iff_leads.2 ⟨d₀, hleads, hagrees⟩
  exact ⟨d', ht, hagrees', fun policy => agrees_analyze hagrees' policy⟩

/-- Two spellings of one diagram: in the second one, the edge names its source, and the attribute
has moved in front of it. -/
theorem Diagram.parse_respelled_edge :
    let s := "node a \x7b edge b \x7b \x7d color: red \x7d"
    let t := "node a \x7b color: red edge a -> b \x7b \x7d \x7d"
    ∃ d d', Diagram.parse s = .ok d ∧ Diagram.parse t = .ok d' ∧ d'.agrees d = true := by
  intro s t
  obtain ⟨d, hs⟩ : ∃ d, Diagram.parse s = .ok d := ⟨_, by cbv⟩
  have hin : InNode (["node", "a", "\x7b"].map Token.ofText) "a" := by decide +kernel
  have ha : Token.ofText "a" = .identifier "a" := by decide +kernel
  have hb : Token.ofText "b" = .identifier "b" := by decide +kernel
  have hcolor : Item "a" .attr (["color", ":", "red"].map Token.ofText) := by
    have hmap : ["color", ":", "red"].map Token.ofText = [.color, .colon, .identifier "red"] := by
      decide +kernel
    rw [hmap]
    exact .attr (.color (.ofText "red"))
  have hedge : Item "a" .edge (["edge", "a", "->", "b", "\x7b", "\x7d"].map Token.ofText) := by
    have hmap : ["edge", "a", "->", "b", "\x7b", "\x7d"].map Token.ofText =
        [.edge, .identifier "a", .arrow, .identifier "b", .lbrace, .rbrace] := by decide +kernel
    have hdecl : EdgeDecl "a" _ ⟨.ofText "a", .ofText "b", []⟩ :=
      .intro rfl (.explicit (.ofText "b")) .nil
    rw [hmap]
    exact .edge hdecl
  have hsource : Respelled (spellings s) ["node", "a", "\x7b", "edge", "a", "->", "b", "\x7b",
      "\x7d", "color", ":", "red", "\x7d"] := by
    have hwords : spellings s = ["node", "a", "\x7b"] ++ ["edge", "b", "\x7b"] ++
      ["\x7d", "color", ":", "red", "\x7d"] := by decide +kernel
    rw [hwords]
    exact .source ["node", "a", "\x7b"] _ hin (by decide +kernel) ha hb
  have hitems : Respelled (spellings t) ["node", "a", "\x7b", "edge", "a", "->", "b", "\x7b",
      "\x7d", "color", ":", "red", "\x7d"] := by
    have hwords : spellings t = ["node", "a", "\x7b"] ++ (["color", ":", "red"] ++
      ["edge", "a", "->", "b", "\x7b", "\x7d"]) ++ ["\x7d"] := by decide +kernel
    rw [hwords]
    exact .items ["node", "a", "\x7b"] ["\x7d"] hin hcolor hedge (by decide)
  obtain ⟨d', ht, hagrees, -⟩ :=
    parse_respelled hs (.trans _ _ _ (.rel _ _ hsource) (.symm _ _ (.rel _ _ hitems)))
  exact ⟨d, d', hs, ht, hagrees⟩

end DiagramCheck
