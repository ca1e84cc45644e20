import DiagramCheck.Proofs.Positions

/-!
# Lexers driven by calls

A lexer can be asked for tokens in two ways that may be mixed at will, and only one of them comes to
an end. `Lexer.DrivenAlong` says what becomes of a lexer under any row of calls: the tokens that it
yields are those of the source, one after the other, and then the end of the input again and again;
iteration ends when it has yielded the end of the input itself, and moves the lexer no more; copies
go their own ways; and at any moment, what is still to come is what the rest of the source has,
moved to where the lexer stands (`Lexer.drive_spec`).

What carries this is one number: how many tokens have been yielded. The place of the lexer is
`Cursor.skip` that number (`Lexer.drive_cursor`), and the token there is the one with that number in
the stream (`Cursor.next_skip`). The flag of an iteration is apart from it: it tells whether a call
of that kind has yielded the end of the input (`Lexer.exhausted_drive_iff`).
-/

namespace DiagramCheck

open Text

/-! ## Calls -/

/-- A call on a lexer. -/
inductive Lexer.Call
  /-- Reads one token. -/
  | nextToken
  /-- Iterates. -/
  | next

namespace Lexer

/-- What a call yields, and the lexer behind the call. -/
def call (l : Lexer) : Call → Option Lexeme × Lexer
  | .nextToken => (some l.nextToken.1, l.nextToken.2)
  | .next => l.next?

/-- Makes calls one after the other: what each of them yields, and the lexer behind all of them. -/
def drive (l : Lexer) : List Call → List (Option Lexeme) × Lexer
  | [] => ([], l)
  | c :: cs =>
    let following := (l.call c).2.drive cs
    ((l.call c).1 :: following.1, following.2)

/-- Calls in two parts are made as a whole. -/
theorem drive_append (l : Lexer) (cs cs' : List Call) :
    l.drive (cs ++ cs') =
      ((l.drive cs).1 ++ ((l.drive cs).2.drive cs').1, ((l.drive cs).2.drive cs').2) := by
  induction cs generalizing l with
  | nil => rfl
  | cons c cs ih => simp only [List.cons_append, drive, ih]

/-- The tokens that calls yield, without the calls that yield none. -/
def yielded (l : Lexer) (calls : List Call) : List Lexeme :=
  (l.drive calls).1.reduceOption

/-- A call yields the next token and moves on behind it, or it is one of an iteration that has come
to its end, and does nothing. -/
theorem call_cases (l : Lexer) (c : Call) :
    (l.call c).1 = some l.cursor.next.1 ∧ (l.call c).2.cursor = l.cursor.next.2 ∨
      l.call c = (none, l) := by
  cases c with
  | nextToken => exact .inl ⟨rfl, rfl⟩
  | next =>
    rw [call, next?]
    split
    · exact .inr rfl
    · exact .inl ⟨rfl, rfl⟩

end Lexer

/-! ## Places in a stream -/

namespace Cursor

/-- The place behind the next tokens, as many as there are to skip. -/
def skip (c : Cursor) : Nat → Cursor
  | 0 => c
  | k + 1 => c.next.2.skip k

/-- The token at a place is the one with its number in the stream, or the end of the input if the
stream has no more. -/
theorem next_skip (c : Cursor) (k : Nat) :
    (c.skip k).next.1 = c.stream.toList.getD k c.stream.stop := by
  induction k generalizing c with
  | zero =>
    rw [skip, stream]
    split <;> rfl
  | succ k ih =>
    rw [skip, ih]
    by_cases h : c.next.1.token = .endOfInput
    · -- At the end of the input the place stays the same.
      have hblank := next_token_eq_endOfInput_iff.1 h
      have hfinish : c.finish.finish = c.finish := by
        rw [finish, finish, pass_pass]
        exact congrArg (c.pass · []) (List.append_nil c.rest)
      have hended := stream_eq_nil (c := c.finish) (List.forall_mem_nil _)
      rw [next_eq_endOfInput hblank, stream_eq_nil hblank, hended, hfinish]
      cases k <;> rfl
    · rw [stream.eq_def c, dif_neg h]
      rfl

/-- On the way to a place behind some tokens, a piece of the text is passed. -/
theorem exists_skip (c : Cursor) (k : Nat) :
    ∃ front, c.rest = front ++ (c.skip k).rest ∧ c.skip k = c.pass front (c.skip k).rest := by
  induction k generalizing c with
  | zero => exact ⟨[], rfl, rfl⟩
  | succ k ih =>
    obtain ⟨blank, text, hrest, hnext, -, -⟩ := c.exists_next
    obtain ⟨front, hrest', hskip⟩ := ih c.next.2
    refine ⟨blank ++ text ++ front, ?_, ?_⟩
    · rw [List.append_assoc _ front]
      exact hrest.trans (congrArg (blank ++ text ++ ·) hrest')
    · rw [hnext, pass_pass, ← hnext] at hskip
      exact hskip

end Cursor

/-! ## What calls yield -/

namespace Lexer

/-- The tokens that calls yield, where the first call is made by itself. -/
theorem yielded_cons (l : Lexer) (c : Call) (cs : List Call) :
    l.yielded (c :: cs) = (l.call c).1.toList ++ (l.call c).2.yielded cs := by
  rw [yielded, drive]
  cases (l.call c).1 with
  | none => exact List.reduceOption_cons_of_none _
  | some x => exact List.reduceOption_cons_of_some x _

/-- The place of a driven lexer is behind as many tokens as it has yielded. -/
theorem drive_cursor (l : Lexer) (calls : List Call) :
    (l.drive calls).2.cursor = l.cursor.skip (l.yielded calls).length := by
  induction calls generalizing l with
  | nil => rfl
  | cons c cs ih =>
    rw [yielded_cons, drive]
    rcases l.call_cases c with ⟨hanswer, hcursor⟩ | hcall
    · rw [ih, hcursor, hanswer]
      rfl
    · rw [ih, hcall]
      rfl

/-- The tokens that calls yield are the ones at the places one behind the other. -/
theorem eq_next_skip_of_getElem? {l : Lexer} {calls : List Call} {i : Nat} {x : Lexeme}
    (h : (l.yielded calls)[i]? = some x) : x = (l.cursor.skip i).next.1 := by
  induction calls generalizing l i with
  | nil => cases h
  | cons c cs ih =>
    rw [yielded_cons] at h
    rcases l.call_cases c with ⟨hanswer, hcursor⟩ | hcall
    · rw [hanswer] at h
      cases i with
      | zero => exact (Option.some.inj h).symm
      | succ i =>
        have hx := ih (l := (l.call c).2) (i := i) h
        rw [hx, hcursor]
        rfl
    · rw [hcall] at h
      exact ih h

/-! ## The end of an iteration -/

/-- `l.CameToEnd calls` says that one of the calls, when they are made on the lexer one after the
other, is of an iteration and yields the end of the input. -/
def CameToEnd (l : Lexer) (calls : List Call) : Prop :=
  ∃ x, (.next, some x) ∈ calls.zip (l.drive calls).1 ∧ x.token = .endOfInput

/-- A row of calls comes to the end with its first call or with the others. -/
theorem cameToEnd_cons (l : Lexer) (c : Call) (cs : List Call) :
    l.CameToEnd (c :: cs) ↔
      (c = .next ∧ ∃ x, (l.call c).1 = some x ∧ x.token = .endOfInput) ∨
        (l.call c).2.CameToEnd cs := by
  rw [CameToEnd, drive]
  simp only [List.zip_cons_cons, List.mem_cons, Prod.mk.injEq]
  constructor
  · rintro ⟨x, ⟨hc, hx⟩ | hcs, hend⟩
    · exact .inl ⟨hc.symm, x, hx.symm, hend⟩
    · exact .inr ⟨x, hcs, hend⟩
  · rintro (⟨hc, x, hx, hend⟩ | ⟨x, hcs, hend⟩)
    · exact ⟨x, .inl ⟨hc.symm, hx.symm⟩, hend⟩
    · exact ⟨x, .inr hcs, hend⟩

/-- A call brings an iteration to its end when it is one of the iteration and yields the end of the
input, and it never takes it back from there. -/
theorem exhausted_call_iff (l : Lexer) (c : Call) :
    (l.call c).2.exhausted = true ↔ l.exhausted = true ∨
      c = .next ∧ ∃ x, (l.call c).1 = some x ∧ x.token = .endOfInput := by
  cases c with
  | nextToken => simp [call, nextToken]
  | next =>
    cases h : l.exhausted with
    | true => simp [call, next?, h]
    | false => simp [call, next?, h, Token.isEndOfInput]

/-- After any calls, an iteration is at its end when it was so before them, or one of them has
brought it there. -/
theorem exhausted_drive_iff (l : Lexer) (calls : List Call) :
    (l.drive calls).2.exhausted = true ↔ l.exhausted = true ∨ l.CameToEnd calls := by
  induction calls generalizing l with
  | nil => simp [drive, CameToEnd]
  | cons c cs ih =>
    have hfirst := l.exhausted_call_iff c
    rw [drive, ih, hfirst, cameToEnd_cons, or_assoc]

/-- Iteration yields nothing exactly at its end. -/
theorem next?_eq_none_iff (l : Lexer) : l.next?.1 = none ↔ l.exhausted = true := by
  cases h : l.exhausted <;> simp [next?, h]

/-- At the end of an iteration, another call does nothing. -/
theorem next?_of_exhausted {l : Lexer} (h : l.exhausted = true) : l.next? = (none, l) := by
  rw [next?, if_pos h]

/-! ## Copies -/

/-- What is done with a row of lexers. -/
inductive Act
  /-- A call on one of them. -/
  | call (i : Nat) (c : Call)
  /-- A copy of one of them, which becomes the last of the row. -/
  | copy (i : Nat)

/-- Does something with a row of lexers: what the lexer that is called yields, with its number, and
the row afterwards. -/
def act (ls : List Lexer) : Act → List (Nat × Option Lexeme) × List Lexer
  | .call i c =>
    match ls[i]? with
    | some l => ([(i, (l.call c).1)], ls.set i (l.call c).2)
    | none => ([], ls)
  | .copy i => ([], ls ++ ls[i]?.toList)

/-- Does one thing after the other with a row of lexers. -/
def perform (ls : List Lexer) : List Act → List (Nat × Option Lexeme) × List Lexer
  | [] => ([], ls)
  | a :: as =>
    let following := perform (act ls a).2 as
    ((act ls a).1 ++ following.1, following.2)

/-- The calls on one lexer of a row. -/
def callsOn (i : Nat) (as : List Act) : List Call :=
  as.filterMap fun a =>
    match a with
    | .call j c => if j = i then some c else none
    | .copy _ => none

/-- What one lexer of a row yields. -/
def answersOf (i : Nat) (answers : List (Nat × Option Lexeme)) : List (Option Lexeme) :=
  (answers.filter fun p => p.1 == i).map Prod.snd

/-- A lexer of a row answers the calls on it, and nothing else that is done with the row has to do
with it. -/
theorem answersOf_act {ls : List Lexer} {i : Nat} {l : Lexer} (h : ls[i]? = some l) (a : Act) :
    answersOf i (act ls a).1 = (l.drive (callsOn i [a])).1 ∧
      (act ls a).2[i]? = some (l.drive (callsOn i [a])).2 := by
  have hlt : i < ls.length := (List.getElem?_eq_some_iff.1 h).1
  cases a with
  | copy j =>
    refine ⟨rfl, ?_⟩
    rw [act, List.getElem?_append_left hlt]
    exact h
  | call j c =>
    by_cases hj : j = i
    · subst hj
      have hact : act ls (.call j c) = ([(j, (l.call c).1)], ls.set j (l.call c).2) := by
        rw [act, h]
      have hcalls : callsOn j [.call j c] = [c] := by simp [callsOn]
      rw [hact, hcalls]
      refine ⟨by simp [answersOf, drive], ?_⟩
      rw [List.getElem?_set_self hlt]
      rfl
    · have hcalls : callsOn i [.call j c] = [] := by simp [callsOn, hj]
      rw [hcalls, act]
      cases ls[j]? with
      | none => exact ⟨rfl, h⟩
      | some l' =>
        refine ⟨by simp [answersOf, drive, hj], ?_⟩
        rw [List.getElem?_set_ne hj]
        exact h

/-- Whatever is done with a row of lexers, each of them answers the calls on it as if it were the
only one. -/
theorem answersOf_perform {ls : List Lexer} {i : Nat} {l : Lexer} (h : ls[i]? = some l)
    (as : List Act) :
    answersOf i (perform ls as).1 = (l.drive (callsOn i as)).1 ∧
      (perform ls as).2[i]? = some (l.drive (callsOn i as)).2 := by
  induction as generalizing ls l with
  | nil => exact ⟨rfl, h⟩
  | cons a as ih =>
    obtain ⟨hfirst, hrow⟩ := answersOf_act h a
    obtain ⟨hothers, hend⟩ := ih hrow
    have hcalls : callsOn i (a :: as) = callsOn i [a] ++ callsOn i as := by
      rw [callsOn, callsOn, callsOn, ← List.filterMap_append, List.singleton_append]
    rw [perform, hcalls, drive_append]
    refine ⟨?_, hend⟩
    show answersOf i ((act ls a).1 ++ (perform (act ls a).2 as).1) = _
    rw [← hfirst, ← hothers, answersOf, List.filter_append, List.map_append]
    rfl

end Lexer

/-! ## Going on -/

/-- The places in the text that a cursor goes on with, as they are in the whole source: spans move
by the bytes in front of the cursor, lines by the lines above it, and the first line goes on in its
column. -/
def Relocation.ofCursor (c : Cursor) : Relocation where
  span s := ⟨s.start + c.offset, s.stop + c.offset, Nat.add_le_add_right s.start_le_stop _⟩
  position p :=
    { line := p.line + (c.position.line - 1)
      column := if p.line = 1 then p.column + (c.position.column - 1) else p.column
      line_pos := Nat.le_add_right_of_le p.line_pos
      column_pos := by
        have := p.column_pos
        split <;> omega }

namespace Cursor

/-- `c.StandsBehind front` says that a cursor has come to the end of a text that its source begins
with, and keeps account of it. -/
structure StandsBehind (c : Cursor) (front : List Char) : Prop where
  /-- The bytes in front of the cursor are those of the text. -/
  offset_eq : c.offset = byteLength front
  /-- The position of the cursor is that behind the text. -/
  isBehind : c.position.IsBehind front

/-- The text that a cursor goes on with moves behind the text in front of the cursor. -/
theorem StandsBehind.ofCursor_eq {c : Cursor} {front : List Char} (h : c.StandsBehind front) :
    Relocation.ofCursor c = .behind front := by
  have hline : c.position.line - 1 = front.count '\n' := by
    rw [h.isBehind.line_eq, Nat.add_sub_cancel_left]
  have hcolumn : c.position.column - 1 = (lastLine front).length := by
    rw [h.isBehind.column_eq, Nat.add_sub_cancel_left]
  simp only [Relocation.ofCursor, hline, hcolumn, h.offset_eq]
  rfl

/-- A cursor goes on as one that starts with the text behind it, moved. -/
theorem StandsBehind.eq_behind {c : Cursor} {front : List Char} (h : c.StandsBehind front) :
    c = (ofString (String.ofList c.rest)).behind front := by
  obtain ⟨rest, offset, position⟩ := c
  have hposition : position = Position.origin.behind front := by
    rw [Position.origin_behind]
    exact Position.isBehind_iff.1 h.isBehind
  have hoffset : offset = 0 + byteLength front := by
    rw [Nat.zero_add]
    exact h.offset_eq
  rw [ofString, behind, String.toList_ofList, hposition, hoffset]

/-- Behind some tokens of a source, a cursor stands behind a text that the source begins with. -/
theorem exists_standsBehind (source : String) (k : Nat) :
    ∃ front, source.toList = front ++ ((ofString source).skip k).rest ∧
      ((ofString source).skip k).StandsBehind front := by
  obtain ⟨front, hrest, hskip⟩ := (ofString source).exists_skip k
  refine ⟨front, hrest, ?_, ?_⟩ <;> rw [hskip]
  · exact Nat.zero_add _
  · exact Position.isBehind_iff.2 rfl

/-- What is read behind a text is what is read without it, moved. -/
theorem parse_stream_behind (text : List Char) (c : Cursor) :
    (c.behind text).stream.parse.result =
      (c.stream.parse.result.map (Diagram.relocate (.behind text))).mapError
        (SyntaxError.relocate (.behind text)) := by
  rw [stream_behind]
  exact ParseState.run_relocate (.behind text) [] .start c.stream.stop c.stream.words

/-- A cursor moves to the end of the token that it reads. -/
theorem stop_span_next (c : Cursor) : c.next.1.span.stop = c.next.2.offset := by
  by_cases h : c.next.1.token = .endOfInput
  · rw [next_eq_endOfInput (next_token_eq_endOfInput_iff.1 h)]
    rfl
  · exact (next_span h).2.2

/-- One more token is skipped in front of the others or behind them. -/
theorem skip_succ (c : Cursor) (k : Nat) : c.skip (k + 1) = (c.skip k).next.2 := by
  induction k generalizing c with
  | zero => rfl
  | succ k ih => exact ih c.next.2

end Cursor

namespace Lexer

/-- Tokens that are read behind a text are those that are read without it, moved. -/
theorem drive_nextToken_behind (text : List Char) (c : Cursor) (exhausted exhausted' : Bool)
    (k : Nat) :
    ((⟨c.behind text, exhausted⟩ : Lexer).drive (.replicate k .nextToken)).1 =
      ((⟨c, exhausted'⟩ : Lexer).drive (.replicate k .nextToken)).1.map
        (Option.map (Lexeme.relocate (.behind text))) := by
  induction k generalizing c with
  | zero => rfl
  | succ k ih =>
    have hnext := c.next_behind text
    have hfollowing := ih c.next.2
    rw [List.replicate_succ, drive, drive, List.map_cons]
    simp only [call, nextToken, hnext, hfollowing, Option.map_some]

/-- A driven lexer stands at the end of the last token that it has yielded. -/
theorem offset_drive (source : String) (calls : List Call) :
    ((ofString source).drive calls).2.cursor.offset =
      ((ofString source).yielded calls).getLast?.elim 0 fun x => x.span.stop := by
  rw [drive_cursor]
  rcases List.eq_nil_or_concat' ((ofString source).yielded calls) with hnone | ⟨ys, x, hys⟩
  · rw [hnone]
    rfl
  · have hlast : ((ofString source).yielded calls)[ys.length]? = some x := by
      rw [hys, List.getElem?_concat_length]
    have hx := eq_next_skip_of_getElem? hlast
    rw [hys, List.length_append, List.length_singleton, Cursor.skip_succ, List.getLast?_concat,
      Option.elim_some, hx, Cursor.stop_span_next]

/-- What becomes of a lexer at the start of a source under a row of calls. -/
structure DrivenAlong (source : String) (calls : List Call) : Prop where
  /-- The tokens that the calls yield are those of the source, in order, and then the last of these
  again and again. -/
  yielded : ∀ i x, ((ofString source).yielded calls)[i]? = some x →
    x = (TokenStream.ofString source).toList.getD i (TokenStream.ofString source).stop
  /-- Iteration goes on until it has yielded the end of the input itself. -/
  ended : ((ofString source).drive calls).2.next?.1 = none ↔ (ofString source).CameToEnd calls
  /-- From then on, iteration yields nothing and leaves the lexer where it is, whatever calls are
  made before it is asked. -/
  stays : (ofString source).CameToEnd calls → ∀ more,
    let l := ((ofString source).drive (calls ++ more)).2
    l.next? = (none, l)
  /-- The lexer and a copy of it both answer the calls on them as the lexer does by itself, whatever
  is done with them, with further copies of them, and in which order. -/
  copies : let l := ((ofString source).drive calls).2
    ∀ acts i, i < 2 →
      answersOf i (perform [l] (.copy 0 :: acts)).1 = (l.drive (callsOn i acts)).1
  /-- The lexer stands where the last token ends that it has yielded, with the rest of the source
  unread, and keeps account of the text in front of it. -/
  stands : let l := ((ofString source).drive calls).2
    l.cursor.offset =
        ((ofString source).yielded calls).getLast?.elim 0 (fun x => x.span.stop) ∧
      ∃ front, source.toList = front ++ l.cursor.rest ∧ l.cursor.StandsBehind front
  /-- The tokens that are still to be read are those of the rest of the source, moved. -/
  rereads : let l := ((ofString source).drive calls).2
    ∀ k, (l.drive (.replicate k .nextToken)).1 =
      ((ofString (String.ofList l.cursor.rest)).drive (.replicate k .nextToken)).1.map
        (Option.map (Lexeme.relocate (.ofCursor l.cursor)))
  /-- The diagram that can still be read, or the syntax error, is that of the rest of the source,
  moved. -/
  reparses : let l := ((ofString source).drive calls).2
    l.parse = ((Diagram.parse (String.ofList l.cursor.rest)).map
      (Diagram.relocate (.ofCursor l.cursor))).mapError (SyntaxError.relocate (.ofCursor l.cursor))

/-- A lexer that is driven by any calls stays on the tokens of its source, and can be gone on with
from wherever it stands. -/
theorem drive_spec (source : String) (calls : List Call) : DrivenAlong source calls := by
  obtain ⟨front, hrest, hstands⟩ : ∃ front,
      source.toList = front ++ ((ofString source).drive calls).2.cursor.rest ∧
        ((ofString source).drive calls).2.cursor.StandsBehind front := by
    rw [drive_cursor]
    exact Cursor.exists_standsBehind source _
  have hended : ∀ cs, ((ofString source).drive cs).2.exhausted = true ↔
      (ofString source).CameToEnd cs := by
    intro cs
    rw [exhausted_drive_iff]
    exact or_iff_right Bool.false_ne_true
  exact {
    yielded := by
      intro i x hx
      rw [eq_next_skip_of_getElem? hx]
      exact (Cursor.ofString source).next_skip i
    ended := (next?_eq_none_iff _).trans (hended calls)
    stays := by
      intro hend more
      have hmore : ((ofString source).drive (calls ++ more)).2.exhausted = true := by
        rw [drive_append, exhausted_drive_iff]
        exact .inl ((hended calls).2 hend)
      exact next?_of_exhausted hmore
    copies := by
      intro l acts i hi
      have hrow : [l, l][i]? = some l := by
        interval_cases i <;> rfl
      exact (answersOf_perform hrow acts).1
    stands := ⟨offset_drive source calls, front, hrest, hstands⟩
    rereads := by
      intro l k
      have hmoved := drive_nextToken_behind front (.ofString (String.ofList l.cursor.rest))
        l.exhausted false k
      rw [← hstands.eq_behind] at hmoved
      rw [hstands.ofCursor_eq]
      exact hmoved
    reparses := by
      intro l
      have hmoved := Cursor.parse_stream_behind front (.ofString (String.ofList l.cursor.rest))
      rw [← hstands.eq_behind] at hmoved
      rw [hstands.ofCursor_eq]
      exact hmoved }

/-- The end of the input ends an iteration only if the iteration yields it. -/
example :
    ((ofString "a ").drive [.nextToken, .nextToken, .next, .next, .nextToken]).1.map
        (Option.map Lexeme.token) =
      [some (.identifier "a"), some .endOfInput, some .endOfInput, none, some .endOfInput] := by
  decide +kernel

end Lexer

end DiagramCheck
