import SqlDml.Proofs.TokenStream.Progress

/-!
# Every stream ends, and only once

* `EndsOnce` : tokens of which the last and no other is the end of the text;
* `endsOnce_tokenize` : the tokens of a text are of that form;
* `TokenReader.drain_of_ahead_nil` : draining gives out what the stream holds, whatever is kept;
* `TokenReader.drain_endsOnce` : a reader with any look-ahead drains to the tokens of its text, and
  then has nothing more to give.

A stream that has ended still answers, so a reader keeps the answer like a token. Without a step
back it is never read again.
-/

namespace SqlDml

open String (utf8Len)

/-! ## Tokens -/

/-- Tokens that go through `source` to its end, come to it in a last token, and have no other such
token. -/
structure EndsOnce (source : String) (tokens : List Token) : Prop where
  ne_nil : tokens ≠ []
  length_le : tokens.length ≤ source.utf8ByteSize + 1
  /-- The last token, and only the last, is the end of the text. -/
  end_iff : ∀ n token, tokens[n]? = some token →
    (token.kind = .endOfInput ↔ n + 1 = tokens.length)
  stop_eq : ∀ token ∈ tokens.getLast?, token.span.stop = source.utf8ByteSize
  covers : ∀ token ∈ tokens, token.kind ≠ .endOfInput → token.span.start < token.span.stop
  /-- A literal that is not closed leaves nothing but the end. -/
  unterminated : ∀ n token, tokens[n]? = some token →
    token.kind = .invalid .unterminatedLiteral → n + 2 = tokens.length

namespace TokenStream

theorem toList_of_next? {s s' : TokenStream} {token : Token} (h : s.next? = some (token, s')) :
    s.toList = token :: s'.toList := by
  rw [toList]
  split
  · rename_i hn
    rw [h] at hn
    cases hn
  · rename_i hn
    rw [h] at hn
    cases hn
    rfl

theorem length_toList_le_remaining (s : TokenStream) : s.toList.length ≤ s.remaining := by
  fun_induction toList s with
  | case1 s h => exact Nat.zero_le _
  | case2 s token s' h ih =>
    have hlt := remaining_lt_of_next? h
    rw [List.length_cons]
    omega

end TokenStream

theorem length_tokenize_le (source : String) :
    (tokenize source).length ≤ source.utf8ByteSize + 1 := by
  have hremaining := TokenStream.length_toList_le_remaining (TokenStream.ofString source)
  have hchars := length_le_utf8Len source.toList
  rw [utf8Len_toList] at hchars
  have hcount : (TokenStream.ofString source).remaining = source.toList.length + 1 := rfl
  unfold tokenize
  omega

theorem ended_after_iff (source : String) (n : Nat) :
    ((TokenStream.ofString source).after n).ended = true ↔ (tokenize source).length ≤ n := by
  rw [← TokenStream.next?_eq_none_iff, ← List.getElem?_eq_none_iff]
  have hn := TokenStream.getElem?_toList (TokenStream.ofString source) n
  rw [show (tokenize source)[n]? = _ from hn, Option.map_eq_none_iff]

theorem endOfInput_iff {source : String} {n : Nat} {token : Token}
    (h : (tokenize source)[n]? = some token) :
    token.kind = .endOfInput ↔ n + 1 = (tokenize source).length := by
  obtain ⟨hlt, -⟩ := List.getElem?_eq_some_iff.1 h
  obtain ⟨before, piece, rfl, -, htakes⟩ := exists_takes_of_getElem?_tokenize h
  show piece.kind = .endOfInput ↔ _
  rw [← htakes.ended_iff, ended_after_iff]
  omega

theorem unterminated_before_end {source : String} {n : Nat} {token : Token}
    (h : (tokenize source)[n]? = some token)
    (hk : token.kind = .invalid .unterminatedLiteral) : n + 2 = (tokenize source).length := by
  obtain ⟨hlt, -⟩ := List.getElem?_eq_some_iff.1 h
  have hend := endOfInput_iff h
  obtain ⟨before, piece, rfl, -, htakes⟩ := exists_takes_of_getElem?_tokenize h
  have hpiece : piece.kind = .invalid .unterminatedLiteral := hk
  have hform := htakes.form
  rw [hpiece] at hform
  have hnot : n + 1 ≠ (tokenize source).length := by
    intro hlast
    cases hpiece.symm.trans (hend.2 hlast)
  have hnext : n + 1 < (tokenize source).length := by omega
  -- The next token covers nothing, because nothing is left.
  obtain ⟨_, next, hnextToken, -, hnextTakes⟩ :=
    exists_takes_of_getElem?_tokenize (List.getElem?_eq_getElem hnext)
  have hrest := hnextTakes.rest_eq
  rw [hform.1, Piece.extent] at hrest
  have htext : next.text = [] :=
    (List.append_eq_nil_iff.1 (List.append_eq_nil_iff.1 hrest.symm).1).2
  have hkind := hnextTakes.text_eq_nil_iff.1 htext
  refine (endOfInput_iff (List.getElem?_eq_getElem hnext)).1 ?_
  rw [hnextToken]
  exact hkind

/-- The step that gives out the last token covers nothing and leaves nothing. -/
theorem exists_takes_last {source : String} {token : Token}
    (h : token ∈ (tokenize source).getLast?) :
    ∃ (before : List Char) (piece : Piece) (s : TokenStream), token = piece.place s.position ∧
      s.Reached source before ∧
      s.Takes piece ((TokenStream.ofString source).after (tokenize source).length) ∧
      piece.text = [] ∧ before ++ piece.skipped = source.toList := by
  rw [List.getLast?_eq_getElem?] at h
  obtain ⟨hlt, -⟩ := List.getElem?_eq_some_iff.1 h
  have hlength : (tokenize source).length - 1 + 1 = (tokenize source).length := by omega
  have hend := (endOfInput_iff h).2 hlength
  obtain ⟨before, piece, rfl, hreached, htakes⟩ := exists_takes_of_getElem?_tokenize h
  have htext := htakes.text_eq_nil_iff.2 hend
  have hsource := hreached.before_append htakes
  rw [htext, htakes.rest_of_ended (htakes.ended_iff.2 hend), List.append_nil,
    List.append_nil] at hsource
  exact ⟨before, piece, _, rfl, hreached, hlength ▸ htakes, htext, hsource⟩

/-- Behind its last token, a stream stands at the end of the text and on the line of that token. -/
theorem position_after_last {source : String} {token : Token}
    (h : token ∈ (tokenize source).getLast?) :
    let s := (TokenStream.ofString source).after (tokenize source).length
    s.position.offset = source.utf8ByteSize ∧ s.position.line = token.line := by
  obtain ⟨before, piece, s, rfl, hreached, htakes, htext, hsource⟩ := exists_takes_last h
  have hoffset := (hreached.takes htakes).offset_eq
  have hposition := htakes.position_eq
  rw [Piece.extent, htext, List.append_nil, hsource, utf8Len_toList] at hoffset
  rw [htext] at hposition
  refine ⟨hoffset, ?_⟩
  rw [hposition]
  rfl

theorem endsOnce_tokenize {source : String} (hl : source.utf8ByteSize < UInt32.size) :
    EndsOnce source (tokenize source) where
  ne_nil h := by
    have hended := (ended_after_iff source 0).2 (by rw [h]; exact Nat.le_refl 0)
    cases hended
  length_le := length_tokenize_le source
  end_iff n token h := endOfInput_iff h
  stop_eq token h := by
    obtain ⟨before, piece, s, rfl, hreached, htakes, htext, hsource⟩ := exists_takes_last h
    rw [hreached.span_eq htakes hl, htext, List.append_nil, hsource, utf8Len_toList]
  covers token h hk := by
    obtain ⟨n, hn⟩ := List.mem_iff_getElem?.1 h
    obtain ⟨before, piece, rfl, hreached, htakes⟩ := exists_takes_of_getElem?_tokenize hn
    have htext : piece.text ≠ [] := mt htakes.text_eq_nil_iff.1 hk
    have hpos := List.length_pos_iff.2 htext
    have hle := length_le_utf8Len piece.text
    rw [hreached.span_eq htakes hl, String.utf8Len_append _ piece.text]
    dsimp only
    omega
  unterminated n token h hk := unterminated_before_end h hk

/-! ## Draining -/

namespace TokenReader

/-- Draining is asking for the next result until it is none. -/
theorem run_replicate_next (r : TokenReader) :
    r.run (List.replicate (r.drain.1.length + 1) .next) =
      (r.drain.1.map (fun token => .result (some token)) ++ [.result none], r.drain.2) := by
  fun_induction drain r with
  | case1 r r' h =>
    show ([Answer.result r.next.1], r.next.2) = _
    rw [h]
    rfl
  | case2 r token r' h tokens last hd ih =>
    rw [hd] at ih
    rw [List.length_cons, List.replicate_succ, run]
    have hplay : r.play .next = (.result (some token), r') := by rw [play, h]
    rw [hplay, ih]
    rfl

theorem drain_of_ahead_nil {r : TokenReader} (h : r.ahead = []) :
    r.drain.1 = r.stream.toList ∧ r.drain.2.ahead = [] ∧
      r.drain.2.stream = r.stream.after r.stream.toList.length := by
  fun_induction drain r with
  | case1 r r' hn =>
    rw [next_of_ahead_nil h, scan_eq, Prod.mk.injEq, Option.map_eq_none_iff] at hn
    obtain ⟨hnone, rfl⟩ := hn
    have hlist := TokenStream.toList_of_ended (TokenStream.next?_eq_none_iff.1 hnone)
    rw [hlist]
    refine ⟨rfl, h, ?_⟩
    show r.stream.tail = r.stream
    rw [TokenStream.tail, hnone]
  | case2 r token r' hn tokens last hd ih =>
    rw [next_of_ahead_nil h, scan_eq, Prod.mk.injEq, Option.map_eq_some_iff] at hn
    obtain ⟨⟨⟨token, s'⟩, hsome, rfl⟩, rfl⟩ := hn
    have htail : r.stream.tail = s' := by rw [TokenStream.tail, hsome]
    obtain ⟨htokens, hahead, hstream⟩ := ih h
    rw [hd] at htokens hahead hstream
    rw [TokenStream.toList_of_next? hsome, ← htail]
    exact ⟨congrArg (token :: ·) htokens, hahead, hstream⟩

/-- With nothing ahead on a stream that has ended, a request gives no token and changes neither. -/
theorem play_of_ended {r : TokenReader} (ha : r.ahead = []) (he : r.stream.ended = true)
    {move : Move} (hm : move = .next ∨ move = .scan) :
    (r.play move).1 = .result none ∧ (r.play move).2.ahead = [] ∧
      (r.play move).2.stream = r.stream := by
  have hnone := TokenStream.next?_eq_none_iff.2 he
  have htail : r.stream.tail = r.stream := by rw [TokenStream.tail, hnone]
  rcases hm with rfl | rfl
  · rw [play, next_of_ahead_nil ha, scan_eq, hnone]
    exact ⟨rfl, ha, htail⟩
  · rw [play, scan_eq, hnone]
    exact ⟨rfl, ha, htail⟩

theorem run_of_ended {r : TokenReader} (ha : r.ahead = []) (he : r.stream.ended = true)
    {moves : List Move} (hm : ∀ move ∈ moves, move = .next ∨ move = .scan) :
    (∀ answer ∈ (r.run moves).1, answer = .result none) ∧
      (r.run moves).2.stream = r.stream := by
  induction moves generalizing r with
  | nil => exact ⟨nofun, rfl⟩
  | cons move moves ih =>
    obtain ⟨hmove, hmoves⟩ := List.forall_mem_cons.1 hm
    obtain ⟨hanswer, hahead, hstream⟩ := play_of_ended ha he hmove
    obtain ⟨hanswers, hlast⟩ := ih hahead (hstream ▸ he) hmoves
    rw [run]
    exact ⟨List.forall_mem_cons.2 ⟨hanswer, hanswers⟩, hlast.trans hstream⟩

/-- Whatever its look-ahead, a reader drains to the tokens of its text by one request for each and
one more. Then it stands at the end of the text, on the line of the last token, and stays there
without tokens as long as it is not stepped back. -/
theorem drain_endsOnce {source : String} (hl : source.utf8ByteSize < UInt32.size)
    (lookahead : Nat) :
    (ofString source { lookahead }).drain.1 = tokenize source ∧ EndsOnce source (tokenize source) ∧
      let start := ofString source { lookahead }
      let r := start.drain.2
      start.run (List.replicate ((tokenize source).length + 1) .next) =
          ((tokenize source).map (fun token => .result (some token)) ++ [.result none], r) ∧
        r.offset = source.utf8ByteSize ∧
        (∀ token ∈ (tokenize source).getLast?, r.line = token.line) ∧
        ∀ moves : List Move, (∀ move ∈ moves, move = .next ∨ move = .scan) →
          (∀ answer ∈ (r.run moves).1, answer = .result none) ∧
            (r.run moves).2.offset = r.offset ∧ (r.run moves).2.line = r.line := by
  have hends := endsOnce_tokenize hl
  obtain ⟨htokens, hahead, hstream⟩ : (ofString source { lookahead }).drain.1 = tokenize source ∧
      (ofString source { lookahead }).drain.2.ahead = [] ∧
      (ofString source { lookahead }).drain.2.stream =
        (TokenStream.ofString source).after (tokenize source).length :=
    drain_of_ahead_nil rfl
  refine ⟨htokens, hends, ?_⟩
  intro start r
  have hended : r.stream.ended = true := by
    rw [show r.stream = _ from hstream, ended_after_iff]
  have hlast {token : Token} (h : token ∈ (tokenize source).getLast?) :
      r.offset = source.utf8ByteSize ∧ r.line = token.line := by
    have hposition := position_after_last h
    rw [← hstream] at hposition
    exact hposition
  refine ⟨?_, ?_, ?_, fun moves hmoves => ?_⟩
  · rw [← htokens]
    exact run_replicate_next start
  · exact (hlast (List.getLast?_eq_some_getLast hends.ne_nil)).1
  · exact fun token htoken => (hlast htoken).2
  · obtain ⟨hanswers, hlater⟩ := run_of_ended hahead hended hmoves
    exact ⟨hanswers, by rw [offset, hlater, offset], by rw [line, hlater, line]⟩

/-- A literal that is not closed, read with a window of two results: the end is the third token, and
two more requests find nothing. -/
theorem drain_endsOnce_unterminated :
    let start := ofString "a\n'b" { lookahead := 2 }
    String.utf8ByteSize "a\n'b" < UInt32.size ∧ start.drain.1 = tokenize "a\n'b" ∧
      EndsOnce "a\n'b" (tokenize "a\n'b") ∧
      (∀ move ∈ [Move.next, .scan], move = .next ∨ move = .scan) ∧
      ∀ answer ∈ (start.drain.2.run [.next, .scan]).1, answer = .result none := by
  intro start
  have hl : String.utf8ByteSize "a\n'b" < UInt32.size := by decide
  have hmoves : ∀ move ∈ [Move.next, .scan], move = .next ∨ move = .scan := by decide
  obtain ⟨htokens, hends, -, -, -, hlater⟩ := drain_endsOnce hl 2
  exact ⟨hl, htokens, hends, hmoves, (hlater _ hmoves).1⟩

end TokenReader

end SqlDml
