import SqlDml.Proofs.Lexeme.Following
import SqlDml.Proofs.TokenReader.Tape
import SqlDml.Proofs.TokenStream.Relaid

/-!
# Runs of comparison characters

* `Comparison.cut`, `Comparison.mark` : how a run is cut, and the kind and value of each part;
* `Comparison.read_run` : what is read at the front of a run;
* `Comparison.pieces_run` : the pieces of a run, by induction on it;
* `TokenStream.body` : where the next token of a stream begins;
* `tokenize_comparisons` : the tokens of a run that begins where some token does.

A run is taken whole if it is an operator, and otherwise its first character is. So the last two
characters decide on the whole run, and what stands before them is cut into single characters.
-/

namespace SqlDml

open Lexeme (isComparison)

namespace Comparison

/-! ## How a run is cut -/

def pairs : List (List Char) := [['!', '='], ['<', '>'], ['<', '='], ['>', '=']]

/-- The parts of a run: single characters, but for a pair at its end. -/
def cut (run : List Char) : List (List Char) :=
  let singles := run.length - 2
  if run.drop singles ∈ pairs then (run.take singles).map ([·]) ++ [run.drop singles]
  else run.map ([·])

/-- A part is an operator, but an exclamation mark by itself is punctuation. -/
def mark (part : List Char) : Mark :=
  (if part = ['!'] then .punctuation '!' else .operator (String.ofList part),
    .text (String.ofList part))

def lexeme (part rest : List Char) : Lexeme := ⟨(mark part).1, (mark part).2, part, rest⟩

variable {c : Char} {cs run rest : List Char}

theorem length_of_mem_pairs {part : List Char} (h : part ∈ pairs) : part.length = 2 := by
  revert part
  decide

/-- The front of a run that is no pair is a single character. -/
theorem cut_cons (c : Char) (cs : List Char) :
    cut (c :: cs) = if c :: cs ∈ pairs then [c :: cs] else [c] :: cut cs := by
  match cs with
  | [] => simp [cut, pairs]
  | [d] =>
    have hsingle : cut [d] = [[d]] := by simp [cut, pairs]
    rw [hsingle]
    rfl
  | d :: e :: cs =>
    have hlong : c :: d :: e :: cs ∉ pairs := fun h => by
      have hlength := length_of_mem_pairs h
      simp only [List.length_cons] at hlength
      omega
    have hrun : (c :: d :: e :: cs).length - 2 = cs.length + 1 := rfl
    have htail : (d :: e :: cs).length - 2 = cs.length := rfl
    rw [if_neg hlong, cut, cut, hrun, htail, List.drop_succ_cons, List.take_succ_cons]
    split <;> rfl

theorem cut_ne_nil (h : run ≠ []) : cut run ≠ [] := by
  obtain ⟨c, cs, rfl⟩ := List.exists_cons_of_ne_nil h
  rw [cut_cons]
  split <;> exact List.cons_ne_nil _ _

/-! ## Lexemes and pieces -/

theorem single_eq_lexeme (hc : isComparison c) (rest : List Char) :
    Lexeme.single c rest = lexeme [c] rest := by
  simp only [isComparison, Bool.or_eq_true, beq_iff_eq] at hc
  rcases hc with ((rfl | rfl) | rfl) | rfl <;> rfl

/-- Of two or more characters only a pair is an operator. -/
theorem contains_comparisons_iff {d : Char} :
    Lexeme.comparisons.contains (c :: d :: cs) = true ↔ c :: d :: cs ∈ pairs := by
  have hlong : ∀ text ∈ Lexeme.comparisons, text.length = 1 ∨ text ∈ pairs := by decide
  have hpair : ∀ text ∈ pairs, text ∈ Lexeme.comparisons := by decide
  rw [List.contains_iff_mem]
  refine ⟨fun h => (hlong _ h).resolve_left fun hlength => ?_, hpair _⟩
  simp only [List.length_cons] at hlength
  omega

/-- At the front of a run stands the run itself, if it is a pair, and else its first character. -/
theorem read_run (hc : isComparison c) (hcs : cs.all isComparison)
    (hr : ∀ d ∈ rest.head?, isComparison d = false) :
    Lexeme.read c (cs ++ rest) =
      if c :: cs ∈ pairs then lexeme (c :: cs) rest else lexeme [c] (cs ++ rest) := by
  rw [read_of_isComparison hc]
  cases cs with
  | nil =>
    have hshort : [c] ∉ pairs := fun h => absurd (length_of_mem_pairs h) (by simp)
    rw [if_neg hshort, List.nil_append, Lexeme.comparison_eq_single hc hr, single_eq_lexeme hc]
  | cons d cs =>
    obtain ⟨htake, hdrop⟩ := takeWhile_append_of_head hcs hr
    rw [Lexeme.comparison, htake, hdrop, single_eq_lexeme hc]
    simp only [contains_comparisons_iff]
    split
    · rw [lexeme, mark, if_neg (by simp)]
      rfl
    · rfl

/-- The pieces of a run stand one right behind the other. The induction is on the run, as behind its
first character stands a shorter one. -/
theorem pieces_run (h : run.all isComparison) (hr : ∀ d ∈ rest.head?, isComparison d = false) :
    pieces (run ++ rest) =
      (cut run).map (fun part => (lexeme part rest).behind []) ++ pieces rest := by
  induction run with
  | nil => rfl
  | cons c cs ih =>
    rw [List.all_cons, Bool.and_eq_true] at h
    obtain ⟨hb, ho⟩ := bare_of_pred h.1 (by decide) (cs ++ rest)
    rw [List.cons_append, pieces_of_split_cons (Layout.splitFrom_false_other ho hb),
      read_run h.1 h.2 hr, cut_cons]
    split
    · rfl
    · rw [List.map_cons, List.cons_append, ← ih h.2]
      rfl

end Comparison

/-! ## Streams -/

namespace TokenStream

/-- The text that is left from the next token on, without the layout before that. -/
def body (s : TokenStream) : List Char := if s.ended then [] else (Layout.split s.rest).2

def pieces (s : TokenStream) : List Piece := if s.ended then [] else SqlDml.pieces s.rest

theorem pieces_tail (s : TokenStream) : s.tail.pieces = s.pieces.tail := by
  cases he : s.ended with
  | true => simp [tail, next?, pieces, he]
  | false =>
    rcases hs : Layout.split s.rest with ⟨skipped, _ | ⟨c, cs⟩⟩
    · simp [tail, next?, pieces, he, hs, pieces_of_split_nil hs]
    · simp [tail, next?, pieces, he, hs, pieces_of_split_cons hs]

theorem pieces_after (s : TokenStream) (n : Nat) : (s.after n).pieces = s.pieces.drop n := by
  induction n generalizing s with
  | zero => rfl
  | succ n ih => rw [after, ih, pieces_tail, List.drop_tail]

/-- A stream with a token to come holds the pieces of that and of all that follows. -/
theorem pieces_of_body {s : TokenStream} {cs : List Char} (h : s.body = cs) (hn : cs ≠ []) :
    ∃ skipped, s.pieces = Piece.after skipped (SqlDml.pieces cs) := by
  unfold body at h
  split at h
  · exact absurd h.symm hn
  rename_i he
  have hsplit := Layout.split_append s.rest
  have hlaid := Layout.laid_split s.rest
  rw [h] at hsplit hlaid
  rw [List.isEmpty_eq_false_iff.2 hn] at hlaid
  refine ⟨(Layout.split s.rest).1, ?_⟩
  rw [pieces, if_neg he, ← pieces_laid_append hlaid, hsplit]

end TokenStream

/-! ## Tokens -/

theorem map_skipped_tokenize (source : String) :
    (tokenize source).map Token.skipped =
      (pieces source.toList).map fun piece => String.ofList piece.skipped := by
  have hplace (p : Position) (list : List Piece) : (Piece.placeAll p list).map Token.skipped =
      list.map fun piece => String.ofList piece.skipped := by
    induction list generalizing p with
    | nil => rfl
    | cons piece list ih =>
      rw [Piece.placeAll, List.map_cons, List.map_cons, ih]
      rfl
  rw [tokenize_eq_placeAll, hplace]

/-- The pieces from the place of a run on: its first part behind some layout, the other parts behind
none, and those of what follows. -/
theorem drop_pieces_of_body {source : String} {k : Nat} {run rest : List Char}
    (hs : ((TokenStream.ofString source).after k).body = run ++ rest) (hn : run ≠ [])
    (hrun : run.all isComparison) (hrest : ∀ c ∈ rest.head?, isComparison c = false) :
    ∃ skipped part parts, Comparison.cut run = part :: parts ∧
      (pieces source.toList).drop k = (Comparison.lexeme part rest).behind skipped ::
        (parts.map fun part => (Comparison.lexeme part rest).behind []) ++ pieces rest := by
  obtain ⟨skipped, hpieces⟩ := TokenStream.pieces_of_body hs (by simp [hn])
  have hsource : (TokenStream.ofString source).pieces = pieces source.toList := rfl
  rw [TokenStream.pieces_after, hsource, Comparison.pieces_run hrun hrest] at hpieces
  obtain ⟨part, parts, hparts⟩ := List.exists_cons_of_ne_nil (Comparison.cut_ne_nil hn)
  refine ⟨skipped, part, parts, hparts, ?_⟩
  rw [hpieces, hparts, List.map_cons, List.cons_append, List.cons_append, Piece.after]
  simp [Piece.relay, Lexeme.behind]

/-- The tokens of a run of comparison characters, whatever its length, that begins where a token
does. Its parts follow one another with no layout between them, and behind them stand the tokens of
what follows the run. -/
theorem tokenize_comparisons {source : String} {k : Nat} {run rest : List Char}
    (hs : ((TokenStream.ofString source).after k).body = run ++ rest) (hn : run ≠ [])
    (hrun : run.all isComparison) (hrest : ∀ c ∈ rest.head?, isComparison c = false) :
    let tokens := ((tokenize source).drop k).take (Comparison.cut run).length
    let others := (tokenize source).drop (k + (Comparison.cut run).length)
    tokens.map Token.mark = (Comparison.cut run).map Comparison.mark ∧
      (∀ token ∈ tokens.tail, token.skipped = "") ∧
      others.map Token.mark = marks rest ∧
      (source.utf8ByteSize < UInt32.size →
        tokens.map (fun token => token.span.slice source) =
          (Comparison.cut run).map String.ofList) := by
  intro tokens others
  obtain ⟨skipped, part, parts, hparts, hdrop⟩ := drop_pieces_of_body hs hn hrun hrest
  have htokens {α : Type} {f : Token → α} {g : Piece → α}
      (h : (tokenize source).map f = (pieces source.toList).map g) :
      tokens.map f = g ((Comparison.lexeme part rest).behind skipped) ::
        parts.map fun part => g ((Comparison.lexeme part rest).behind []) := by
    simp only [tokens, List.map_take, List.map_drop, h]
    rw [← List.map_drop, hdrop, hparts]
    simp [List.take_left']
  have hmarks := map_mark_tokenize source
  refine ⟨?_, ?_, ?_, fun hl => ?_⟩
  · rw [htokens hmarks, hparts]
    rfl
  · have hskipped := congrArg List.tail (htokens (map_skipped_tokenize source))
    rw [← List.map_tail, List.tail_cons] at hskipped
    intro token ht
    have hmem := List.mem_map_of_mem (f := Token.skipped) ht
    rw [hskipped, List.mem_map] at hmem
    obtain ⟨part, -, hpart⟩ := hmem
    exact hpart.symm
  · simp only [others, ← List.drop_drop, List.map_drop, hmarks]
    rw [marks, ← List.map_drop, hdrop, hparts]
    simp [marks, List.drop_left']
  · rw [htokens (map_slice_tokenize hl), hparts]
    rfl

/-- A run of five behind a comment, of which the last two are a pair. -/
theorem tokenize_comparisons_five :
    ((TokenStream.ofString "x#\n<!=>=-1").after 1).body = "<!=>=".toList ++ "-1".toList ∧
    (((tokenize "x#\n<!=>=-1").drop 1).take 4).map Token.mark =
      [(.operator "<", .text "<"), (.punctuation '!', .text "!"), (.operator "=", .text "="),
        (.operator ">=", .text ">=")] ∧
    ((tokenize "x#\n<!=>=-1").drop 5).map Token.mark = [(.integer, .integer (-1)), Mark.last] := by
  have hbody : ((TokenStream.ofString "x#\n<!=>=-1").after 1).body =
      "<!=>=".toList ++ "-1".toList := by decide +kernel
  have hrest : ∀ c ∈ "-1".toList.head?, isComparison c = false := by
    rintro c ⟨⟩
    rfl
  obtain ⟨htokens, -, hothers, -⟩ := tokenize_comparisons hbody (by decide) (by decide) hrest
  have hcut : Comparison.cut "<!=>=".toList = [['<'], ['!'], ['='], ['>', '=']] := by decide
  rw [hcut] at htokens hothers
  refine ⟨hbody, htokens, hothers.trans ?_⟩
  decide +kernel

end SqlDml
