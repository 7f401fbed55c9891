import SqlDml.Proofs.Lexeme.Number
import SqlDml.Proofs.TokenStream.Lexemes

/-!
# Numbers that run into a name

* `Numeral.RunsInto` : a numeral, the run of name characters right behind it and what follows them;
* `covers_runsInto` : the malformed number that a token is there. It takes the run and goes on
  through signs, so that it ends with the run exactly where no sign follows.

A broken number takes along signs for the sake of broken exponents. It does so whatever broke it.
-/

namespace SqlDml

open Lexeme (isNameChar isSpoilt verbatim)

namespace Numeral

/-- All of the numeral `n`, then the longest run of name characters, then `rest`. A marker behind a
real would begin an exponent, a whole one or a broken one, and is no run. -/
structure RunsInto (n : Numeral) (run rest : List Char) : Prop where
  formed : n.Formed
  nonempty : run ≠ []
  names : run.all isNameChar
  maximal : rest.head?.any isNameChar = false
  digits : ∀ c ∈ run.head?, c.isDigit = false
  marker : n.fraction.isSome → n.exponent = none → ∀ c ∈ run.head?, ¬IsMarker c

variable {n : Numeral} {run rest : List Char}

theorem RunsInto.head_name (h : RunsInto n run rest) : (run ++ rest).head?.any isNameChar := by
  obtain ⟨d, run, rfl⟩ := List.exists_cons_of_ne_nil h.nonempty
  have hnames := h.names
  rw [List.all_cons, Bool.and_eq_true] at hnames
  exact hnames.1

/-- The run decides where the numeral ends. -/
theorem RunsInto.written (h : RunsInto n run rest) : Written n [] (run ++ rest) := by
  obtain ⟨hformed, hnonempty, hnames, -, hdigits, hmarker⟩ := h
  obtain ⟨negative, whole, fraction, exponent⟩ := n
  obtain ⟨d, run, rfl⟩ := List.exists_cons_of_ne_nil hnonempty
  rw [List.all_cons, Bool.and_eq_true] at hnames
  have hpoint : d ≠ '.' := ne_of_pred hnames.1 (by decide)
  cases fraction with
  | none =>
    obtain rfl := hformed.exponent_eq_none rfl
    refine .integer hformed.whole hdigits fun cs hcs => ?_
    exact absurd (List.cons.inj hcs).1 hpoint
  | some fraction =>
    have hplaces := hformed.fraction fraction rfl
    cases exponent with
    | none =>
      refine .real hformed.whole hplaces hdigits (fun _ hd => ?_) (hmarker rfl rfl)
      exact hpoint (Option.some.inj hd)
    | some e =>
      obtain ⟨-, hm, hs, hpower⟩ := hformed.exponent e rfl
      exact .scaled hformed.whole hplaces hm hs hpower.1 hpower.2 hdigits

theorem RunsInto.read_eq (h : RunsInto n run rest) :
    read (n.text ++ (run ++ rest)) = ⟨n, [], run ++ rest⟩ := h.formed.read_append h.written

end Numeral

/-! ## Lexemes -/

namespace Lexeme

variable {n : Numeral} {run rest : List Char}

theorem takeWhile_isSpoilt_eq_nil_iff (h : rest.head?.any isNameChar = false) :
    rest.takeWhile isSpoilt = [] ↔ ∀ c ∈ rest.head?, ¬Numeral.IsSign c := by
  cases rest with
  | nil => exact iff_of_true rfl nofun
  | cons c rest =>
    have hc : isNameChar c = false := h
    rw [takeWhile_eq_nil_iff]
    simp [isSpoilt, hc, Numeral.IsSign]

/-- A numeral that runs into a name is one malformed number with it and all that goes on behind. -/
theorem number_of_runsInto (h : n.RunsInto run rest) :
    number (n.text ++ (run ++ rest)) =
      verbatim (.invalid .malformedNumber) (n.text ++ run ++ rest.takeWhile isSpoilt)
        (rest.dropWhile isSpoilt) := by
  have hspoilt : ∀ c ∈ run, isSpoilt c := fun c hc => by
    simp [isSpoilt, List.all_eq_true.1 h.names c hc]
  rw [number_of_no_value h.read_eq, List.takeWhile_append_of_pos hspoilt,
    List.dropWhile_append_of_pos hspoilt, List.append_nil, ← List.append_assoc]
  rintro v ⟨-, hsound, -⟩
  rw [h.head_name] at hsound
  cases hsound

end Lexeme

/-! ## Tokens -/

/-- A token that begins where a numeral runs into a name is a malformed number. It covers the
numeral, the run and, if a sign follows, the sign with all name characters and signs behind it. -/
theorem covers_runsInto {source : String} (hl : source.utf8ByteSize < UInt32.size) {token : Token}
    (ht : token ∈ tokenize source) {n : Numeral} {run rest : List Char} (h : n.RunsInto run rest)
    (hs : textFrom source token.span.start = n.text ++ (run ++ rest)) :
    token.Covers source (verbatim (.invalid .malformedNumber)
        (n.text ++ run ++ rest.takeWhile isSpoilt) (rest.dropWhile isSpoilt)) ∧
      ((token.span.slice source).toList = n.text ++ run ↔
        ∀ c ∈ rest.head?, ¬Numeral.IsSign c) := by
  have hstarts := h.formed.starts_append (run ++ rest)
  have hcovers : token.Covers source (verbatim (.invalid .malformedNumber)
      (n.text ++ run ++ rest.takeWhile isSpoilt) (rest.dropWhile isSpoilt)) := by
    rcases exists_covers_of_mem_tokenize hl ht with ⟨-, hend⟩ | ⟨c, cs, hfrom, hcovers, -⟩
    · rw [← hs, hend] at hstarts
      cases hstarts
    · rw [hs] at hfrom
      rw [hfrom] at hstarts
      rwa [Lexeme.read_of_starts hstarts, ← hfrom, Lexeme.number_of_runsInto h] at hcovers
  refine ⟨hcovers, ?_⟩
  rw [← Lexeme.takeWhile_isSpoilt_eq_nil_iff h.maximal, hcovers.text_eq]
  exact List.append_right_eq_self

/-- A negative real with an exponent that runs into a name, before a sum that it swallows. -/
theorem covers_runsInto_scaled : Token.Covers "a -1.5e+3_x+2 b"
      ⟨.invalid .malformedNumber, .text "-1.5e+3_x+2", " ", ⟨2, 13⟩, 1, 3⟩
      ⟨.invalid .malformedNumber, .text "-1.5e+3_x+2", "-1.5e+3_x+2".toList, " b".toList⟩ ∧
    ("-1.5e+3_x+2".toList = "-1.5e+3_x".toList ↔ ∀ c ∈ "+2 b".toList.head?, ¬Numeral.IsSign c) := by
  have hformed : Numeral.Formed ⟨true, ['1'], some ['5'], some ⟨'e', '+', ['3']⟩⟩ :=
    ⟨by decide, by simp, .inl (by decide), by simp [Numeral.IsMarker, Numeral.IsSign, IsDigits]⟩
  have hruns : Numeral.RunsInto ⟨true, ['1'], some ['5'], some ⟨'e', '+', ['3']⟩⟩ "_x".toList
      "+2 b".toList := by
    refine ⟨hformed, by decide, by decide, by decide, ?_, ?_⟩
    · rintro c ⟨⟩
      decide
    · intro _ he
      cases he
  exact @covers_runsInto "a -1.5e+3_x+2 b" (by decide)
    ⟨.invalid .malformedNumber, .text "-1.5e+3_x+2", " ", ⟨2, 13⟩, 1, 3⟩ (by decide +kernel)
    _ _ _ hruns (by decide +kernel)

/-- The signs that open a comment are taken by the number before them, and the comment is read. -/
theorem tokenize_broken_comment :
    Numeral.RunsInto { negative := false, whole := "12".toList } "ab".toList "-- c".toList ∧
    (tokenize "12ab-- c").map (fun token => (token.mark, token.span)) =
      [((.invalid .malformedNumber, .text "12ab--"), ⟨0, 6⟩),
        ((.identifier, .text "c"), ⟨7, 8⟩), (Mark.last, ⟨8, 8⟩)] := by
  have hformed := @Numeral.formed_of_isDigits false "12".toList ⟨by decide, by decide⟩
  refine ⟨⟨hformed, by decide, by decide, by decide, ?_, ?_⟩, by decide +kernel⟩
  · rintro c ⟨⟩
    decide
  · intro hf
    cases hf

end SqlDml
