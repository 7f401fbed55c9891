import SqlDml.Proofs.Binary64.Nearest
import SqlDml.Proofs.Lexeme.Atoms
import SqlDml.Proofs.Lexeme.Number
import SqlDml.Proofs.TokenStream.Lexemes

/-!
# Literals among the tokens

* `covers_quoted` : a token that begins at a quote is the literal that the atoms behind it make;
* `number_iff` : the texts that are one number are those of the grammar, in range, and every number
  among the tokens of a text has such a text.
-/

namespace SqlDml

/-! ## Quoted literals -/

/-- A token that begins at a quote is the literal that the atoms of the text behind it make. -/
theorem covers_quoted {source : String} (hl : source.utf8ByteSize < UInt32.size) {token : Token}
    (ht : token ∈ tokenize source) {quote : Char} {cs : List Char}
    (hq : quote = '\'' ∨ quote = '"') (hs : textFrom source token.span.start = quote :: cs) :
    token.Covers source (Quoted.lexeme quote (Quoted.atoms cs)) := by
  rcases exists_covers_of_mem_tokenize hl ht with ⟨-, hend⟩ | ⟨c, body, hfrom, hcovers, -⟩
  · rw [hs] at hend
    cases hend
  · rw [hs] at hfrom
    obtain ⟨rfl, rfl⟩ := List.cons.inj hfrom
    have hread : Lexeme.read quote cs = Lexeme.quoted quote cs := by
      rcases hq with rfl | rfl <;> rfl
    rwa [hread, Quoted.quoted_eq_lexeme hq] at hcovers

/-- An escaped percent sign, the other quote, an escaped quote, and two percent signs before the
last `s`. -/
theorem covers_quoted_percents :
    Token.Covers "x '\\%s\"é\\'%%s' \"y"
      ⟨.placeholder, .text "'\\%s\"é\\'%%s'", " ", ⟨2, 15⟩, 1, 3⟩
      ⟨.placeholder, .text "'\\%s\"é\\'%%s'", "'\\%s\"é\\'%%s'".toList, " \"y".toList⟩ := by
  have h := @covers_quoted "x '\\%s\"é\\'%%s' \"y" (by decide)
    ⟨.placeholder, .text "'\\%s\"é\\'%%s'", " ", ⟨2, 15⟩, 1, 3⟩ (by decide +kernel) '\''
    "\\%s\"é\\'%%s' \"y".toList (.inl rfl) (by decide +kernel)
  have hlexeme : Quoted.lexeme '\'' (Quoted.atoms "\\%s\"é\\'%%s' \"y".toList) =
      ⟨.placeholder, .text "'\\%s\"é\\'%%s'", "'\\%s\"é\\'%%s'".toList, " \"y".toList⟩ := by
    decide +kernel
  rwa [hlexeme] at h

/-! ## Numbers -/

open Lexeme (literalKind)

variable {w : String}

/-- The text of a numeral is one number, if it is in range, and else a malformed one. -/
theorem isSole_formed (hl : w.utf8ByteSize < UInt32.size) {n : Numeral} (h : n.Formed)
    (ht : n.text = w.toList) :
    (∀ v, n.value? = some v → IsSole w (literalKind v, v)) ∧
      (n.value? = none → IsSole w (.invalid .malformedNumber, .text w)) := by
  obtain ⟨c, cs, htext, hb, ho, hsome, hnone⟩ := Lexeme.read_formed h
  have hw := ht.symm.trans htext
  refine ⟨fun v hv => isSole_of_read hl hw hb ho (hsome v hv), fun hv => ?_⟩
  refine isSole_of_read hl hw hb ho ?_
  rw [hnone hv, ← hw, String.ofList_toList]

/-- A text that is one number is the text of a numeral in range. -/
theorem exists_formed_of_isSole (hl : w.utf8ByteSize < UInt32.size) {m : Mark} (h : IsSole w m)
    (hm : m.1 = .integer ∨ m.1 = .real) :
    ∃ n : Numeral, n.Formed ∧ n.text = w.toList ∧ n.value? = some m.2 := by
  have hlast : m.1 ≠ .endOfInput := by rcases hm with hm | hm <;> simp [hm]
  obtain ⟨c, cs, hw, hread⟩ := exists_read_of_isSole hl h hlast
  have hk : (Lexeme.read c cs).kind = m.1 := by rw [hread]
  rw [← hk] at hm
  obtain ⟨n, v, rest, hn, hv, -, hlexeme⟩ := Lexeme.exists_formed_of_kind hm
  rw [hlexeme, Lexeme.mk.injEq] at hread
  obtain ⟨-, hvalue, htext, -⟩ := hread
  exact ⟨n, hn, htext.trans hw.symm, by rw [hv, hvalue]⟩

/-- A number among the tokens is a numeral in range, and no name begins right behind it. -/
theorem exists_formed_of_mem_tokenize (hl : w.utf8ByteSize < UInt32.size) {token : Token}
    (ht : token ∈ tokenize w) (hk : token.kind = .integer ∨ token.kind = .real) :
    (∃ n : Numeral, n.Formed ∧ n.text = (token.span.slice w).toList ∧
      n.value? = some token.value ∧ token.kind = literalKind token.value) ∧
    (textFrom w token.span.stop).head?.any Lexeme.isNameChar = false := by
  rcases exists_covers_of_mem_tokenize hl ht with ⟨hend, -⟩ | ⟨c, cs, -, hcovers, -⟩
  · rw [hend] at hk
    rcases hk with hk | hk <;> cases hk
  · rw [hcovers.kind_eq] at hk
    obtain ⟨n, v, rest, hn, hv, hname, hlexeme⟩ := Lexeme.exists_formed_of_kind hk
    rw [hlexeme] at hcovers
    exact ⟨⟨n, hn, hcovers.text_eq.symm, by rw [hv, hcovers.value_eq],
      by rw [hcovers.kind_eq, hcovers.value_eq]⟩, by rwa [hcovers.rest_eq]⟩

theorem isSole_integer_iff (hl : w.utf8ByteSize < UInt32.size) (i : Int64) :
    IsSole w (.integer, .integer i) ↔ IsInteger w.toList i.toInt := by
  rw [isInteger_iff]
  constructor
  · intro h
    obtain ⟨n, hn, ht, hv⟩ := exists_formed_of_isSole hl h (.inl rfl)
    obtain ⟨hf, hi⟩ := Numeral.value?_eq_integer.1 hv
    exact ⟨n, hn, hf, ht, hi⟩
  · rintro ⟨n, hn, hf, ht, hi⟩
    exact (isSole_formed hl hn ht).1 _ (Numeral.value?_eq_integer.2 ⟨hf, hi⟩)

theorem isSole_real_iff (hl : w.utf8ByteSize < UInt32.size) (x : Binary64) :
    IsSole w (.real, .real x) ↔
      ∃ d, IsReal w.toList d ∧ Binary64.IsNearest d x ∧ x.isFinite := by
  simp only [isReal_iff, Binary64.isNearest_iff]
  constructor
  · intro h
    obtain ⟨n, hn, ht, hv⟩ := exists_formed_of_isSole hl h (.inr rfl)
    obtain ⟨hf, hx, hfinite⟩ := Numeral.value?_eq_real.1 hv
    exact ⟨n.decimal, ⟨n, hn, hf, ht, rfl⟩, hx, hfinite⟩
  · rintro ⟨_, ⟨n, hn, hf, ht, rfl⟩, hx, hfinite⟩
    exact (isSole_formed hl hn ht).1 _ (Numeral.value?_eq_real.2 ⟨hf, hx, hfinite⟩)

theorem isSole_malformed_integer (hl : w.utf8ByteSize < UInt32.size) {i : Int}
    (h : IsInteger w.toList i) (hi : ¬(Int64.minValue.toInt ≤ i ∧ i ≤ Int64.maxValue.toInt)) :
    IsSole w (.invalid .malformedNumber, .text w) := by
  obtain ⟨n, hn, hf, ht, rfl⟩ := isInteger_iff.1 h
  refine (isSole_formed hl hn ht).2 ?_
  rw [Numeral.value?, hf]
  exact if_neg hi

theorem isSole_malformed_real (hl : w.utf8ByteSize < UInt32.size) {d : Decimal} {x : Binary64}
    (h : IsReal w.toList d) (hx : Binary64.IsNearest d x) (hf : x.isFinite = false) :
    IsSole w (.invalid .malformedNumber, .text w) := by
  obtain ⟨n, hn, hp, ht, rfl⟩ := isReal_iff.1 h
  obtain rfl := Binary64.isNearest_iff.1 hx
  obtain ⟨digits, hd⟩ := Option.isSome_iff_exists.1 hp
  refine (isSole_formed hl hn ht).2 ?_
  rw [Numeral.value?, hd]
  exact if_neg (Bool.eq_false_iff.1 hf)

theorem integer_of_mem_tokenize (hl : w.utf8ByteSize < UInt32.size) {token : Token}
    (ht : token ∈ tokenize w) (hk : token.kind = .integer) :
    ∃ i : Int64, token.value = .integer i ∧ IsInteger (token.span.slice w).toList i.toInt := by
  obtain ⟨⟨n, hn, htext, hv, hvalue⟩, -⟩ := exists_formed_of_mem_tokenize hl ht (.inl hk)
  rw [hk] at hvalue
  cases hi : token.value with
  | integer i =>
    rw [hi] at hv
    obtain ⟨hf, hi⟩ := Numeral.value?_eq_integer.1 hv
    exact ⟨i, rfl, isInteger_iff.2 ⟨n, hn, hf, htext, hi⟩⟩
  | real x =>
    rw [hi] at hvalue
    cases hvalue
  | text s =>
    rw [hi] at hvalue
    cases hvalue

theorem real_of_mem_tokenize (hl : w.utf8ByteSize < UInt32.size) {token : Token}
    (ht : token ∈ tokenize w) (hk : token.kind = .real) :
    ∃ x d, token.value = .real x ∧ IsReal (token.span.slice w).toList d ∧
      Binary64.IsNearest d x ∧ x.isFinite := by
  obtain ⟨⟨n, hn, htext, hv, hvalue⟩, -⟩ := exists_formed_of_mem_tokenize hl ht (.inr hk)
  rw [hk] at hvalue
  cases hx : token.value with
  | real x =>
    rw [hx] at hv
    obtain ⟨hf, hx, hfinite⟩ := Numeral.value?_eq_real.1 hv
    exact ⟨x, n.decimal, rfl, isReal_iff.2 ⟨n, hn, hf, htext, rfl⟩,
      Binary64.isNearest_iff.2 hx, hfinite⟩
  | integer i =>
    rw [hx] at hvalue
    cases hvalue
  | text s =>
    rw [hx] at hvalue
    cases hvalue

/-- What makes one number of a text, what a number out of range is, and what every number among
the tokens is. -/
theorem number_iff (hl : w.utf8ByteSize < UInt32.size) :
    (∀ i : Int64, IsSole w (.integer, .integer i) ↔ IsInteger w.toList i.toInt) ∧
    (∀ x : Binary64, IsSole w (.real, .real x) ↔
      ∃ d, IsReal w.toList d ∧ Binary64.IsNearest d x ∧ x.isFinite) ∧
    (∀ i : Int, IsInteger w.toList i → ¬(Int64.minValue.toInt ≤ i ∧ i ≤ Int64.maxValue.toInt) →
      IsSole w (.invalid .malformedNumber, .text w)) ∧
    (∀ (d : Decimal) (x : Binary64), IsReal w.toList d → Binary64.IsNearest d x →
      x.isFinite = false → IsSole w (.invalid .malformedNumber, .text w)) ∧
    ∀ token ∈ tokenize w,
      (token.kind = .integer → ∃ i : Int64, token.value = .integer i ∧
        IsInteger (token.span.slice w).toList i.toInt) ∧
      (token.kind = .real → ∃ x d, token.value = .real x ∧
        IsReal (token.span.slice w).toList d ∧ Binary64.IsNearest d x ∧ x.isFinite) ∧
      (token.kind = .integer ∨ token.kind = .real →
        (textFrom w token.span.stop).head?.any Lexeme.isNameChar = false) := by
  refine ⟨isSole_integer_iff hl, isSole_real_iff hl, fun i => isSole_malformed_integer hl,
    fun d x => isSole_malformed_real hl, fun token ht => ⟨integer_of_mem_tokenize hl ht,
      real_of_mem_tokenize hl ht, fun hk => (exists_formed_of_mem_tokenize hl ht hk).2⟩⟩

/-- The least integer is in range without its sign only; a real without digits before the point, and
one that is too large. -/
theorem number_iff_limits :
    IsSole "-9223372036854775808" (.integer, .integer Int64.minValue) ∧
    IsSole "9223372036854775808" (.invalid .malformedNumber, .text "9223372036854775808") ∧
    IsSole "-.5e+1" (.real, .real ⟨0xC014000000000000⟩) ∧
    IsSole "7.e+308" (.invalid .malformedNumber, .text "7.e+308") := by
  have hdigits : IsDigits "9223372036854775808".toList := ⟨by decide, by decide⟩
  have hpointed : IsReal "-.5e+1".toList ⟨true, 5, 0⟩ :=
    @IsReal.pointed true ['5'] _ _ ⟨by decide, by decide⟩
      (@IsExponent.up 'e' ['1'] (.inl rfl) ⟨by decide, by decide⟩)
  have hwhole : IsReal "7.e+308".toList ⟨false, 7, 308⟩ :=
    @IsReal.whole false ['7'] [] _ _ ⟨by decide, by decide⟩ rfl
      (@IsExponent.up 'e' ['3', '0', '8'] (.inl rfl) ⟨by decide, by decide⟩)
  refine ⟨((number_iff (by decide)).1 _).2 (.negative hdigits), ?_, ?_, ?_⟩
  · exact (number_iff (by decide)).2.2.1 _ (.positive hdigits) (by decide)
  · refine ((number_iff (by decide)).2.1 _).2 ⟨_, hpointed, ?_, by decide⟩
    exact Binary64.isNearest_iff.2 (by decide +kernel)
  · refine (number_iff (by decide)).2.2.2.1 _ _ hwhole (Binary64.isNearest_iff.2 rfl) ?_
    decide +kernel

end SqlDml
