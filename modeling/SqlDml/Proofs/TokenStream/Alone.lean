import SqlDml.Proofs.Lexeme.Form
import SqlDml.Proofs.TokenStream.Lexemes

/-!
# Tokens by themselves

* `Lexeme.read_alone` : a lexeme is read from its own text as it was from the text that it begins;
* `Token.Covers.carries` : names, placeholders and malformed numbers carry the text that they cover;
* `isSole_slice` : each token of a text, broken ones included, is the sole token of what it covers.

A rule looks behind a lexeme to learn whether it goes on, and before the end of a text none does.
Only a percent sign is something else at the end than before a blank.
-/

namespace SqlDml

namespace Lexeme

variable {c : Char} {cs : List Char}

theorem rest_of_text_percent (ht : (read c cs).text = ['%'])
    (hk : (read c cs).kind ≠ .punctuation '%') : (read c cs).rest = [] := by
  have hcs := text_append_rest c cs
  rw [ht, List.singleton_append, List.cons.injEq] at hcs
  obtain ⟨rfl, hrest⟩ := hcs
  rw [hrest]
  cases cs with
  | nil => rfl
  | cons d ds =>
    have hread : read '%' (d :: ds) = percent (d :: ds) := rfl
    rw [hread, percent] at ht hk
    split at ht
    · cases ht
    · rename_i hd
      rw [if_neg hd] at hk
      exact absurd rfl hk

/-- A lexeme is read from its own text as from the text that it begins. A literal that is
unterminated has taken all of that. -/
theorem read_alone (hb : Layout.isBlank c = false) (ho : Layout.opensComment c cs = false)
    (hp : (read c cs).kind ≠ .punctuation '%') :
    read c (read c cs).text.tail = { read c cs with rest := [] } := by
  by_cases hk : (read c cs).kind = .invalid .unterminatedLiteral
  · have hrest : (read c cs).rest = [] := (form_of_kind hb ho hk).1
    have hcs := text_append_rest c cs
    rw [hrest, List.append_nil] at hcs
    rw [hcs, List.tail_cons, ← hrest]
  · have halone := read_append (.halts halts_nil) hk fun ht =>
      iff_of_true (rest_of_text_percent ht hp) rfl
    rwa [List.append_nil] at halone

end Lexeme

/-! ## Tokens -/

/-- What a token covers is no longer than the text. -/
theorem utf8ByteSize_slice_le {source : String} (hl : source.utf8ByteSize < UInt32.size)
    {token : Token} (h : token ∈ tokenize source) :
    (token.span.slice source).utf8ByteSize ≤ source.utf8ByteSize := by
  obtain ⟨before, piece, after, hsource, -, -, -, hspan⟩ := span_of_mem_tokenize hl h
  rw [hspan, hsource, slice_append, String.utf8ByteSize_ofList, String.utf8ByteSize_ofList]
  simp only [String.utf8Len_append]
  omega

/-- The kinds whose tokens carry the text that they cover to a reader of names, of placeholders and
of faults. -/
def Kind.carriesText : Kind → Bool
  | .identifier | .placeholder | .invalid .malformedNumber => true
  | _ => false

theorem Token.Covers.carries {source : String} {token : Token} {c : Char} {cs : List Char}
    (h : token.Covers source (Lexeme.read c cs)) (hb : Layout.isBlank c = false)
    (ho : Layout.opensComment c cs = false) (hk : token.kind.carriesText) :
    token.value = .text (token.span.slice source) := by
  have hform : token.kind.Form token.value (token.span.slice source).toList
      (Lexeme.read c cs).rest := by
    rw [h.kind_eq, h.value_eq, h.text_eq]
    exact Lexeme.form_read hb ho
  obtain ⟨text, htext⟩ : ∃ text, text = token.span.slice source := ⟨_, rfl⟩
  rw [← htext] at hform ⊢
  rw [← text.ofList_toList]
  cases hkind : token.kind with
  | identifier =>
    rw [hkind] at hform
    exact hform.2.2
  | placeholder =>
    rw [hkind] at hform
    exact hform.1
  | invalid defect =>
    cases defect with
    | malformedNumber =>
      rw [hkind] at hform
      exact hform.2
    | unterminatedLiteral =>
      rw [hkind] at hk
      cases hk
  | _ =>
    rw [hkind] at hk
    cases hk

/-- A token is the sole token of the text that it covers, with the same kind and value. So the text
that a name, a placeholder or the fault of a malformed number carries gives that token again. Left
out is a percent sign that is punctuation, for it would be a placeholder. -/
theorem isSole_slice {source : String} (hl : source.utf8ByteSize < UInt32.size) {token : Token}
    (h : token ∈ tokenize source) (he : token.kind ≠ .endOfInput)
    (hp : token.kind ≠ .punctuation '%') :
    IsSole (token.span.slice source) token.mark ∧
      (token.kind.carriesText → token.value = .text (token.span.slice source)) ∧
      (token.kind = .invalid .malformedNumber →
        token.fault? = some (.malformedNumber token.span.start (token.span.slice source))) := by
  rcases exists_covers_of_mem_tokenize hl h with ⟨hend, -⟩ | ⟨c, cs, -, hcovers, hb, ho⟩
  · exact absurd hend he
  have hcarries := hcovers.carries hb ho
  refine ⟨?_, hcarries, fun hk => ?_⟩
  · have hlength := Nat.lt_of_le_of_lt (utf8ByteSize_slice_le hl h) hl
    have hcons := Lexeme.text_read_eq_cons c cs
    have hcomment := Lexeme.opensComment_follows (.halts Lexeme.halts_nil) ho
    have hread := Lexeme.read_alone hb ho (hcovers.kind_eq ▸ hp)
    rw [List.append_nil] at hcomment
    refine isSole_of_read hlength (hcovers.text_eq.trans hcons) hb hcomment ?_
    rw [hread, Token.mark, hcovers.kind_eq, hcovers.value_eq, ← hcons]
  · have hvalue := hcarries (by rw [hk]; rfl)
    rw [Token.fault?, hk, hvalue]
    rfl

/-- A number that lacks the end of its exponent, cut off before a point. -/
theorem isSole_slice_exponent :
    let token : Token := ⟨.invalid .malformedNumber, .text "-1.5e", "", ⟨1, 6⟩, 1, 2⟩
    token ∈ tokenize "a-1.5e.5" ∧ IsSole "-1.5e" (.invalid .malformedNumber, .text "-1.5e") ∧
      token.fault? = some (.malformedNumber 1 "-1.5e") := by
  intro token
  have hm : token ∈ tokenize "a-1.5e.5" := by decide +kernel
  have h := isSole_slice (by decide) hm (by decide) (by decide)
  have hslice : token.span.slice "a-1.5e.5" = "-1.5e" := by decide +kernel
  rw [hslice] at h
  exact ⟨hm, h.1, h.2.2 rfl⟩

end SqlDml
