import SqlDml.Proofs.TokenStream.Progress

/-!
# What the tokens of each kind cover

* `Token.HasForm` : a token has the form of its kind, by the text that it covers and what is behind;
* `hasForm_of_mem_tokenize` : every token of a text has.
-/

namespace SqlDml

open String (utf8Len)

/-- The kind of a token says what its value is, what it covers in `source` and what follows it. -/
def Token.HasForm (source : String) (token : Token) : Prop :=
  token.kind.Form token.value (token.span.slice source).toList
    (Span.slice ⟨token.span.stop, source.utf8ByteSize⟩ source).toList

/-- Words, system variables, operators, punctuation, dots, placeholders, literals, broken tokens and
the end: each token of a text covers what its kind says. -/
theorem hasForm_of_mem_tokenize {source : String} (hl : source.utf8ByteSize < UInt32.size)
    {token : Token} (h : token ∈ tokenize source) : token.HasForm source := by
  obtain ⟨n, hn⟩ := List.mem_iff_getElem?.1 h
  obtain ⟨before, piece, rfl, hreached, htakes⟩ := exists_takes_of_getElem?_tokenize hn
  obtain ⟨rest, hrest⟩ : ∃ rest, rest = ((TokenStream.ofString source).after (n + 1)).rest :=
    ⟨_, rfl⟩
  have hsource : source = String.ofList (before ++ piece.skipped ++ piece.text ++ rest) := by
    rw [hrest, List.append_assoc _ piece.text, hreached.before_append htakes, String.ofList_toList]
  have hsize : source.utf8ByteSize = utf8Len (before ++ piece.skipped ++ piece.text ++ rest) := by
    rw [hsource, String.utf8ByteSize_ofList]
  have hbehind := slice_append (before ++ piece.skipped ++ piece.text) rest []
  rw [List.append_nil] at hbehind
  unfold Token.HasForm
  rw [hreached.span_eq htakes hl]
  show piece.kind.Form piece.value _ _
  rw [hsize, hsource, slice_append, hbehind, String.toList_ofList, String.toList_ofList, hrest]
  exact htakes.form

/-- An escaped quote between a keyword in mixed case and a placeholder within quotes. -/
theorem hasForm_of_mem_tokenize_escape :
    let token : Token := ⟨.punctuation '\'', .text "'", " ", ⟨7, 9⟩, 1, 8⟩
    String.utf8ByteSize "Select \\' '%s'" < UInt32.size ∧ token ∈ tokenize "Select \\' '%s'" ∧
      token.HasForm "Select \\' '%s'" := by
  intro token
  have hm : token ∈ tokenize "Select \\' '%s'" := by decide +kernel
  exact ⟨by decide, hm, hasForm_of_mem_tokenize (by decide) hm⟩

end SqlDml
