import SqlDml.Literal
import SqlDml.Lexeme.Quoted

/-!
# Quoted literals and what follows them

* `Quoted.read_text_append` : a literal that is closed is read the same whatever follows it;
* `Quoted.read_quotedBody` : the text of a text literal is read back as that text.
-/

namespace SqlDml

namespace Quoted

/-! ## Units -/

theorem read_quote {quote : Char} (hb : quote ≠ '\\') (cs : List Char) :
    read quote (quote :: cs) = ⟨.closed, [], [quote], cs⟩ := by
  rw [read_of_ne hb, if_pos rfl]

theorem read_placeholder {quote : Char} (hq : quote ≠ '%') (cs : List Char) :
    read quote ('%' :: 's' :: quote :: cs) = ⟨.placeholder, [], ['%', 's', quote], cs⟩ := by
  rw [read_of_ne (by decide), if_neg hq.symm, if_pos ⟨rfl, rfl⟩]
  rfl

/-- A character that neither escapes another nor ends the literal. -/
theorem read_plain {quote c : Char} {cs : List Char} (hb : c ≠ '\\') (hq : c ≠ quote)
    (hs : ¬(c = '%' ∧ cs.take 2 = ['s', quote])) :
    read quote (c :: cs) = (read quote cs).push [c] c := by
  rw [read_of_ne hb, if_neg hq, if_neg hs]

/-! ## What follows a closed literal -/

/-- A closed literal ends with its quote. -/
theorem getLast?_text {quote : Char} {cs : List Char} (h : (read quote cs).ending ≠ .missing) :
    (read quote cs).text.getLast? = some quote := by
  fun_induction read quote cs with
  | case1 => exact absurd rfl h
  | case2 => exact absurd rfl h
  | case3 c cs ih => rw [text_push, List.getLast?_append, ih h]; rfl
  | case4 => rfl
  | case5 => rfl
  | case6 c cs _ _ _ _ ih => rw [text_push, List.getLast?_append, ih h]; rfl

/-- Where what is read as a closed literal does not begin with `s` and the quote, neither does the
text of the literal before anything else. -/
theorem take_text_append {quote : Char} {cs : List Char} (hq : quote ≠ 's')
    (h : (read quote cs).ending ≠ .missing) (hs : cs.take 2 ≠ ['s', quote]) (rest : List Char) :
    ((read quote cs).text ++ rest).take 2 ≠ ['s', quote] := by
  have hl := getLast?_text h
  have hcs := text_append_rest quote cs
  match ht : (read quote cs).text with
  | [] => rw [ht] at hl; cases hl
  | [c] =>
    rw [ht, List.getLast?_singleton, Option.some.injEq] at hl
    simp [hl, hq]
  | c :: d :: text =>
    rw [ht] at hcs
    rw [← hcs] at hs
    simpa using hs

/-- A literal that is closed does not depend on what stands behind it. -/
theorem read_text_append {quote : Char} {cs : List Char} (hq : quote ≠ 's')
    (h : (read quote cs).ending ≠ .missing) (rest : List Char) :
    read quote ((read quote cs).text ++ rest) = { read quote cs with rest } := by
  fun_induction read quote cs with
  | case1 => exact absurd rfl h
  | case2 => exact absurd rfl h
  | case3 c cs ih =>
    have hi := ih h
    simp only [text_push, List.cons_append, List.nil_append, read, hi]
    rfl
  | case4 cs hn hc => exact read_quote (ne_backslash hn hc) rest
  | case5 c cs hn hc hq' hs =>
    obtain ⟨rfl, -⟩ := hs
    exact read_placeholder (Ne.symm hq') rest
  | case6 c cs hn hc hq' hs ih =>
    have hs' : ¬(c = '%' ∧ ((read quote cs).text ++ rest).take 2 = ['s', quote]) := fun h' =>
      take_text_append hq h (fun ht => hs ⟨h'.1, ht⟩) rest h'.2
    rw [text_push, List.append_assoc, List.singleton_append,
      read_plain (ne_backslash hn hc) hq' hs', ih h]
    rfl

/-! ## The text of a text literal -/

/-- No text within single quotes begins with a quote. -/
theorem quotedBody_cons (c : Char) (cs : List Char) :
    ∃ d text, Literal.quotedBody (c :: cs) = d :: text ∧ d ≠ '\'' ∧ (d = c ∨ d = '\\') := by
  rw [Literal.quotedBody.eq_def]
  split
  · rename_i h
    cases h
  · rename_i h
    cases h
    exact ⟨'%', ['\\', 's'], rfl, by decide, .inl rfl⟩
  · rename_i h
    cases h
    rw [Literal.quotedChar]
    split
    · exact ⟨'\\', _, rfl, by decide, .inr rfl⟩
    · rename_i hc
      exact ⟨c, _, rfl, fun h => hc (.inl h), .inl rfl⟩

theorem take_quotedBody {s : List Char} (hs : s ≠ ['s']) (rest : List Char) :
    (Literal.quotedBody s ++ '\'' :: rest).take 2 ≠ ['s', '\''] := by
  match s with
  | [] => simp [Literal.quotedBody]
  | c :: cs =>
    obtain ⟨d, text, hd, -, hdc⟩ := quotedBody_cons c cs
    by_cases hc : c = 's'
    · subst hc
      obtain ⟨e, es, rfl⟩ := List.exists_cons_of_ne_nil (fun h => hs (congrArg _ h))
      obtain ⟨f, text', hf, hq, -⟩ := quotedBody_cons e es
      simp [Literal.quotedBody, Literal.quotedChar, hf, hq]
    · have hds : d ≠ 's' := by
        rcases hdc with rfl | rfl
        · exact hc
        · decide
      simp [hd, hds]

theorem read_quotedBody (s rest : List Char) :
    read '\'' (Literal.quotedBody s ++ '\'' :: rest) =
      ⟨.closed, s, Literal.quotedBody s ++ ['\''], rest⟩ := by
  fun_induction Literal.quotedBody s with
  | case1 => exact read_quote (by decide) rest
  | case2 => rfl
  | case3 c cs hs ih =>
    rw [Literal.quotedChar]
    split
    · simp only [List.cons_append, List.nil_append, read, ih]
      rfl
    · rename_i hc
      have hp : ¬(c = '%' ∧ (Literal.quotedBody cs ++ '\'' :: rest).take 2 = ['s', '\'']) :=
        fun h => take_quotedBody (fun h' => hs h.1 h') rest h.2
      rw [List.append_assoc, List.singleton_append,
        read_plain (fun h => hc (.inr h)) (fun h => hc (.inl h)) hp, ih]
      rfl

end Quoted

end SqlDml
