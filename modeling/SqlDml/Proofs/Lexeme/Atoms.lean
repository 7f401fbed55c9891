import SqlDml.Proofs.Lexeme.Dispatch
import SqlDml.Proofs.Lexeme.Quoted

/-!
# Quoted literals by their atoms

* `Quoted.Atom`, `Quoted.atoms` : a backslash with the character behind it, or one other character;
  any text is a list of these;
* `Quoted.lexeme` : the literal after a quote, by the atoms of the whole text there;
* `Quoted.quoted_eq_lexeme` : what is read after a quote is that literal;
* `Quoted.not_mem_of_unterminated` : it is unterminated only where no closing quote is.

The atoms are those of everything behind the opening quote. Which of them belong to the literal is
decided afterwards, by the first quote among them that no backslash escapes.
-/

namespace SqlDml

namespace Quoted

/-- A character by itself, or one behind a backslash. A backslash is by itself only where the text
ends with it. -/
inductive Atom where
  | plain (c : Char)
  | escaped (c : Char)
  deriving Repr, DecidableEq, Inhabited

namespace Atom

def text : Atom → List Char
  | plain c => [c]
  | escaped c => ['\\', c]

def char : Atom → Char
  | plain c | escaped c => c

end Atom

def atoms : List Char → List Atom
  | '\\' :: c :: cs => .escaped c :: atoms cs
  | c :: cs => .plain c :: atoms cs
  | [] => []

def spelling (list : List Atom) : List Char := list.flatMap Atom.text

/-- The literal after `quote`, of the atoms behind it: it ends with the first one that is the quote
itself. With `%s` right before that it is a placeholder. Without such an atom it is unterminated and
covers everything. -/
def lexeme (quote : Char) (list : List Atom) : Lexeme :=
  let body := list.takeWhile (· != .plain quote)
  match list.dropWhile (· != .plain quote) with
  | [] => .verbatim (.invalid .unterminatedLiteral) (quote :: spelling body) []
  | _ :: behind =>
    let covered := quote :: spelling body ++ [quote]
    if [.plain '%', .plain 's'] <:+ body then .verbatim .placeholder covered (spelling behind)
    else ⟨.text, .text (String.ofList (body.map Atom.char)), covered, spelling behind⟩

/-! ## Atoms -/

theorem atoms_cons {c : Char} (hc : c ≠ '\\') (cs : List Char) :
    atoms (c :: cs) = .plain c :: atoms cs := by
  rw [atoms.eq_2 c cs fun _ _ h _ => hc h]

theorem spelling_atoms (cs : List Char) : spelling (atoms cs) = cs := by
  fun_induction atoms cs with
  | case1 c cs ih => rw [spelling, List.flatMap_cons, ← spelling, ih]; rfl
  | case2 c cs _ ih => rw [spelling, List.flatMap_cons, ← spelling, ih]; rfl
  | case3 => rfl

/-! ## Closed literals -/

/-- A literal that is closed by `quote` behind `body`, before `behind`. -/
structure Closes (quote : Char) (body behind : List Atom) (literal : Quoted) : Prop where
  not_mem : Atom.plain quote ∉ body
  text_eq : literal.text = spelling body ++ [quote]
  rest_eq : literal.rest = spelling behind
  ending_eq : literal.ending =
    if [.plain '%', .plain 's'] <:+ body then .placeholder else .closed
  content_eq : literal.ending = .closed → literal.content = body.map Atom.char

theorem closes_quote (quote : Char) (cs : List Char) :
    Closes quote [] (atoms cs) ⟨.closed, [], [quote], cs⟩ where
  not_mem := List.not_mem_nil
  text_eq := rfl
  rest_eq := (spelling_atoms cs).symm
  ending_eq := rfl
  content_eq _ := rfl

theorem closes_placeholder {quote : Char} (hp : quote ≠ '%') (hs : quote ≠ 's') (cs : List Char) :
    Closes quote [.plain '%', .plain 's'] (atoms cs) ⟨.placeholder, [], ['%', 's', quote], cs⟩ where
  not_mem := by simp [hp, hs]
  text_eq := rfl
  rest_eq := (spelling_atoms cs).symm
  ending_eq := rfl
  content_eq h := by cases h

/-- One more atom in front of a closed literal, if it does not make the placeholder's ending. -/
theorem Closes.push {quote : Char} {body behind : List Atom} {literal : Quoted} {atom : Atom}
    (h : Closes quote body behind literal) (hq : atom ≠ .plain quote)
    (hs : ¬(atom = .plain '%' ∧ body = [.plain 's'])) :
    Closes quote (atom :: body) behind (literal.push atom.text atom.char) where
  not_mem hm := by
    rcases List.mem_cons.1 hm with he | hm
    · exact hq he.symm
    · exact h.not_mem hm
  text_eq := by
    rw [text_push, h.text_eq, spelling, spelling, List.flatMap_cons, List.append_assoc]
  rest_eq := h.rest_eq
  ending_eq := by
    have hsuffix : [.plain '%', .plain 's'] <:+ atom :: body ↔
        [.plain '%', .plain 's'] <:+ body := by
      rw [List.suffix_cons_iff]
      refine or_iff_right fun he => hs ?_
      obtain ⟨ha, hb⟩ := List.cons.inj he
      exact ⟨ha.symm, hb.symm⟩
    simp only [hsuffix]
    exact h.ending_eq
  content_eq he := by
    rw [List.map_cons, ← h.content_eq he]
    rfl

/-- What is read is closed where the first quote stands among the atoms that is not escaped, or not
at all if there is none. -/
theorem read_atoms {quote : Char} (hb : quote ≠ '\\') (hp : quote ≠ '%') (hs : quote ≠ 's')
    (cs : List Char) :
    (∃ body behind, atoms cs = body ++ .plain quote :: behind ∧
      Closes quote body behind (read quote cs)) ∨
    (Atom.plain quote ∉ atoms cs ∧ (read quote cs).ending = .missing ∧
      (read quote cs).rest = []) := by
  fun_induction read quote cs with
  | case1 => exact .inr ⟨by simp [atoms], rfl, rfl⟩
  | case2 => exact .inr ⟨by simpa [atoms] using hb, rfl, rfl⟩
  | case3 c cs ih =>
    rw [atoms]
    obtain ⟨body, behind, hatoms, hcloses⟩ | ⟨hnone, hending, hrest⟩ := ih
    · exact .inl ⟨.escaped c :: body, behind, by rw [hatoms]; rfl,
        hcloses.push (by simp) (by simp)⟩
    · exact .inr ⟨by simpa using hnone, hending, hrest⟩
  | case4 cs hn hc =>
    rw [atoms_cons hb]
    exact .inl ⟨[], atoms cs, rfl, closes_quote quote cs⟩
  | case5 c cs hn hc hq h =>
    obtain ⟨rfl, hcs⟩ := h
    obtain ⟨rest, rfl⟩ : ∃ rest, cs = 's' :: quote :: rest :=
      ⟨cs.drop 2, by rw [← List.take_append_drop 2 cs, hcs]; rfl⟩
    rw [atoms_cons (by decide), atoms_cons (by decide), atoms_cons hb]
    exact .inl ⟨[.plain '%', .plain 's'], atoms rest, rfl, closes_placeholder hp hs rest⟩
  | case6 c cs hn hc hq h ih =>
    have hc := ne_backslash hn hc
    rw [atoms_cons hc]
    obtain ⟨body, behind, hatoms, hcloses⟩ | ⟨hnone, hending, hrest⟩ := ih
    · refine .inl ⟨.plain c :: body, behind, by rw [hatoms]; rfl,
        hcloses.push (by simpa using hq) fun hends => h ?_⟩
      -- An `s` and the quote behind a percent sign would have been a case before.
      have hcs := spelling_atoms cs
      rw [hatoms, hends.2] at hcs
      rw [← hcs]
      exact ⟨Atom.plain.inj hends.1, rfl⟩
    · refine .inr ⟨?_, hending, hrest⟩
      simpa [Ne.symm hq] using hnone

/-! ## Lexemes -/

theorem all_ne_plain {quote : Char} {body : List Atom} (h : Atom.plain quote ∉ body) :
    body.all (· != .plain quote) := by
  rw [List.all_eq_true]
  intro atom ha
  rw [bne_iff_ne]
  rintro rfl
  exact h ha

/-- What is read after a quote is the literal that the atoms behind it make. -/
theorem quoted_eq_lexeme {quote : Char} (hq : quote = '\'' ∨ quote = '"') (cs : List Char) :
    Lexeme.quoted quote cs = lexeme quote (atoms cs) := by
  have hb : quote ≠ '\\' := by rcases hq with rfl | rfl <;> decide
  have hp : quote ≠ '%' := by rcases hq with rfl | rfl <;> decide
  have hs : quote ≠ 's' := by rcases hq with rfl | rfl <;> decide
  rw [Lexeme.quoted, Quoted.scan_eq_read, lexeme]
  obtain ⟨body, behind, hatoms, hcloses⟩ | ⟨hnone, hending, hrest⟩ := read_atoms hb hp hs cs
  · obtain ⟨htake, hdrop⟩ := @takeWhile_append_of_head Atom _ body (.plain quote :: behind)
      (all_ne_plain hcloses.not_mem) (by simp)
    have hending := hcloses.ending_eq
    rw [hatoms, htake, hdrop]
    dsimp only
    rw [hcloses.text_eq, hcloses.rest_eq]
    by_cases hsuffix : [.plain '%', .plain 's'] <:+ body
    · rw [if_pos hsuffix] at hending ⊢
      rw [hending]
      rfl
    · rw [if_neg hsuffix] at hending ⊢
      rw [hending, hcloses.content_eq hending]
      rfl
  · obtain ⟨htake, hdrop⟩ := takeWhile_of_all (all_ne_plain hnone)
    have htext := text_append_rest quote cs
    rw [hrest, List.append_nil] at htext
    rw [htake, hdrop]
    dsimp only
    rw [hending, htext, hrest, spelling_atoms]

/-- An unterminated literal has no closing quote among its atoms. -/
theorem not_mem_of_unterminated {quote : Char} {list : List Atom}
    (h : (lexeme quote list).kind = .invalid .unterminatedLiteral) : Atom.plain quote ∉ list := by
  intro hm
  unfold lexeme at h
  cases hdrop : list.dropWhile (· != .plain quote) with
  | nil =>
    have htake := List.takeWhile_append_dropWhile (p := (· != .plain quote)) (l := list)
    rw [hdrop, List.append_nil] at htake
    rw [← htake] at hm
    simpa using List.all_eq_true.1 List.all_takeWhile _ hm
  | cons atom behind =>
    rw [hdrop] at h
    dsimp only at h
    split at h <;> cases h

end Quoted

end SqlDml
