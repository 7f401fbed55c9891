import SqlDml.Proofs.Spelling.Basic
import SqlDml.Proofs.Text.Case

/-!
# Words, signs and phrases

* `isWord`, `isName` : texts that are one word, and those that can stand as a name, `*` included;
* `Mark.word`, `Mark.name` : their marks;
* `isPhrase`, `Mark.phrase` : words and comparison operators with blanks between them;
* `spells_name`, `spells_phrase`, `closed_phrase` : each is read as what it is;
* `phrase_upper_of_operator` : an operator of the dialect, in either case of its letters, is shown
  in upper case as the one mark of that operator.
-/

namespace SqlDml

/-! ## Marks of words and signs -/

namespace Mark

/-- A symbol of the dialect, in lower case. -/
def keyword (word : String) : Mark := (.keyword word, .text word)

def operator (text : String) : Mark := (.operator text, .text text)

def punctuation (c : Char) : Mark := (.punctuation c, .text (String.singleton c))

/-- A word: a keyword if it is a symbol of the dialect in either case of its letters, else an
identifier as it is spelt. -/
def word (cs : List Char) : Mark :=
  let lowered := String.ofList (cs.map Char.toLower)
  if Dialect.isSymbol lowered then keyword lowered
  else (.identifier, .text (String.ofList cs))

/-- A word, or an asterisk. -/
def name (text : String) : Mark :=
  if text = "*" then punctuation '*' else word text.toList

/-- A part of a phrase. -/
def ofChunk (chunk : List Char) : List Mark :=
  if chunk = [] then []
  else if Lexeme.comparisons.contains chunk then [operator (String.ofList chunk)]
  else [word chunk]

/-- Words and comparison operators with blanks between them. -/
def phrase (text : String) : List Mark := (text.toList.splitOn ' ').flatMap ofChunk

end Mark

/-- Whether a text is one word. -/
def isWord : List Char → Bool
  | [] => false
  | c :: cs => Lexeme.startsWord c && cs.all Lexeme.isWordChar

/-- Whether a text can be shown as a name. -/
def isName (text : String) : Bool := text == "*" || isWord text.toList

def isChunk (chunk : List Char) : Bool :=
  chunk.isEmpty || Lexeme.comparisons.contains chunk || isWord chunk

/-- Whether a text is made of words and comparison operators with blanks between them. -/
def isPhrase (text : String) : Bool := (text.toList.splitOn ' ').all isChunk

/-! ## Words -/

theorem Mark.valid_word (cs : List Char) : (Mark.word cs).1.isInvalid = false := by
  rw [Mark.word]
  split <;> rfl

theorem isLexeme_word {text : List Char} (h : isWord text) : IsLexeme text (Mark.word text) := by
  cases text with
  | nil => cases h
  | cons c cs =>
    simp only [isWord, Bool.and_eq_true] at h
    obtain ⟨hc, hcs⟩ := h
    obtain ⟨htake, hdrop⟩ := takeWhile_of_all hcs
    obtain ⟨hb, ho⟩ := bare_of_pred hc (by decide) cs
    refine isLexeme_of_alone hb ho ?_ (Mark.valid_word _) (ne_of_pred hc (by decide))
    rw [read_of_startsWord hc, Lexeme.word, htake, hdrop, Mark.word]
    split <;> rfl

theorem spells_word {text : String} (h : isWord text.toList) :
    Spells text [Mark.word text.toList] := (isLexeme_word h).spells

/-- The characters that no other rule takes, whatever stands behind them. -/
def isSign (c : Char) : Bool := c == '(' || c == ')' || c == ',' || c == '*'

theorem closed_sign {c : Char} (h : isSign c) :
    Closed (String.singleton c) [Mark.punctuation c] where
  marks_append rest := by
    obtain ⟨hb, ho⟩ := bare_of_pred h (by decide) rest
    rw [String.toList_singleton, List.singleton_append, marks_cons hb ho]
    simp only [isSign, Bool.or_eq_true, beq_iff_eq] at h
    rcases h with ((rfl | rfl) | rfl) | rfl <;> rfl
  valid := by simp [Mark.punctuation, Kind.isInvalid]

theorem spells_name {text : String} (h : isName text) : Spells text [Mark.name text] := by
  by_cases ha : text = "*"
  · subst ha
    exact (closed_sign (c := '*') rfl).spells
  · have hw : isWord text.toList := by simpa [isName, ha] using h
    rw [Mark.name, if_neg ha]
    exact spells_word hw

/-! ## Phrases -/

theorem isLexeme_comparison {text : List Char} (h : Lexeme.comparisons.contains text) :
    IsLexeme text (Mark.operator (String.ofList text)) := by
  have hall : ∀ text ∈ Lexeme.comparisons, text.all Lexeme.isComparison := by decide
  cases text with
  | nil => cases h
  | cons c cs =>
    have hcs := hall _ (List.contains_iff_mem.1 h)
    rw [List.all_cons, Bool.and_eq_true] at hcs
    obtain ⟨htake, hdrop⟩ := takeWhile_of_all hcs.2
    obtain ⟨hb, ho⟩ := bare_of_pred hcs.1 (by decide) cs
    refine isLexeme_of_alone hb ho ?_ rfl (ne_of_pred hcs.1 (by decide))
    rw [read_of_isComparison hcs.1, Lexeme.comparison, htake, hdrop, if_pos h]
    rfl

theorem marks_chunk {chunk rest : List Char} (h : isChunk chunk) (hr : Stops rest) :
    marks (chunk ++ rest) = Mark.ofChunk chunk ++ marks rest := by
  rw [Mark.ofChunk]
  by_cases he : chunk = []
  · simp [he]
  by_cases hc : Lexeme.comparisons.contains chunk
  · rw [if_neg he, if_pos hc, (isLexeme_comparison hc).marks_append hr]
    rfl
  · have hw : isWord chunk := by
      rw [isChunk, List.isEmpty_eq_false_iff.2 he, Bool.eq_false_iff.2 hc] at h
      exact h
    rw [if_neg he, if_neg hc, (isLexeme_word hw).marks_append hr]
    rfl

/-- Chunks with blanks between them are read one by one. -/
theorem marks_chunks {chunks : List (List Char)} (h : chunks.all isChunk) {rest : List Char}
    (hr : Stops rest) :
    marks ([' '].intercalate chunks ++ rest) = chunks.flatMap Mark.ofChunk ++ marks rest := by
  induction chunks with
  | nil => rfl
  | cons chunk chunks ih =>
    rw [List.all_cons, Bool.and_eq_true] at h
    cases chunks with
    | nil => simpa using marks_chunk h.1 hr
    | cons next chunks =>
      have hi := ih h.2
      rw [List.intercalate_cons_cons, List.append_assoc, List.append_assoc, List.singleton_append,
        marks_chunk h.1 (stops_cons.2 rfl), marks_blank, hi]
      simp only [List.flatMap_cons, List.append_assoc]

theorem Mark.valid_ofChunk (chunk : List Char) :
    ∀ m ∈ Mark.ofChunk chunk, m.1.isInvalid = false := by
  rw [ofChunk]
  split
  · simp
  split
  · simp [operator, Kind.isInvalid]
  · simp [valid_word]

theorem spells_phrase {text : String} (h : isPhrase text) : Spells text (Mark.phrase text) where
  marks_append rest hr := by
    have hm := marks_chunks h hr
    rwa [List.intercalate_splitOn] at hm
  valid := by
    intro m hm
    obtain ⟨chunk, -, hm⟩ := List.mem_flatMap.1 hm
    exact Mark.valid_ofChunk chunk m hm

/-- A phrase and a blank end whatever lexeme comes last in the phrase. -/
theorem closed_phrase {text : String} (h : isPhrase text) :
    Closed (text ++ " ") (Mark.phrase text) := by
  have hc := (spells_phrase h).append_lead lead_blank
  rwa [List.append_nil] at hc

/-! ## Operators -/

/-- The mark of an operator of the dialect, which is a comparison or a keyword. -/
def Mark.ofOperator (word : String) : Mark :=
  if Lexeme.comparisons.contains word.toList then operator word else keyword word

theorem phrase_upper_of_operator {text word : String}
    (h : text.toList.map Char.toLower = word.toList) (hw : Dialect.isOperator word) :
    isPhrase (Text.upper text) ∧ Mark.phrase (Text.upper text) = [Mark.ofOperator word] := by
  have hascii : ∀ word ∈ Dialect.operators, word.toList.all (·.toNat < 128) := by decide
  have hphrase : ∀ word ∈ Dialect.operators,
      ((word.toList.map Char.toUpper).splitOn ' ').all isChunk ∧
        ((word.toList.map Char.toUpper).splitOn ' ').flatMap Mark.ofChunk =
          [Mark.ofOperator word] := by decide
  have hm : word ∈ Dialect.operators := List.contains_iff_mem.1 hw
  rw [isPhrase, Mark.phrase, Text.upper_eq_of_toLower h (hascii word hm)]
  exact hphrase word hm

end SqlDml
