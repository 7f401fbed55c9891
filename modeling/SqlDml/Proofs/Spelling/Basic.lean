import SqlDml.Proofs.TokenStream.Joint

/-!
# Texts that spell tokens

* `Mark` : a token's kind and value;
* `marks` : the marks of a text, the end of the text last;
* `IsLexeme` : a text is one lexeme wherever it stands before what can end a word;
* `Reads` : a text gives some marks, whatever follows it that can end a word;
* `Spells` : the same with valid marks only;
* `Closed` : the same whatever follows it at all;
* `Trails`, `Lead` : the two for texts that can stand behind a word.

A text is put together from pieces that are read one by one only if no lexeme runs across a joint.
It is enough that what follows a piece begins with a blank, a comma or a parenthesis: none of these
goes on a word, a number or a run of comparison characters.
-/

namespace SqlDml

/-! ## Marks -/

abbrev Mark := Kind × Value

def Token.mark (token : Token) : Mark := (token.kind, token.value)

def Lexeme.mark (lexeme : Lexeme) : Mark := (lexeme.kind, lexeme.value)

/-- The end of a text. -/
def Mark.last : Mark := (.endOfInput, .text "")

def marks (cs : List Char) : List Mark := (pieces cs).map Piece.mark

theorem map_mark_placeAll (p : Position) (list : List Piece) :
    (Piece.placeAll p list).map Token.mark = list.map Piece.mark := by
  induction list generalizing p with
  | nil => rfl
  | cons piece list ih =>
    rw [Piece.placeAll, List.map_cons, List.map_cons, ih]
    rfl

theorem map_mark_tokenize (source : String) :
    (tokenize source).map Token.mark = marks source.toList := by
  rw [tokenize_eq_placeAll, map_mark_placeAll, marks]

@[simp] theorem marks_nil : marks [] = [Mark.last] := by
  rw [marks, pieces_nil]
  rfl

/-- A lexeme that begins with no layout is read as it stands. -/
theorem marks_cons {c : Char} {cs : List Char} (hb : Layout.isBlank c = false)
    (ho : Layout.opensComment c cs = false) :
    marks (c :: cs) = (Lexeme.read c cs).mark :: marks (Lexeme.read c cs).rest := by
  have hs : Layout.split (c :: cs) = ([], c :: cs) := by
    simp [Layout.split, Layout.splitFrom, hb, ho]
  rw [marks, pieces_of_split_cons hs]
  rfl

/-- A blank leaves no mark. -/
theorem marks_blank (cs : List Char) : marks (' ' :: cs) = marks cs := by
  have h : Layout.Laid false [' '] := .blank rfl .nil
  have hp := pieces_laid_append h cs
  rw [List.singleton_append] at hp
  rw [marks, hp, Piece.map_mark_after, marks]

/-! ## Spelling -/

/-- The characters of rendered text that go on no lexeme. -/
def isStop (c : Char) : Bool := c == ' ' || c == ',' || c == '(' || c == ')'

/-- Whether a lexeme that stands before `rest` ends there. -/
def Stops (rest : List Char) : Prop := ∀ c ∈ rest.head?, isStop c

@[simp] theorem stops_nil : Stops [] := by simp [Stops]

@[simp] theorem stops_cons {c : Char} {rest : List Char} : Stops (c :: rest) ↔ isStop c := by
  simp [Stops]

theorem Stops.append {cs rest : List Char} (hc : Stops cs) (hr : Stops rest) :
    Stops (cs ++ rest) := by
  cases cs with
  | nil => exact hr
  | cons c cs => exact stops_cons.2 (stops_cons.1 hc)

theorem isStop_iff {c : Char} : isStop c ↔ c = ' ' ∨ c = ',' ∨ c = '(' ∨ c = ')' := by
  simp [isStop, or_assoc]

theorem Stops.halts {rest : List Char} (h : Stops rest) : Lexeme.Halts rest := by
  intro c hc
  rcases isStop_iff.1 (h c hc) with rfl | rfl | rfl | rfl <;> rfl

/-- The text gives the marks wherever it stands before what can end a word. -/
def Reads (text : String) (ms : List Mark) : Prop :=
  ∀ rest, Stops rest → marks (text.toList ++ rest) = ms ++ marks rest

structure Spells (text : String) (ms : List Mark) : Prop where
  marks_append : ∀ rest, Stops rest → marks (text.toList ++ rest) = ms ++ marks rest
  valid : ∀ m ∈ ms, m.1.isInvalid = false

structure Closed (text : String) (ms : List Mark) : Prop where
  marks_append : ∀ rest, marks (text.toList ++ rest) = ms ++ marks rest
  valid : ∀ m ∈ ms, m.1.isInvalid = false

/-- A text that spells marks where it stands behind another. -/
structure Trails (text : String) (ms : List Mark) : Prop where
  spells : Spells text ms
  stops : Stops text.toList

/-- A text with something before and something behind it. -/
structure Lead (text : String) (ms : List Mark) : Prop where
  closed : Closed text ms
  opens : text.toList.head?.any isStop

/-! ## Lexemes -/

/-- `text` is one lexeme, with mark `m`, wherever it stands before what can end a word. -/
structure IsLexeme (text : List Char) (m : Mark) : Prop where
  pieces_append : ∀ rest, Stops rest → pieces (text ++ rest) = ⟨[], m.1, m.2, text⟩ :: pieces rest
  valid : m.1.isInvalid = false

/-- A lexeme that is read anywhere is one before whatever can end a word. An unterminated literal
goes on, and the end of the text decides what a lone percent sign is. -/
theorem pieces_read_append {c : Char} {cs rest : List Char} (hb : Layout.isBlank c = false)
    (ho : Layout.opensComment c cs = false)
    (hk : (Lexeme.read c cs).kind ≠ .invalid .unterminatedLiteral)
    (hp : (Lexeme.read c cs).text ≠ ['%']) (hr : Stops rest) :
    pieces ((Lexeme.read c cs).text ++ rest) = (Lexeme.read c cs).behind [] :: pieces rest :=
  pieces_lexeme_append (Layout.splitFrom_false_other ho hb) .nil (.halts hr.halts) hk
    fun ht => absurd ht hp

theorem isLexeme_of_read {c : Char} {cs : List Char} (hb : Layout.isBlank c = false)
    (ho : Layout.opensComment c cs = false) (hv : (Lexeme.read c cs).kind.isInvalid = false)
    (hp : (Lexeme.read c cs).text ≠ ['%']) :
    IsLexeme (Lexeme.read c cs).text (Lexeme.read c cs).mark where
  pieces_append rest hr := by
    refine pieces_read_append hb ho (fun hk => ?_) hp hr
    rw [hk] at hv
    cases hv
  valid := hv

/-- It is enough that the whole text is one lexeme when it stands alone. -/
theorem isLexeme_of_alone {c : Char} {cs : List Char} {m : Mark} (hb : Layout.isBlank c = false)
    (ho : Layout.opensComment c cs = false) (hr : Lexeme.read c cs = ⟨m.1, m.2, c :: cs, []⟩)
    (hv : m.1.isInvalid = false) (hp : c ≠ '%') : IsLexeme (c :: cs) m := by
  have h := @isLexeme_of_read c cs hb ho
  rw [hr] at h
  exact h hv fun ht => hp (List.cons.inj ht).1

theorem IsLexeme.marks_append {text rest : List Char} {m : Mark} (h : IsLexeme text m)
    (hr : Stops rest) : marks (text ++ rest) = m :: marks rest := by
  rw [marks, h.pieces_append rest hr]
  rfl

theorem IsLexeme.spells {text : String} {m : Mark} (h : IsLexeme text.toList m) :
    Spells text [m] :=
  ⟨fun _ hr => h.marks_append hr, by simp [h.valid]⟩

/-! ## Texts with others behind -/

variable {a b : String} {ms ns : List Mark}

theorem Spells.reads (h : Spells a ms) : Reads a ms := h.marks_append

theorem Closed.spells (h : Closed a ms) : Spells a ms :=
  ⟨fun rest _ => h.marks_append rest, h.valid⟩

theorem closed_empty : Closed "" [] := ⟨fun _ => rfl, by simp⟩

theorem trails_empty : Trails "" [] := ⟨closed_empty.spells, stops_nil⟩

theorem lead_blank : Lead " " [] := ⟨⟨fun rest => marks_blank rest, by simp⟩, rfl⟩

theorem Lead.stops (h : Lead a ms) (rest : List Char) : Stops (a.toList ++ rest) := by
  intro c hc
  have ho := h.opens
  cases hcs : a.toList with
  | nil =>
    rw [hcs] at ho
    cases ho
  | cons d cs =>
    rw [hcs] at ho hc
    cases hc
    exact ho

theorem Lead.stops_append (h : Lead a ms) (b : String) : Stops (a ++ b).toList := by
  rw [String.toList_append]
  exact h.stops b.toList

/-! ## One text behind another -/

theorem Reads.append (ha : Reads a ms) (hb : Reads b ns) (hs : Stops b.toList) :
    Reads (a ++ b) (ms ++ ns) := by
  intro rest hr
  rw [String.toList_append, List.append_assoc, ha _ (hs.append hr), hb rest hr, List.append_assoc]

theorem Closed.append_reads (ha : Closed a ms) (hb : Reads b ns) : Reads (a ++ b) (ms ++ ns) := by
  intro rest hr
  rw [String.toList_append, List.append_assoc, ha.marks_append, hb rest hr, List.append_assoc]

theorem Spells.append_trails (ha : Spells a ms) (hb : Trails b ns) :
    Spells (a ++ b) (ms ++ ns) where
  marks_append := ha.reads.append hb.spells.reads hb.stops
  valid := List.forall_mem_append.2 ⟨ha.valid, hb.spells.valid⟩

theorem Spells.append_lead (ha : Spells a ms) (hb : Lead b ns) : Closed (a ++ b) (ms ++ ns) where
  marks_append rest := by
    rw [String.toList_append, List.append_assoc, ha.marks_append _ (hb.stops rest),
      hb.closed.marks_append, List.append_assoc]
  valid := List.forall_mem_append.2 ⟨ha.valid, hb.closed.valid⟩

theorem Closed.append (ha : Closed a ms) (hb : Spells b ns) : Spells (a ++ b) (ms ++ ns) where
  marks_append := ha.append_reads hb.reads
  valid := List.forall_mem_append.2 ⟨ha.valid, hb.valid⟩

theorem Closed.append_closed (ha : Closed a ms) (hb : Closed b ns) :
    Closed (a ++ b) (ms ++ ns) where
  marks_append rest := by
    rw [String.toList_append, List.append_assoc, ha.marks_append, hb.marks_append,
      List.append_assoc]
  valid := List.forall_mem_append.2 ⟨ha.valid, hb.valid⟩

theorem Lead.append (ha : Lead a ms) (hb : Spells b ns) : Trails (a ++ b) (ms ++ ns) where
  spells := ha.closed.append hb
  stops := ha.stops_append b

theorem Trails.append (ha : Trails a ms) (hb : Trails b ns) : Trails (a ++ b) (ms ++ ns) where
  spells := ha.spells.append_trails hb
  stops := by
    rw [String.toList_append]
    exact ha.stops.append hb.stops

/-- A whole text has the marks that it gives, and the end. -/
theorem Reads.tokenize (h : Reads a ms) : (tokenize a).map Token.mark = ms ++ [Mark.last] := by
  have hm := h [] stops_nil
  rwa [List.append_nil, marks_nil, ← map_mark_tokenize] at hm

/-- A whole text that spells some marks has those and the end, none of them invalid. -/
theorem Spells.tokenize (h : Spells a ms) :
    (tokenize a).map Token.mark = ms ++ [Mark.last] ∧
      ∀ token ∈ tokenize a, token.kind.isInvalid = false := by
  have hm := h.reads.tokenize
  refine ⟨hm, fun token ht => ?_⟩
  have hmem : token.mark ∈ ms ++ [Mark.last] := hm ▸ List.mem_map_of_mem ht
  rcases List.mem_append.1 hmem with hl | hl
  · exact h.valid _ hl
  · rw [List.mem_singleton] at hl
    rw [show token.kind = Mark.last.1 from congrArg Prod.fst hl]
    rfl

end SqlDml
