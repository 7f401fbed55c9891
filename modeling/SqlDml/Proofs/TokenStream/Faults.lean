import SqlDml.Proofs.Lexeme.Atoms
import SqlDml.Proofs.Lexeme.Form
import SqlDml.Proofs.TokenStream.Lexemes
import SqlDml.Proofs.TokenStream.LineBreak

/-!
# The first fault of a text

* `Token.Reports` : what a broken token is reported as;
* `Piece.firstFault` : the fault of the first broken piece, by the offset where the pieces begin;
* `firstFault_append_lineFeed` : the first fault of two texts with a line feed between them;
* `checkLexical_first` : a text is reported sound, or with its first fault. With a line feed and
  another text behind it, a sound text is reported as the other one is, further on, and one with a
  malformed number as before.

The reports of the two texts are those of the texts by themselves also where the tokens are not: a
percent sign at the end is a placeholder only there, but sound in both places.
-/

namespace SqlDml

open String (utf8Len)

/-! ## Reports -/

/-- What a token is reported as: a malformed number with its place and text, an unterminated literal
with the place of the quote that has no match. -/
inductive Token.Reports (source : String) (token : Token) : Fault → Prop where
  | malformed (kind : token.kind = .invalid .malformedNumber) :
      Reports source token (.malformedNumber token.span.start (token.span.slice source))
  | unterminated {quote : Char} {rest : List Char}
      (kind : token.kind = .invalid .unterminatedLiteral)
      (opens : quote = '\'' ∨ quote = '"')
      (place : textFrom source token.span.start = quote :: rest)
      (unclosed : Quoted.Atom.plain quote ∉ Quoted.atoms rest) :
      Reports source token (.unterminatedLiteral token.span.start)

/-- The tokens that are no fault are the valid ones. -/
theorem Token.fault?_eq_none {token : Token} :
    token.fault? = none ↔ token.kind.isInvalid = false := by
  unfold Token.fault?
  split
  · rename_i hk
    simp [hk, Kind.isInvalid]
  · rename_i hk
    simp [hk, Kind.isInvalid]
  · rename_i hunterminated hmalformed
    refine iff_of_true rfl ?_
    cases hk : token.kind with
    | invalid defect =>
      cases defect with
      | unterminatedLiteral => exact absurd hk hunterminated
      | malformedNumber => exact absurd hk hmalformed
    | _ => rfl

theorem Lexeme.number_kind_ne (cs : List Char) :
    (number cs).kind ≠ .invalid .unterminatedLiteral := by
  unfold number
  dsimp only
  split
  · rename_i v _
    cases v <;> simp [literalKind]
  · simp [verbatim]

/-- An unterminated literal begins at a quote that has no match. -/
theorem Lexeme.unclosed_of_unterminated {c : Char} {cs : List Char}
    (h : (read c cs).kind = .invalid .unterminatedLiteral) :
    (c = '\'' ∨ c = '"') ∧ Quoted.Atom.plain c ∉ Quoted.atoms cs := by
  have hliteral : (read c cs).kind.isLiteral := by
    rw [h]
    rfl
  rcases quoted_or_number hliteral with ⟨hq, hread⟩ | ⟨-, hread⟩
  · rw [hread, Quoted.quoted_eq_lexeme hq] at h
    exact ⟨hq, Quoted.not_mem_of_unterminated h⟩
  · rw [hread] at h
    exact absurd h (number_kind_ne _)

namespace Token

variable {source : String} {token : Token}

/-- A malformed number has its text as value. -/
theorem value_of_malformed (hl : source.utf8ByteSize < UInt32.size) (ht : token ∈ tokenize source)
    (hk : token.kind = .invalid .malformedNumber) :
    token.value = .text (token.span.slice source) := by
  rcases exists_covers_of_mem_tokenize hl ht with ⟨hend, -⟩ | ⟨c, cs, -, hcovers, hb, ho⟩
  · rw [hk] at hend
    cases hend
  · have hvalue := (Lexeme.form_of_kind hb ho (hcovers.kind_eq.symm.trans hk)).2
    rwa [← hcovers.value_eq, ← hcovers.text_eq, String.ofList_toList] at hvalue

/-- An unterminated literal stands at a quote that has no match. -/
theorem exists_unclosed (hl : source.utf8ByteSize < UInt32.size) (ht : token ∈ tokenize source)
    (hk : token.kind = .invalid .unterminatedLiteral) :
    ∃ quote rest, (quote = '\'' ∨ quote = '"') ∧
      textFrom source token.span.start = quote :: rest ∧
      Quoted.Atom.plain quote ∉ Quoted.atoms rest := by
  rcases exists_covers_of_mem_tokenize hl ht with ⟨hend, -⟩ | ⟨c, cs, hfrom, hcovers, -⟩
  · rw [hk] at hend
    cases hend
  · obtain ⟨hq, hnone⟩ := Lexeme.unclosed_of_unterminated (hcovers.kind_eq.symm.trans hk)
    exact ⟨c, cs, hq, hfrom, hnone⟩

/-- The fault of a token of a text is what the token is reported as. -/
theorem fault?_eq_some (hl : source.utf8ByteSize < UInt32.size) (ht : token ∈ tokenize source)
    {fault : Fault} : token.fault? = some fault ↔ token.Reports source fault := by
  constructor
  · intro h
    cases hk : token.kind with
    | invalid defect =>
      cases defect with
      | malformedNumber =>
        rw [fault?, hk, value_of_malformed hl ht hk] at h
        obtain rfl := Option.some.inj h
        exact .malformed hk
      | unterminatedLiteral =>
        rw [fault?, hk] at h
        obtain rfl := Option.some.inj h
        obtain ⟨quote, rest, hq, hfrom, hnone⟩ := exists_unclosed hl ht hk
        exact .unterminated hk hq hfrom hnone
    | _ =>
      rw [fault?_eq_none.2 (by rw [hk]; rfl)] at h
      cases h
  · rintro (hk | hk)
    · rw [fault?, hk, value_of_malformed hl ht hk]
      rfl
    · rw [fault?, hk]

end Token

/-! ## Faults of pieces -/

/-- The offset of a fault, `n` bytes further on. -/
def Fault.shift (n : Nat) : Fault → Fault
  | .unterminatedLiteral offset => .unterminatedLiteral (offset + n)
  | .malformedNumber offset text => .malformedNumber (offset + n) text
  | fault => fault

namespace Piece

/-- The fault of a piece whose text begins at `start`. -/
def fault? (start : Nat) (piece : Piece) : Option Fault :=
  Token.fault? { kind := piece.kind, value := piece.value, span := ⟨clampOffset start, 0⟩ }

/-- The fault of the first broken piece of some that follow one another from an offset on. -/
def firstFault (offset : Nat) : List Piece → Option Fault
  | [] => none
  | piece :: others =>
    let start := offset + utf8Len piece.skipped
    (piece.fault? start).or (firstFault (start + utf8Len piece.text) others)

theorem findSome?_placeAll (p : Position) (list : List Piece) :
    (placeAll p list).findSome? Token.fault? = firstFault p.offset list := by
  induction list generalizing p with
  | nil => rfl
  | cons piece list ih =>
    have hplace : (piece.place p).fault? = piece.fault? (p.offset + utf8Len piece.skipped) := by
      rw [← Position.offset_advance]
      rfl
    rw [placeAll, List.findSome?_cons, ih, firstFault, hplace, Position.offset_advance,
      Position.offset_advance]
    cases piece.fault? (p.offset + utf8Len piece.skipped) <;> rfl

theorem fault?_of_valid {start : Nat} {piece : Piece} (h : piece.kind.isInvalid = false) :
    piece.fault? start = none := Token.fault?_eq_none.2 h

theorem exists_fault {piece : Piece} (h : piece.kind.isInvalid) (start : Nat) :
    ∃ fault, piece.fault? start = some fault := by
  refine Option.ne_none_iff_exists'.1 fun hnone => ?_
  rw [show piece.kind.isInvalid = false from Token.fault?_eq_none.1 hnone] at h
  cases h

theorem fault?_of_unterminated {start : Nat} {piece : Piece}
    (h : piece.kind = .invalid .unterminatedLiteral) :
    piece.fault? start = some (.unterminatedLiteral (clampOffset start)) := by
  rw [fault?, Token.fault?, h]

theorem firstFault_of_fault {offset : Nat} {piece : Piece} {fault : Fault}
    (h : piece.fault? (offset + utf8Len piece.skipped) = some fault) (others : List Piece) :
    firstFault offset (piece :: others) = some fault := by
  rw [firstFault, h, Option.some_or]

/-- A sound piece hides no fault behind it. -/
theorem firstFault_cons {offset : Nat} {piece : Piece} (h : piece.kind.isInvalid = false)
    (others : List Piece) :
    firstFault offset (piece :: others) = firstFault (offset + utf8Len piece.extent) others := by
  rw [firstFault, fault?_of_valid h, Option.none_or, extent, String.utf8Len_append, Nat.add_assoc]

theorem fault?_add {start n : Nat} {piece : Piece} (hl : start + n < UInt32.size) :
    piece.fault? (start + n) = (piece.fault? start).map (Fault.shift n) := by
  unfold fault? Token.fault?
  dsimp only
  rw [clampOffset_of_lt hl, clampOffset_of_lt (by omega)]
  split <;> rfl

theorem firstFault_after (offset : Nat) (layout : List Char) (list : List Piece) :
    firstFault offset (after layout list) = firstFault (offset + utf8Len layout) list := by
  cases list with
  | nil => rfl
  | cons piece list =>
    simp only [after, firstFault, relay, String.utf8Len_append, Nat.add_assoc]
    rfl

/-- Further on in a text of at most 4 GiB, the fault is shifted. A broken piece covers something, so
that it begins before the end of the text. -/
theorem firstFault_add {offset n : Nat} {list : List Piece}
    (hb : ∀ piece ∈ list, piece.kind.isInvalid → piece.text ≠ [])
    (hl : offset + n + utf8Len (list.flatMap extent) ≤ UInt32.size) :
    firstFault (offset + n) list = (firstFault offset list).map (Fault.shift n) := by
  induction list generalizing offset with
  | nil => rfl
  | cons piece list ih =>
    obtain ⟨hpiece, hothers⟩ := List.forall_mem_cons.1 hb
    rw [List.flatMap_cons, extent, String.utf8Len_append, String.utf8Len_append] at hl
    have hstart : offset + n + utf8Len piece.skipped = offset + utf8Len piece.skipped + n := by
      omega
    have hstop : offset + utf8Len piece.skipped + n + utf8Len piece.text =
      offset + utf8Len piece.skipped + utf8Len piece.text + n := by omega
    have hfault : piece.fault? (offset + utf8Len piece.skipped + n) =
        (piece.fault? (offset + utf8Len piece.skipped)).map (Fault.shift n) := by
      cases hk : piece.kind.isInvalid with
      | false => rw [fault?_of_valid hk, fault?_of_valid hk, Option.map_none]
      | true =>
        refine fault?_add ?_
        have hpos := List.length_pos_iff.2 (hpiece hk)
        have hle := length_le_utf8Len piece.text
        omega
    rw [firstFault, firstFault, hstart, hstop, hfault, ih hothers (by omega)]
    cases piece.fault? (offset + utf8Len piece.skipped) <;> rfl

end Piece

theorem findSome?_tokenize (text : String) :
    (tokenize text).findSome? Token.fault? = Piece.firstFault 0 (pieces text.toList) := by
  rw [tokenize_eq_placeAll, Piece.findSome?_placeAll]

theorem checkLexical_eq (text : String) :
    checkLexical text = match Piece.firstFault 0 (pieces text.toList) with
      | none => .ok ()
      | some fault => .error fault := by
  show (match (tokenize text).findSome? Token.fault? with
    | none => Except.ok ()
    | some fault => .error fault) = _
  rw [findSome?_tokenize]

/-! ## Two texts -/

/-- A percent sign that ends a text is punctuation where a line feed stands behind it. -/
theorem pieces_percent_lineFeed {layout : List Char} (h : Layout.Laid false layout)
    (ds : List Char) :
    pieces (layout ++ '%' :: '\n' :: ds) =
      ⟨layout, .punctuation '%', .text "%", ['%']⟩ :: pieces ('\n' :: ds) :=
  pieces_of_split_cons (Layout.split_laid_append h rfl rfl)

/-- A sound lexeme is as long and as sound before a line feed. -/
theorem pieces_valid_lineFeed {cs skipped body : List Char} {c : Char}
    (hs : Layout.split cs = (skipped, c :: body))
    (hv : (Lexeme.read c body).kind.isInvalid = false) (ds : List Char) :
    ∃ piece, piece.kind.isInvalid = false ∧
      piece.extent = ((Lexeme.read c body).behind skipped).extent ∧
      pieces (cs ++ '\n' :: ds) = piece :: pieces ((Lexeme.read c body).rest ++ '\n' :: ds) := by
  by_cases hp : (Lexeme.read c body).text = ['%'] ∧ (Lexeme.read c body).rest = []
  · obtain ⟨ht, hr⟩ := hp
    have hcs := Layout.split_append cs
    have hlaid := Layout.laid_split cs
    rw [hs] at hcs hlaid
    have hbody := Lexeme.text_append_rest c body
    rw [ht, hr] at hbody
    refine ⟨⟨skipped, .punctuation '%', .text "%", ['%']⟩, rfl, ?_, ?_⟩
    · rw [Piece.extent, Piece.extent, Lexeme.behind, ht]
    · rw [hr, ← hcs, ← hbody, List.append_assoc]
      exact pieces_percent_lineFeed hlaid ds
  · refine ⟨(Lexeme.read c body).behind skipped, hv, rfl, pieces_lexeme_lineFeed hs ?_ hp ds⟩
    intro hk
    rw [hk] at hv
    cases hv

/-- The first fault of two texts with a line feed between them, if it is not that a quoted literal
of the first text lacks its end. The induction is on the lexemes of the first text, up to the broken
one. -/
theorem firstFault_append_lineFeed {cs : List Char} {offset : Nat}
    (hu : ∀ place, Piece.firstFault offset (pieces cs) ≠ some (.unterminatedLiteral place))
    (ds : List Char) :
    Piece.firstFault offset (pieces (cs ++ '\n' :: ds)) =
      (Piece.firstFault offset (pieces cs)).or
        (Piece.firstFault (offset + utf8Len (cs ++ ['\n'])) (pieces ds)) := by
  induction cs using pieces_induction generalizing offset with
  | last cs skipped hs =>
    have hcs := Layout.split_append cs
    rw [hs, List.append_nil] at hcs
    rw [pieces_of_split_nil hs, pieces_layout_lineFeed hs, Piece.firstFault_after, ← hcs]
    rfl
  | lexeme cs skipped c body hs ih =>
    rw [pieces_of_split_cons hs] at hu ⊢
    cases hv : (Lexeme.read c body).kind.isInvalid with
    | false =>
      obtain ⟨piece, hpiece, hextent, hjoined⟩ := pieces_valid_lineFeed hs hv ds
      have hbehind : ((Lexeme.read c body).behind skipped).kind.isInvalid = false := hv
      have hcs : cs ++ ['\n'] = ((Lexeme.read c body).behind skipped).extent ++
          ((Lexeme.read c body).rest ++ ['\n']) := by
        have hsplit := Layout.split_append cs
        rw [hs] at hsplit
        rw [← hsplit, ← Lexeme.text_append_rest c body]
        simp only [Piece.extent, Lexeme.behind, List.append_assoc]
      rw [Piece.firstFault_cons hbehind] at hu ⊢
      rw [hjoined, Piece.firstFault_cons hpiece, hextent, ih hu, hcs,
        String.utf8Len_append (Piece.extent _), Nat.add_assoc]
    | true =>
      have hbehind : ((Lexeme.read c body).behind skipped).kind.isInvalid := hv
      obtain ⟨fault, hfault⟩ := Piece.exists_fault hbehind (offset + utf8Len skipped)
      have hk : (Lexeme.read c body).kind ≠ .invalid .unterminatedLiteral := by
        intro hk
        refine hu (clampOffset (offset + utf8Len skipped)) (Piece.firstFault_of_fault ?_ _)
        exact Piece.fault?_of_unterminated hk
      have hp : ¬((Lexeme.read c body).text = ['%'] ∧ (Lexeme.read c body).rest = []) := by
        rintro ⟨ht, hr⟩
        have hmark := congrArg Prod.fst (Lexeme.mark_of_text_percent ht hr)
        rw [show (Lexeme.read c body).kind = .placeholder from hmark] at hv
        cases hv
      rw [pieces_lexeme_lineFeed hs hk hp ds, Piece.firstFault_of_fault hfault,
        Piece.firstFault_of_fault hfault]
      rfl

theorem firstFault_pieces_add {offset n : Nat} (cs : List Char)
    (hl : offset + n + utf8Len cs ≤ UInt32.size) :
    Piece.firstFault (offset + n) (pieces cs) =
      (Piece.firstFault offset (pieces cs)).map (Fault.shift n) := by
  refine Piece.firstFault_add (fun piece hp hv => ?_) (by rwa [flatMap_extent_pieces])
  obtain ⟨front, back, hpieces⟩ := List.append_of_mem hp
  rcases lexeme_of_pieces_eq hpieces with ⟨hlast, -⟩ | ⟨d, body, hpiece, -⟩
  · rw [hlast] at hv
    cases hv
  · rw [hpiece]
    exact Lexeme.text_read_ne_nil d body

/-! ## Reports of texts -/

theorem checkLexical_ok_iff {text : String} :
    checkLexical text = .ok () ↔ Piece.firstFault 0 (pieces text.toList) = none := by
  rw [checkLexical_eq]
  split <;> simp [*]

theorem checkLexical_error_iff {text : String} {fault : Fault} :
    checkLexical text = .error fault ↔ Piece.firstFault 0 (pieces text.toList) = some fault := by
  rw [checkLexical_eq]
  split <;> simp [*]

/-- The report is that of the first broken token. -/
theorem checkLexical_reports {text : String} (hl : text.utf8ByteSize < UInt32.size)
    (fault : Fault) :
    checkLexical text = .error fault ↔
      ∃ before token after, tokenize text = before ++ token :: after ∧
        (∀ earlier ∈ before, earlier.kind.isInvalid = false) ∧ token.Reports text fault := by
  rw [checkLexical_error_iff, ← findSome?_tokenize, List.findSome?_eq_some_iff]
  simp only [Token.fault?_eq_none]
  constructor
  · rintro ⟨before, token, after, htokens, hfault, hbefore⟩
    have ht : token ∈ tokenize text := by simp [htokens]
    exact ⟨before, token, after, htokens, hbefore, (Token.fault?_eq_some hl ht).1 hfault⟩
  · rintro ⟨before, token, after, htokens, hbefore, hreports⟩
    have ht : token ∈ tokenize text := by simp [htokens]
    exact ⟨before, token, after, htokens, (Token.fault?_eq_some hl ht).2 hreports, hbefore⟩

variable {a b : String}

theorem firstFault_append (hu : ∀ place, checkLexical a ≠ .error (.unterminatedLiteral place))
    (hl : a.utf8ByteSize + b.utf8ByteSize < UInt32.size) :
    Piece.firstFault 0 (pieces (a ++ "\n" ++ b).toList) =
      (Piece.firstFault 0 (pieces a.toList)).or
        ((Piece.firstFault 0 (pieces b.toList)).map (Fault.shift (a.utf8ByteSize + 1))) := by
  have htext : (a ++ "\n" ++ b).toList = a.toList ++ '\n' :: b.toList := by simp
  have hbreak : utf8Len (a.toList ++ ['\n']) = a.utf8ByteSize + 1 := by
    rw [String.utf8Len_append, utf8Len_toList]
    rfl
  have hlen := utf8Len_toList b
  have hfirst := firstFault_append_lineFeed fun place h => hu place (checkLexical_error_iff.2 h)
  rw [htext, hfirst, hbreak, firstFault_pieces_add b.toList (by omega)]

theorem checkLexical_append_of_ok (hl : a.utf8ByteSize + b.utf8ByteSize < UInt32.size)
    (h : checkLexical a = .ok ()) :
    checkLexical (a ++ "\n" ++ b) =
      (checkLexical b).mapError (Fault.shift (a.utf8ByteSize + 1)) := by
  have hfirst := @firstFault_append a b (by rw [h]; nofun) hl
  rw [checkLexical_ok_iff.1 h, Option.none_or] at hfirst
  rw [checkLexical_eq, hfirst, checkLexical_eq b]
  cases Piece.firstFault 0 (pieces b.toList) <;> rfl

theorem checkLexical_append_of_malformed {offset : Nat} {text : String}
    (hl : a.utf8ByteSize + b.utf8ByteSize < UInt32.size)
    (h : checkLexical a = .error (.malformedNumber offset text)) :
    checkLexical (a ++ "\n" ++ b) = .error (.malformedNumber offset text) := by
  have hfirst := @firstFault_append a b (by rw [h]; nofun) hl
  rw [checkLexical_error_iff.1 h, Option.some_or] at hfirst
  exact checkLexical_error_iff.2 hfirst

/-- What is reported of a text, and of the text with a line feed and another one behind it. -/
theorem checkLexical_first (hl : a.utf8ByteSize < UInt32.size) :
    (checkLexical a = .ok () ↔ ∀ token ∈ tokenize a, token.kind.isInvalid = false) ∧
    (∀ fault, checkLexical a = .error fault ↔
      ∃ before token after, tokenize a = before ++ token :: after ∧
        (∀ earlier ∈ before, earlier.kind.isInvalid = false) ∧ token.Reports a fault) ∧
    (∀ b : String, a.utf8ByteSize + b.utf8ByteSize < UInt32.size → checkLexical a = .ok () →
      checkLexical (a ++ "\n" ++ b) =
        (checkLexical b).mapError (Fault.shift (a.utf8ByteSize + 1))) ∧
    (∀ (b : String) (offset : Nat) (text : String), a.utf8ByteSize + b.utf8ByteSize < UInt32.size →
      checkLexical a = .error (.malformedNumber offset text) →
      checkLexical (a ++ "\n" ++ b) = .error (.malformedNumber offset text)) := by
  refine ⟨?_, checkLexical_reports hl, fun b => checkLexical_append_of_ok,
    fun b offset text => checkLexical_append_of_malformed⟩
  rw [checkLexical_ok_iff, ← findSome?_tokenize, List.findSome?_eq_none_iff]
  simp only [Token.fault?_eq_none]

/-- A percent sign that the line feed makes punctuation, before a literal with an escaped quote, and
an exponent that lacks its digits, before digits. -/
theorem checkLexical_first_joined :
    checkLexical ("é %" ++ "\n" ++ "\"\\\"") = .error (.unterminatedLiteral 5) ∧
    checkLexical ("1.e+" ++ "\n" ++ "5") = .error (.malformedNumber 0 "1.e+") := by
  constructor
  · rw [(@checkLexical_first "é %" (by decide)).2.2.1 _ (by decide) (by decide +kernel)]
    decide +kernel
  · exact (@checkLexical_first "1.e+" (by decide)).2.2.2 _ _ _ (by decide) (by decide +kernel)

end SqlDml
