import SqlDml.Proofs.Lexeme.Form
import SqlDml.Proofs.TokenReader.Tape
import SqlDml.Proofs.TokenStream.Partition

/-!
# How a stream goes through its text

* `Position.KeepsBreaks` : two texts with no line break across their joint;
* `TokenStream.Takes` : what one step of a stream takes off its text, and where the stream is then;
* `TokenStream.takes_of_next?` : the step that gives a token takes its piece;
* `TokenStream.Reached` : a stream that has read the front of a text;
* `TokenStream.Reached.takes`, `TokenStream.exists_reached_after` : it still has after a step, and
  after any number of them;
* `exists_takes_of_getElem?_tokenize` : each token of a text is what one such step takes.
-/

namespace SqlDml

open String (utf8Len)

/-! ## Joints -/

namespace Position

/-- No carriage return and line feed lie on the two sides of the joint. -/
def KeepsBreaks (before after : List Char) : Prop :=
  before.getLast? = some '\r' → after.head? ≠ some '\n'

theorem keepsBreaks_nil_left (after : List Char) : KeepsBreaks [] after := nofun

theorem KeepsBreaks.append {before middle after : List Char}
    (h : KeepsBreaks before (middle ++ after)) (hm : KeepsBreaks middle after) :
    KeepsBreaks (before ++ middle) after := by
  cases middle with
  | nil => rwa [List.append_nil]
  | cons c middle =>
    intro hl
    refine hm ?_
    rwa [List.getLast?_append_of_ne_nil _ (List.cons_ne_nil c middle)] at hl

theorem endsLine_of_keepsBreaks {c : Char} {after : List Char} (h : KeepsBreaks [c] after) :
    endsLine c after.head? = endsLine c none := by
  by_cases hc : c = '\r'
  · subst hc
    have hne : (after.head? != some '\n') = true := bne_iff_ne.2 (h rfl)
    rw [endsLine, hne]
    rfl
  · simp only [endsLine, beq_eq_false_iff_ne.2 hc, Bool.false_and]

/-- Two texts may be counted one after the other if no line break lies across their joint. -/
theorem advance_append {before after : List Char} (h : KeepsBreaks before after) (p : Position) :
    p.advance (before ++ after) = (p.advance before).advance after := by
  induction before generalizing p with
  | nil => rfl
  | cons c before ih =>
    cases before with
    | nil =>
      show (p.step c after.head?).advance after = (p.step c none).advance after
      rw [step, step, endsLine_of_keepsBreaks h]
    | cons d before => exact ih (fun hl => h hl) (p.step c (some d))

end Position

/-! ## Steps -/

namespace TokenStream

/-- The step from `s` to `s'` takes `piece` off the text, which lies from the place of `s` on. -/
structure Takes (s : TokenStream) (piece : Piece) (s' : TokenStream) : Prop where
  rest_eq : s.rest = piece.extent ++ s'.rest
  position_eq : s'.position = (s.position.advance piece.skipped).advance piece.text
  form : piece.kind.Form piece.value piece.text s'.rest
  /-- Only a step to the end covers nothing. -/
  text_eq_nil_iff : piece.text = [] ↔ piece.kind = .endOfInput
  ended_iff : s'.ended = true ↔ piece.kind = .endOfInput
  rest_of_ended : s'.ended = true → s'.rest = []
  skipped_joint : Position.KeepsBreaks piece.skipped (piece.text ++ s'.rest)
  text_joint : Position.KeepsBreaks piece.text s'.rest

theorem takes_last {s : TokenStream} {skipped : List Char}
    (h : Layout.split s.rest = (skipped, [])) :
    s.Takes (.last skipped) ⟨[], s.position.advance skipped, true⟩ where
  rest_eq := by
    have hs := Layout.split_append s.rest
    rw [h] at hs
    simpa [Piece.extent, Piece.last] using hs.symm
  position_eq := rfl
  form := ⟨rfl, rfl⟩
  text_eq_nil_iff := iff_of_true rfl rfl
  ended_iff := iff_of_true rfl rfl
  rest_of_ended _ := rfl
  skipped_joint := nofun
  text_joint := nofun

theorem takes_lexeme {s : TokenStream} {skipped body : List Char} {c : Char}
    (h : Layout.split s.rest = (skipped, c :: body)) :
    s.Takes ((Lexeme.read c body).behind skipped) ⟨(Lexeme.read c body).rest,
      (s.position.advance skipped).advance (Lexeme.read c body).text, false⟩ := by
  obtain ⟨hblank, hcomment⟩ := Layout.not_layout_of_split h
  have hform : (Lexeme.read c body).HasForm := Lexeme.form_read hblank hcomment
  have hbody := Lexeme.text_append_rest c body
  have htext := Lexeme.text_read_ne_nil c body
  have hkind : (Lexeme.read c body).kind ≠ .endOfInput := fun hk =>
    htext (Lexeme.form_of_kind hblank hcomment hk).1
  refine ⟨?_, rfl, hform, iff_of_false htext hkind, iff_of_false Bool.false_ne_true hkind, nofun,
    ?_, ?_⟩
  · have hs := Layout.split_append s.rest
    rw [h, ← hbody] at hs
    simpa [Piece.extent, Lexeme.behind] using hs.symm
  · intro _ hhead
    simp only [Lexeme.behind, hbody, List.head?_cons, Option.some.injEq] at hhead
    rw [hhead] at hblank
    cases hblank
  · intro hlast hhead
    refine hform.getLast?_ne ?_ hlast
    rintro hnil
    simp [hnil] at hhead

/-- The step that gives out a token takes its piece. -/
theorem takes_of_next? {s s' : TokenStream} {token : Token} (h : s.next? = some (token, s')) :
    ∃ piece, token = piece.place s.position ∧ s.Takes piece s' := by
  unfold next? at h
  split at h
  · cases h
  rcases hs : Layout.split s.rest with ⟨skipped, _ | ⟨c, body⟩⟩
  · simp only [hs, Option.some.injEq, Prod.mk.injEq] at h
    obtain ⟨rfl, rfl⟩ := h
    exact ⟨.last skipped, rfl, takes_last hs⟩
  · simp only [hs, Option.some.injEq, Prod.mk.injEq] at h
    obtain ⟨rfl, rfl⟩ := h
    exact ⟨(Lexeme.read c body).behind skipped, rfl, takes_lexeme hs⟩

/-- A stream gives out tokens until it has ended. -/
theorem next?_eq_none_iff {s : TokenStream} : s.next? = none ↔ s.ended = true := by
  unfold next?
  split
  · rename_i h
    exact iff_of_true rfl h
  · rename_i h
    refine iff_of_false ?_ h
    dsimp only
    split <;> simp

/-! ## Runs -/

/-- A stream over `source` that has read `before`. -/
structure Reached (source : String) (before : List Char) (s : TokenStream) : Prop where
  text_eq : before ++ s.rest = source.toList
  position_eq : s.position = Position.advance {} before
  joint : Position.KeepsBreaks before s.rest

theorem reached_ofString (source : String) : (ofString source).Reached source [] :=
  ⟨rfl, rfl, Position.keepsBreaks_nil_left _⟩

namespace Reached

variable {source : String} {before : List Char} {s s' : TokenStream} {piece : Piece}

theorem offset_eq (h : s.Reached source before) : s.position.offset = utf8Len before := by
  rw [h.position_eq, Position.offset_advance]
  exact Nat.zero_add _

theorem skipped_joint (h : s.Reached source before) (ht : s.Takes piece s') :
    Position.KeepsBreaks (before ++ piece.skipped) (piece.text ++ s'.rest) := by
  refine Position.KeepsBreaks.append ?_ ht.skipped_joint
  rw [← List.append_assoc, ← Piece.extent, ← ht.rest_eq]
  exact h.joint

/-- Where the token of a step begins. -/
theorem start_eq (h : s.Reached source before) (ht : s.Takes piece s') :
    s.position.advance piece.skipped = Position.advance {} (before ++ piece.skipped) := by
  have hjoint : Position.KeepsBreaks before piece.skipped := by
    intro hl hh
    refine h.joint hl ?_
    rw [ht.rest_eq, Piece.extent, List.append_assoc, List.head?_append, hh]
    rfl
  rw [Position.advance_append hjoint, h.position_eq]

/-- What a step takes has its place in the text. -/
theorem before_append (h : s.Reached source before) (ht : s.Takes piece s') :
    before ++ piece.skipped ++ (piece.text ++ s'.rest) = source.toList := by
  rw [← h.text_eq, ht.rest_eq, Piece.extent]
  simp only [List.append_assoc]

theorem span_eq (h : s.Reached source before) (ht : s.Takes piece s')
    (hl : source.utf8ByteSize < UInt32.size) :
    (piece.place s.position).span =
      ⟨utf8Len (before ++ piece.skipped), utf8Len (before ++ piece.skipped ++ piece.text)⟩ := by
  have hlength : utf8Len (before ++ piece.extent ++ s'.rest) < UInt32.size := by
    rwa [List.append_assoc, ← ht.rest_eq, h.text_eq, utf8Len_toList]
  exact Piece.span_place h.offset_eq hlength

/-- After a step, the piece that it takes has been read as well. -/
theorem takes (h : s.Reached source before) (ht : s.Takes piece s') :
    s'.Reached source (before ++ piece.extent) := by
  have hskipped := h.skipped_joint ht
  refine ⟨?_, ?_, ?_⟩
  · rw [List.append_assoc, ← ht.rest_eq]
    exact h.text_eq
  · have hjoint : Position.KeepsBreaks (before ++ piece.skipped) piece.text := by
      intro hl hh
      refine hskipped hl ?_
      rw [List.head?_append, hh]
      rfl
    rw [ht.position_eq, h.start_eq ht, ← Position.advance_append hjoint, Piece.extent,
      List.append_assoc]
  · rw [Piece.extent, ← List.append_assoc]
    exact hskipped.append ht.text_joint

end Reached

/-- After any number of results, a stream has read the front of its text. -/
theorem exists_reached_after (source : String) (n : Nat) :
    ∃ before, ((ofString source).after n).Reached source before := by
  induction n with
  | zero => exact ⟨[], reached_ofString source⟩
  | succ n ih =>
    obtain ⟨before, h⟩ := ih
    rw [← tail_after]
    unfold tail
    split
    · rename_i hn
      obtain ⟨piece, -, ht⟩ := takes_of_next? hn
      exact ⟨_, h.takes ht⟩
    · exact ⟨before, h⟩

end TokenStream

/-! ## Tokens -/

/-- Each token of a text is placed by a step that takes its piece, from where the stream has read
the text before. -/
theorem exists_takes_of_getElem?_tokenize {source : String} {n : Nat} {token : Token}
    (h : (tokenize source)[n]? = some token) :
    ∃ before piece, let s := (TokenStream.ofString source).after n
      token = piece.place s.position ∧ s.Reached source before ∧
        s.Takes piece ((TokenStream.ofString source).after (n + 1)) := by
  have hnext : ((TokenStream.ofString source).after n).next?.map Prod.fst = some token := by
    rw [← TokenStream.getElem?_toList]
    exact h
  obtain ⟨⟨token, s'⟩, hn, rfl⟩ := Option.map_eq_some_iff.1 hnext
  obtain ⟨piece, hp, ht⟩ := TokenStream.takes_of_next? hn
  obtain ⟨before, hb⟩ := TokenStream.exists_reached_after source n
  have htail : (TokenStream.ofString source).after (n + 1) = s' := by
    rw [← TokenStream.tail_after, TokenStream.tail, hn]
  exact ⟨before, piece, hp, hb, htail ▸ ht⟩

end SqlDml
