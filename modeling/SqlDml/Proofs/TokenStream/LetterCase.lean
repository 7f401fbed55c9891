import Mathlib.Data.List.Forall2
import SqlDml.Proofs.Lexeme.LetterCase
import SqlDml.Proofs.TokenStream.Relaid

/-!
# Letter case among the tokens

* `IsRecased` : a text in another case of ASCII letters, none of them within quotes;
* `Piece.Recased`, `Token.Recased` : pieces and tokens that differ no more than such texts do;
* `pieces_recased` : the pieces of such a text, by induction on the pieces of the other;
* `tokenize_recased` : the tokens of such a text are those of the other, in the same places and of
  the same kinds.

The text is first cut where the tokens of the other end. That what is cut off is what is read there
can only be said of one token after the other, for where a token begins depends on those before it.
-/

namespace SqlDml

open String (utf8Len)
open Lexeme (isQuote)
open Text (apply_toLower)

/-! ## Places -/

namespace Position

theorem step_toLower (p : Position) (c : Char) (following : Option Char) :
    p.step c.toLower (following.map Char.toLower) = p.step c following := by
  have hfeed := apply_toLower (· == '\n') (by decide) c
  have hreturn := apply_toLower (· == '\r') (by decide) c
  have hfollowing : (following.map Char.toLower != some '\n') = (following != some '\n') := by
    cases following with
    | none => rfl
    | some d => exact apply_toLower (fun d => some d != some '\n') (by decide) d
  have hends : endsLine c.toLower (following.map Char.toLower) = endsLine c following := by
    simp only [endsLine, hfollowing] at hfeed hreturn ⊢
    rw [hfeed, hreturn]
  rw [step, step, hends, apply_toLower Char.utf8Size (by decide) c]

theorem advance_toLower (p : Position) (cs : List Char) :
    p.advance (cs.map Char.toLower) = p.advance cs := by
  induction cs generalizing p with
  | nil => rfl
  | cons c cs ih => rw [List.map_cons, advance, advance, ih, List.head?_map, step_toLower]

theorem advance_eq_of_toLower {cs ds : List Char} (h : ds.map Char.toLower = cs.map Char.toLower)
    (p : Position) : p.advance ds = p.advance cs := by
  rw [← advance_toLower p ds, h, advance_toLower]

end Position

theorem utf8Len_eq_of_toLower {cs ds : List Char} (h : ds.map Char.toLower = cs.map Char.toLower) :
    utf8Len ds = utf8Len cs := by
  have hadvance := congrArg Position.offset (Position.advance_eq_of_toLower h {})
  rw [Position.offset_advance, Position.offset_advance] at hadvance
  exact Nat.add_left_cancel hadvance

/-! ## Pieces -/

namespace Piece

/-- The two pieces take the same letters in perhaps another case. -/
structure SameLetters (p q : Piece) : Prop where
  skipped : q.skipped.map Char.toLower = p.skipped.map Char.toLower
  text : q.text.map Char.toLower = p.text.map Char.toLower

/-- A piece that takes the same letters, and those of a quoted literal in the same case. -/
structure Resembles (p q : Piece) : Prop extends SameLetters p q where
  quoted : p.text.head?.any isQuote → q.text = p.text

/-- A piece of the same kind that takes the same letters. -/
structure Recased (p q : Piece) : Prop extends SameLetters p q where
  kind_eq : q.kind = p.kind
  value_eq : q.value.lowered = p.value.lowered
  exact_eq : p.kind.isExact → q.value = p.value

theorem map_flatMap_extent {list others : List Piece} (h : List.Forall₂ SameLetters list others) :
    (others.flatMap extent).map Char.toLower = (list.flatMap extent).map Char.toLower := by
  induction h with
  | nil => rfl
  | cons h _ ih =>
    simp only [List.flatMap_cons, extent, List.map_append, ih, h.skipped, h.text]

/-- A text in another case can be cut where some pieces end. -/
theorem exists_sameLetters {list : List Piece} {ds : List Char}
    (h : ds.map Char.toLower = (list.flatMap extent).map Char.toLower) :
    ∃ others, ds = others.flatMap extent ∧ List.Forall₂ SameLetters list others := by
  induction list generalizing ds with
  | nil =>
    rw [List.flatMap_nil, List.map_nil, List.map_eq_nil_iff] at h
    exact ⟨[], h, .nil⟩
  | cons piece list ih =>
    rw [List.flatMap_cons, extent, List.map_append, List.map_append] at h
    obtain ⟨front, rest, rfl, hfront, hrest⟩ := List.map_eq_append_iff.1 h
    obtain ⟨skipped, text, rfl, hskipped, htext⟩ := List.map_eq_append_iff.1 hfront
    obtain ⟨others, rfl, hothers⟩ := ih hrest
    exact ⟨{ piece with skipped, text } :: others, rfl, .cons ⟨hskipped, htext⟩ hothers⟩

theorem forall₂_placeAll {R : Piece → Piece → Prop} {S : Token → Token → Prop}
    (hletters : ∀ a b, R a b → SameLetters a b)
    (hplace : ∀ p a b, R a b → S (place p a) (place p b)) {list others : List Piece}
    (h : List.Forall₂ R list others) (p : Position) :
    List.Forall₂ S (placeAll p list) (placeAll p others) := by
  induction h generalizing p with
  | nil => exact .nil
  | @cons a b _ _ hab _ ih =>
    have hs := hletters a b hab
    rw [placeAll, placeAll, Position.advance_eq_of_toLower hs.skipped,
      Position.advance_eq_of_toLower hs.text]
    exact .cons (hplace p a b hab) (ih _)

end Piece

/-- The pieces of a text in another case: where the other text has a piece, a part that resembles
it is read as a piece in another case. -/
theorem pieces_recased {cs : List Char} {parts : List Piece}
    (h : List.Forall₂ Piece.Resembles (pieces cs) parts) :
    List.Forall₂ Piece.Recased (pieces cs) (pieces (parts.flatMap Piece.extent)) := by
  induction cs using pieces_induction generalizing parts with
  | last cs skipped hs =>
    rw [pieces_of_split_nil hs] at h ⊢
    obtain ⟨part, others, hpart, hnil, rfl⟩ := List.forall₂_cons_left_iff.1 h
    obtain rfl := List.forall₂_nil_left_iff.1 hnil
    have htext : part.text = [] := List.map_eq_nil_iff.1 hpart.text
    have hsplit : Layout.split (part.skipped ++ []) = (part.skipped, []) :=
      Layout.split_of_toLower hs hpart.skipped rfl
    rw [List.flatMap_singleton, Piece.extent, htext, pieces_of_split_nil hsplit]
    exact .cons ⟨⟨hpart.skipped, rfl⟩, rfl, rfl, fun _ => rfl⟩ .nil
  | lexeme cs skipped c body hs ih =>
    rw [pieces_of_split_cons hs] at h ⊢
    obtain ⟨part, others, hpart, hothers, rfl⟩ := List.forall₂_cons_left_iff.1 h
    obtain ⟨other, hother⟩ : ∃ other, other = others.flatMap Piece.extent := ⟨_, rfl⟩
    obtain ⟨hb, ho⟩ := Layout.not_layout_of_split hs
    have hbody := Lexeme.text_append_rest c body
    have htext : part.text.map Char.toLower = (Lexeme.read c body).text.map Char.toLower :=
      hpart.text
    have hrest : other.map Char.toLower = (Lexeme.read c body).rest.map Char.toLower := by
      rw [hother, Piece.map_flatMap_extent (hothers.imp fun _ _ h => h.toSameLetters),
        flatMap_extent_pieces]
    obtain ⟨d, text, hcons⟩ : ∃ d text, part.text = d :: text := by
      refine List.exists_cons_of_ne_nil fun hnil => Lexeme.text_read_ne_nil c body ?_
      rw [hnil, List.map_nil] at htext
      exact List.map_eq_nil_iff.1 htext.symm
    have hquoted : isQuote c → part.text = (Lexeme.read c body).text := by
      intro hc
      refine hpart.quoted ?_
      show (Lexeme.read c body).text.head?.any isQuote
      rw [Lexeme.text_read_eq_cons]
      exact hc
    have hds : d :: (text ++ other) = part.text ++ other := by rw [hcons, List.cons_append]
    have hsplit : Layout.split (part.skipped ++ (d :: (text ++ other))) =
        (part.skipped, d :: (text ++ other)) := by
      refine Layout.split_of_toLower hs hpart.skipped ?_
      rw [hds, ← hbody, List.map_append, List.map_append, htext, hrest]
    obtain ⟨hkind, hvalue, hexact, hcovered, hbehind⟩ :=
      Lexeme.read_recased hb ho hds htext hrest hquoted
    rw [List.flatMap_cons, Piece.extent, List.append_assoc, ← hother, ← hds,
      pieces_of_split_cons hsplit, hbehind]
    refine .cons ⟨⟨hpart.skipped, ?_⟩, hkind, hvalue, hexact⟩ (hother ▸ ih hothers)
    show (Lexeme.read d (text ++ other)).text.map Char.toLower = _
    rw [hcovered, htext]
    rfl

/-! ## Tokens -/

/-- `t` is `s` in another case of ASCII letters, all of which stand outside the tokens of `s` that
begin with a quote. -/
structure IsRecased (s t : String) : Prop where
  letters : lowered t.toList = lowered s.toList
  quoted : ∀ token ∈ tokenize s, (token.span.slice s).toList.head?.any isQuote →
    token.span.slice t = token.span.slice s

/-- The tokens have the same kind and place, and their texts are the same but for the case of
letters. The words of keywords are a part of the kind. -/
structure Token.Recased (a b : Token) : Prop where
  kind_eq : b.kind = a.kind
  span_eq : b.span = a.span
  line_eq : b.line = a.line
  column_eq : b.column = a.column
  skipped_eq : lowered b.skipped.toList = lowered a.skipped.toList
  value_eq : b.value.lowered = a.value.lowered
  /-- Numbers are the same, and so are texts. -/
  exact_eq : a.kind.isExact → b.value = a.value

theorem Piece.Recased.place {a b : Piece} (h : a.Recased b) (p : Position) :
    (a.place p).Recased (b.place p) := by
  have hskipped := Position.advance_eq_of_toLower h.skipped p
  have htext := Position.advance_eq_of_toLower h.text (p.advance a.skipped)
  refine ⟨h.kind_eq, ?_, ?_, ?_, ?_, h.value_eq, h.exact_eq⟩
  · simp only [Piece.place, Token.place, hskipped, htext]
  · simp only [Piece.place, Token.place, hskipped]
  · simp only [Piece.place, Token.place, hskipped]
  · simp only [Piece.place, Token.place, lowered, String.toList_ofList, h.skipped]

/-- The spans of a text cut parts of the same letters out of a text that takes the same letters. -/
theorem map_slice_of_sameLetters {s t : String} (hl : s.utf8ByteSize < UInt32.size)
    {parts : List Piece} (ht : t.toList = parts.flatMap Piece.extent)
    (h : List.Forall₂ Piece.SameLetters (pieces s.toList) parts) :
    (tokenize s).map (fun token => token.span.slice t) =
      parts.map fun part => String.ofList part.text := by
  have hsize : utf8Len (([] : List Char) ++ parts.flatMap Piece.extent) < UInt32.size := by
    rwa [List.nil_append, utf8Len_eq_of_toLower (Piece.map_flatMap_extent h),
      flatMap_extent_pieces, utf8Len_toList]
  have hslices := @Piece.slices_placeAll {} [] _ rfl hsize
  rw [List.nil_append, ← ht, String.ofList_toList] at hslices
  have hspans : (tokenize s).map Token.span = (Piece.placeAll {} parts).map Token.span := by
    rw [tokenize_eq_placeAll, ← List.forall₂_eq_eq_eq, List.forall₂_map_left_iff,
      List.forall₂_map_right_iff]
    refine Piece.forall₂_placeAll (fun _ _ hab => hab) (fun p a b hab => ?_) h {}
    simp only [Piece.place, Token.place, Position.advance_eq_of_toLower hab.skipped,
      Position.advance_eq_of_toLower hab.text]
  have htexts := congrArg (List.map fun part => String.ofList part.2) hslices
  have hcut := congrArg (List.map fun span => Span.slice span t) hspans
  simp only [List.map_map, Function.comp_def, String.ofList_toList] at htexts hcut
  rw [hcut, htexts]

/-- Lexing does not tell the cases of ASCII letters apart outside quotes: a text in another case
there has as many tokens, in the same places, of the same kinds and with the same numbers and texts.
What else they carry is the same but for the case of letters. -/
theorem tokenize_recased {s t : String} (hl : s.utf8ByteSize < UInt32.size) (h : IsRecased s t) :
    List.Forall₂ Token.Recased (tokenize s) (tokenize t) := by
  have hletters : t.toList.map Char.toLower =
      ((pieces s.toList).flatMap Piece.extent).map Char.toLower := by
    rw [flatMap_extent_pieces]
    exact String.ofList_injective h.letters
  obtain ⟨parts, ht, hparts⟩ := Piece.exists_sameLetters hletters
  have hslices := map_slice_of_sameLetters hl ht hparts
  -- Token by token, what is quoted is the same in both texts.
  have hquoted : List.Forall₂ (fun piece part : Piece =>
      piece.text.head?.any isQuote → part.text = piece.text) (pieces s.toList) parts := by
    have hall : List.Forall₂ (fun a b : String => a.toList.head?.any isQuote → b = a)
        ((tokenize s).map fun token => token.span.slice s)
        ((tokenize s).map fun token => token.span.slice t) := by
      rw [List.forall₂_map_left_iff, List.forall₂_map_right_iff, List.forall₂_same]
      exact h.quoted
    rw [map_slice_tokenize hl, hslices, List.forall₂_map_left_iff,
      List.forall₂_map_right_iff] at hall
    refine hall.imp fun piece part hpart hq => String.ofList_injective (hpart ?_)
    rwa [String.toList_ofList]
  have hresembles : List.Forall₂ Piece.Resembles (pieces s.toList) parts :=
    List.Forall₂.mp (fun _ _ hs hq => ⟨hs, hq⟩) hparts hquoted
  have hpieces := pieces_recased hresembles
  rw [← ht] at hpieces
  rw [tokenize_eq_placeAll, tokenize_eq_placeAll]
  exact Piece.forall₂_placeAll (fun _ _ hab => hab.toSameLetters) (fun p _ _ hab => hab.place p)
    hpieces {}

/-- A keyword, a placeholder, two numbers, the second malformed, and a comment in another case; the
text within quotes is left alone. -/
theorem tokenize_recased_mixed :
    IsRecased "Select %s 1e3 1e3_a 'It%s' --Ab" "sELECT %S 1E3 1E3_A 'It%s' --aB" ∧
    List.Forall₂ Token.Recased (tokenize "Select %s 1e3 1e3_a 'It%s' --Ab")
      (tokenize "sELECT %S 1E3 1E3_A 'It%s' --aB") := by
  have h : IsRecased "Select %s 1e3 1e3_a 'It%s' --Ab" "sELECT %S 1E3 1E3_A 'It%s' --aB" :=
    ⟨by decide +kernel, by decide +kernel⟩
  exact ⟨h, tokenize_recased (by decide) h⟩

end SqlDml
