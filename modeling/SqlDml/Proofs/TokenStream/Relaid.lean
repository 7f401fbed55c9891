import SqlDml.Proofs.Spelling.Basic
import SqlDml.Proofs.TokenStream.Partition

/-!
# Other layout between lexemes

* `Layout.Gaps` : layouts that can stand behind lexemes, one behind each;
* `relaid` : the lexemes of a text with other layouts before and behind them;
* `pieces_relaid` : the pieces of such a text are the old ones behind the new layouts;
* `tokenize_relaid` : the kinds and values of a text do not depend on its layout.

Where two lexemes touch, each is read for what comes first in the other. A blank between them is no
part of any lexeme, so neither is read otherwise.
-/

namespace SqlDml

/-! ## Pieces -/

/-- Layouts that stand behind lexemes, one behind each. All begin with a blank, but behind the last
lexeme there may be none; there, a comment may end without its line break. -/
inductive Layout.Gaps : List (List Char) → Prop where
  | nil : Gaps []
  | last {gap : List Char} : Laid true gap → (∀ c ∈ gap.head?, isBlank c) → Gaps [gap]
  | cons {c : Char} {gap : List Char} {gaps : List (List Char)} :
    isBlank c → Laid false (c :: gap) → Gaps gaps → Gaps ((c :: gap) :: gaps)

theorem Layout.Gaps.of_cons {gap : List Char} {gaps : List (List Char)} (h : Gaps (gap :: gaps)) :
    Gaps gaps ∧ Laid gaps.isEmpty gap ∧ (∀ c ∈ gap.head?, isBlank c) ∧
      (gap = [] → gaps = []) := by
  cases h with
  | last hl hb => exact ⟨.nil, hl, hb, fun _ => rfl⟩
  | cons hb hl hg =>
    refine ⟨hg, ?_, ?_, nofun⟩
    · exact hl.mono
    · rintro c ⟨⟩
      exact hb

/-- What stands behind a lexeme goes on none, and only the last lexeme may have nothing behind. -/
theorem halts_relaid {cs gap : List Char} {gaps : List (List Char)}
    (hn : (gap :: gaps).length = (pieces cs).length) (hg : Layout.Gaps (gap :: gaps)) :
    let other := (List.zipWith Piece.relay (gap :: gaps) (pieces cs)).flatMap Piece.extent
    Lexeme.Halts other ∧ (other = [] → (pieces cs).length = 1) := by
  obtain ⟨-, -, hblank, hnil⟩ := hg.of_cons
  obtain ⟨front, skipped, hpieces⟩ := exists_pieces_eq_append_last cs
  cases gap with
  | nil =>
    obtain rfl := hnil rfl
    obtain rfl : front = [] := by
      rw [hpieces, List.length_append] at hn
      exact List.length_eq_zero_iff.1 (by simpa using hn.symm)
    rw [hpieces]
    exact ⟨Lexeme.halts_nil, fun _ => rfl⟩
  | cons c gap =>
    have hc := Lexeme.goesOn_of_isBlank (hblank c rfl)
    rw [hpieces]
    cases front with
    | nil => exact ⟨Lexeme.halts_cons.2 hc, nofun⟩
    | cons piece front => exact ⟨Lexeme.halts_cons.2 hc, nofun⟩

/-- The pieces of a text behind other layouts are the pieces of the text that they make. The
induction is on the lexemes: between two, a blank ends the first. -/
theorem pieces_relaid {cs first : List Char} {gaps : List (List Char)}
    (hu : ∀ piece ∈ pieces cs, piece.kind ≠ .invalid .unterminatedLiteral)
    (hp : ∀ piece ∈ (pieces cs).dropLast.getLast?, piece.text ≠ ['%'])
    (hn : gaps.length + 1 = (pieces cs).length) (hf : Layout.Laid gaps.isEmpty first)
    (hg : Layout.Gaps gaps) :
    pieces ((List.zipWith Piece.relay (first :: gaps) (pieces cs)).flatMap Piece.extent) =
      List.zipWith Piece.relay (first :: gaps) (pieces cs) := by
  induction cs using pieces_induction generalizing first gaps with
  | last cs skipped hs =>
    rw [pieces_of_split_nil hs] at hn ⊢
    obtain rfl : gaps = [] := List.length_eq_zero_iff.1 (by simpa using hn)
    show pieces (first ++ [] ++ []) = [.last first]
    rw [List.append_nil, List.append_nil, pieces_of_laid hf]
  | lexeme cs skipped c body hs ih =>
    rw [pieces_of_split_cons hs] at hu hp hn ⊢
    obtain ⟨hpiece, hothers⟩ := List.forall_mem_cons.1 hu
    rw [List.length_cons, Nat.add_right_cancel_iff] at hn
    cases gaps with
    | nil => exact absurd (List.length_eq_zero_iff.1 hn.symm) (pieces_ne_nil _)
    | cons gap gaps =>
      obtain ⟨hgaps, hgap, -⟩ := hg.of_cons
      have hrest := ih hothers (fun q hq => hp q (mem_getLast?_dropLast_cons.2 (.inl hq))) hn hgap
        hgaps
      obtain ⟨hhalts, hnil⟩ := halts_relaid hn hg
      -- A percent sign has another lexeme behind it, so the text ended behind it neither time.
      have hstep := pieces_lexeme_append hs hf (.halts hhalts) hpiece fun ht => by
        have hone : (pieces (Lexeme.read c body).rest).length ≠ 1 := fun h =>
          hp _ (mem_getLast?_dropLast_cons.2 (.inr ⟨rfl, h⟩)) ht
        refine ⟨fun hr => absurd ?_ hone, fun ho => absurd (hnil ho) hone⟩
        rw [hr, pieces_nil]
        rfl
      rw [hrest] at hstep
      exact hstep

theorem map_mark_relay {layouts : List (List Char)} {list : List Piece}
    (h : layouts.length = list.length) :
    (List.zipWith Piece.relay layouts list).map Piece.mark = list.map Piece.mark := by
  induction layouts generalizing list with
  | nil =>
    obtain rfl := List.length_eq_zero_iff.1 h.symm
    rfl
  | cons layout layouts ih =>
    cases list with
    | nil => cases h
    | cons piece list =>
      rw [List.zipWith_cons_cons, List.map_cons, List.map_cons, ih (Nat.succ.inj h)]
      rfl

/-! ## Texts -/

/-- The lexemes of a text, each behind its own of some layouts. -/
def relaid (source : String) (layouts : List String) : String :=
  String.join (List.zipWith (fun layout token => layout ++ token.span.slice source) layouts
    (tokenize source))

theorem forall_kind_pieces {source : String} {P : Kind → Prop}
    (h : ∀ token ∈ tokenize source, P token.kind) :
    ∀ piece ∈ pieces source.toList, P piece.kind := by
  intro piece hpiece
  have hm : piece.mark ∈ marks source.toList := List.mem_map_of_mem hpiece
  rw [← map_mark_tokenize, List.mem_map] at hm
  obtain ⟨token, ht, hm⟩ := hm
  rw [← show token.kind = piece.kind from congrArg Prod.fst hm]
  exact h token ht

theorem map_slice_tokenize {source : String} (hl : source.utf8ByteSize < UInt32.size) :
    (tokenize source).map (fun token => token.span.slice source) =
      (pieces source.toList).map fun piece => String.ofList piece.text := by
  have hu : String.utf8Len (([] : List Char) ++ (pieces source.toList).flatMap Piece.extent) <
      UInt32.size := by
    rwa [List.nil_append, flatMap_extent_pieces, utf8Len_toList]
  have hslices := @Piece.slices_placeAll {} [] _ rfl hu
  rw [← tokenize_eq_placeAll, List.nil_append, flatMap_extent_pieces, String.ofList_toList]
    at hslices
  have htexts := congrArg (List.map fun part => String.ofList part.2) hslices
  simpa [List.map_map, Function.comp_def] using htexts

theorem toList_relaid {source : String} (hl : source.utf8ByteSize < UInt32.size)
    (layouts : List String) :
    (relaid source layouts).toList =
      (List.zipWith Piece.relay (layouts.map String.toList) (pieces source.toList)).flatMap
        Piece.extent := by
  have hzip : List.zipWith (fun layout token => layout ++ token.span.slice source) layouts
      (tokenize source) =
        (List.zipWith Piece.relay (layouts.map String.toList) (pieces source.toList)).map
          fun piece => String.ofList piece.extent := by
    have hslices := congrArg (List.zipWith (· ++ ·) layouts) (map_slice_tokenize hl)
    rw [List.zipWith_map_right, List.zipWith_map_right] at hslices
    rw [hslices, List.map_zipWith, List.zipWith_map_left]
    simp [Piece.relay, Piece.extent, String.ofList_append]
  rw [relaid, hzip, join_map_ofList, String.toList_ofList]

/-- Kinds and values do not depend on the layout: any will do in front of the first lexeme, and
between two and behind the last whatever begins with a blank. Only at the end of the text may a
comment lack its line break. A lone percent sign that comes last is left out, as the end of the text
decides what it is. -/
theorem tokenize_relaid {source first : String} {gaps : List String}
    (hl : source.utf8ByteSize < UInt32.size)
    (hu : ∀ token ∈ tokenize source, token.kind ≠ .invalid .unterminatedLiteral)
    (hp : ∀ token ∈ (tokenize source).dropLast.getLast?, token.span.slice source ≠ "%")
    (hn : gaps.length + 1 = (tokenize source).length)
    (hf : Layout.Laid gaps.isEmpty first.toList) (hg : Layout.Gaps (gaps.map String.toList)) :
    (tokenize (relaid source (first :: gaps))).map Token.mark =
      (tokenize source).map Token.mark := by
  have hmarks := map_mark_tokenize source
  have hlen : (tokenize source).length = (pieces source.toList).length := by
    simpa [marks] using congrArg List.length hmarks
  have hunterminated := @forall_kind_pieces source (· ≠ .invalid .unterminatedLiteral) hu
  have hpercent : ∀ piece ∈ (pieces source.toList).dropLast.getLast?, piece.text ≠ ['%'] := by
    intro piece hpiece htext
    have hlast := congrArg (fun texts => texts.dropLast.getLast?) (map_slice_tokenize hl)
    simp only [← List.map_dropLast, List.getLast?_map, Option.mem_def.1 hpiece, Option.map_some,
      Option.map_eq_some_iff] at hlast
    obtain ⟨token, ht, hslice⟩ := hlast
    exact hp token ht (by rw [hslice, htext])
  have hlayouts : (gaps.map String.toList).length + 1 = (pieces source.toList).length := by
    rw [List.length_map, hn, hlen]
  have hfirst : Layout.Laid (gaps.map String.toList).isEmpty first.toList := by
    rwa [List.isEmpty_map]
  rw [map_mark_tokenize, toList_relaid hl, List.map_cons, marks,
    pieces_relaid hunterminated hpercent hlayouts hfirst hg,
    map_mark_relay (by rw [List.length_cons, hlayouts]), ← marks, ← hmarks]

/-- Three lexemes that touch, with comments put around them and a quote in one of these. -/
theorem tokenize_relaid_range :
    (tokenize (relaid "1...2" ["#\n", " ", "\t# '\r\n", "\n--"])).map Token.mark =
      (tokenize "1...2").map Token.mark := by
  have hfirst : Layout.Laid false "#\n".toList := Layout.laid_split "#\n1".toList
  have hmiddle : Layout.Laid false "\t# '\r\n".toList := Layout.laid_split "\t# '\r\n2".toList
  have hlast : Layout.Laid true "\n--".toList := Layout.laid_split "\n--".toList
  have hblank : ∀ c ∈ "\n--".toList.head?, Layout.isBlank c := by
    rintro c ⟨⟩
    rfl
  exact tokenize_relaid (by decide) (by decide +kernel) (by decide +kernel) (by decide +kernel)
    hfirst (.cons rfl (.blank rfl .nil) (.cons rfl hmiddle (.last hlast hblank)))

end SqlDml
