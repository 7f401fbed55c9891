import SqlDml.Proofs.TokenStream.LineBreak
import SqlDml.Proofs.TokenStream.Progress

/-!
# No token looks further than two bytes

* `Agree` : two texts with the same first bytes;
* `Lexeme.Alike` : two texts that look the same to every lexeme before them;
* `Agree.alike` : texts that agree in two bytes look the same;
* `pieces_append_of_alike` : the pieces before such texts are the same;
* `take_tokenize_of_extract_eq` : the tokens up to one depend on the bytes up to its end, and on two
  more.

The bytes that two texts share may end within a character. What a lexeme asks about the text behind
it are ASCII characters, so any other character looks like any other.
-/

namespace SqlDml

open String (utf8Len)

/-! ## Texts with the same first bytes -/

theorem size_utf8Encode (cs : List Char) : cs.utf8Encode.size = utf8Len cs := by
  rw [← String.toByteArray_ofList, String.size_toByteArray, String.utf8ByteSize_ofList]

theorem extract_utf8Encode_cons {n : Nat} {c : Char} (cs : List Char) (hn : c.utf8Size ≤ n) :
    (c :: cs).utf8Encode.extract 0 n =
      [c].utf8Encode ++ cs.utf8Encode.extract 0 (n - c.utf8Size) := by
  have hsize : [c].utf8Encode.size = c.utf8Size := by
    rw [size_utf8Encode, String.utf8Len_cons]
    exact Nat.zero_add _
  have hwhole : [c].utf8Encode.extract 0 n = [c].utf8Encode := by
    apply ByteArray.ext
    rw [ByteArray.data_extract]
    refine Array.extract_eq_self_of_le ?_
    show [c].utf8Encode.size ≤ n
    omega
  rw [List.utf8Encode_cons, ByteArray.extract_append, hwhole, hsize, Nat.zero_sub]

/-- The texts have the same first `n` bytes, or are the same if there are fewer. -/
def Agree (n : Nat) (cs ds : List Char) : Prop :=
  ds.utf8Encode.extract 0 n = cs.utf8Encode.extract 0 n

namespace Agree

variable {n : Nat} {c : Char} {cs ds : List Char}

theorem symm (h : Agree n cs ds) : Agree n ds cs := Eq.symm h

theorem eq_nil (hn : 0 < n) (h : Agree n [] ds) : ds = [] := by
  have hsize := congrArg ByteArray.size h
  rw [ByteArray.size_extract, ByteArray.size_extract, size_utf8Encode, size_utf8Encode] at hsize
  cases ds with
  | nil => rfl
  | cons d ds =>
    have hpos := d.utf8Size_pos
    rw [String.utf8Len_cons, show utf8Len [] = 0 from rfl] at hsize
    omega

/-- Where the first character of one text lies within the bytes that agree, the other has it. -/
theorem exists_cons (hn : c.utf8Size ≤ n) (h : Agree n (c :: cs) ds) :
    ∃ rest, ds = c :: rest ∧ Agree (n - c.utf8Size) cs rest := by
  have hbytes : ds.utf8Encode =
      ds.utf8Encode.extract 0 n ++ ds.utf8Encode.extract n ds.utf8Encode.size := by
    apply ByteArray.ext
    simp
  have hdecode : ds.utf8Encode.utf8DecodeChar? 0 = some c := by
    rw [hbytes, show ds.utf8Encode.extract 0 n = _ from h, extract_utf8Encode_cons cs hn,
      ByteArray.append_assoc]
    exact List.utf8DecodeChar?_utf8Encode_singleton_append
  cases ds with
  | nil =>
    have hpos := c.utf8Size_pos
    cases h.symm.eq_nil (Nat.lt_of_lt_of_le hpos hn)
  | cons d rest =>
    rw [List.utf8DecodeChar?_utf8Encode_cons, Option.some.injEq] at hdecode
    subst hdecode
    refine ⟨rest, rfl, ?_⟩
    unfold Agree at h
    rw [extract_utf8Encode_cons _ hn, extract_utf8Encode_cons _ hn] at h
    exact (ByteArray.append_right_inj _).1 h

/-- A text that agrees with another beyond a part of it begins with that part. -/
theorem exists_append {before : List Char} (h : Agree (utf8Len before + n) (before ++ cs) ds) :
    ∃ rest, ds = before ++ rest ∧ Agree n cs rest := by
  induction before generalizing ds with
  | nil =>
    rw [show utf8Len [] + n = n from Nat.zero_add n] at h
    exact ⟨ds, rfl, h⟩
  | cons d before ih =>
    rw [String.utf8Len_cons] at h
    obtain ⟨rest, rfl, hrest⟩ := h.exists_cons (by omega)
    rw [show utf8Len before + d.utf8Size + n - d.utf8Size = utf8Len before + n by omega] at hrest
    obtain ⟨rest, rfl, hagree⟩ := ih hrest
    exact ⟨rest, rfl, hagree⟩

/-- One byte tells whether a text begins with an ASCII character of a class. -/
theorem any_head? {p : Char → Bool} (hp : ∀ {c}, p c → c.utf8Size = 1) (hn : 0 < n)
    (h : Agree n cs ds) : ds.head?.any p = cs.head?.any p := by
  have himp {xs ys : List Char} (h : Agree n xs ys) (hx : xs.head?.any p) : ys.head?.any p := by
    obtain ⟨c, hc, hpc⟩ := (Option.any_eq_true _ _).1 hx
    obtain ⟨rest, rfl⟩ := List.head?_eq_some_iff.1 hc
    have hsize := hp hpc
    obtain ⟨rest, rfl, -⟩ := h.exists_cons (by omega)
    exact hpc
  exact Bool.eq_iff_iff.2 ⟨himp h.symm, himp h⟩

end Agree

/-! ## Texts that look the same -/

namespace Lexeme

/-- The texts begin with the same character, and what is asked about the next has the same answer;
or neither goes on any lexeme. -/
inductive Alike : List Char → List Char → Prop where
  | halts {cs ds : List Char} (hc : Halts cs) (hd : Halts ds) : Alike cs ds
  | same {c : Char} {cs ds : List Char}
      (second : ∀ p ∈ secondLook c, ds.head?.any p = cs.head?.any p) : Alike (c :: cs) (c :: ds)

namespace Alike

variable {cs ds : List Char}

theorem follows (h : Alike cs ds) : Follows cs ds := by
  cases h with
  | halts _ hd => exact .halts hd
  | same hsecond => exact .same rfl hsecond

theorem any_head? (h : Alike cs ds) {p : Char → Bool} (hp : ∀ {c}, p c → goesOn c) :
    ds.head?.any p = cs.head?.any p := by
  have hnone {xs : List Char} (hx : Halts xs) : xs.head?.any p = false := by
    refine Bool.eq_false_iff.2 fun hany => ?_
    obtain ⟨c, hc, hpc⟩ := (Option.any_eq_true _ _).1 hany
    have hgoes := hx c hc
    rw [hp hpc] at hgoes
    cases hgoes
  cases h with
  | halts hc hd => rw [hnone hc, hnone hd]
  | same _ => rfl

theorem append (h : Alike cs ds) (before : List Char) : Alike (before ++ cs) (before ++ ds) := by
  cases before with
  | nil => exact h
  | cons c before =>
    refine .same fun p hp => ?_
    cases before with
    | nil => exact h.any_head? (goesOn_of_mem_secondLook hp)
    | cons d before => rfl

end Alike

theorem utf8Size_of_isAlphanum {c : Char} (h : c.isAlphanum) : c.utf8Size = 1 := by
  have hlt : c.toNat < 128 := by
    rcases Bool.or_eq_true_iff.1 h with ha | hd
    · exact toNat_lt_of_isAlpha ha
    · have hle : c.toNat ≤ 57 := of_decide_eq_true (Bool.and_eq_true_iff.1 hd).2
      omega
  exact Char.utf8Size_eq_one_iff.2 (UInt32.le_iff_toNat_le.2 (Nat.le_of_lt_succ hlt))

/-- Only ASCII characters go on a lexeme. -/
theorem utf8Size_of_goesOn {c : Char} (h : goesOn c) : c.utf8Size = 1 := by
  by_cases ha : c.isAlphanum
  · exact utf8Size_of_isAlphanum ha
  · -- What is left are the signs, class by class.
    simp only [goesOn, isWordChar, isSpoilt, isNameChar, isComparison, ha, Bool.false_or,
      Bool.or_eq_true, beq_iff_eq] at h
    rcases h with (((((((((rfl | rfl) | rfl) | rfl) | rfl) | rfl) | (rfl | rfl) | rfl) |
      ((rfl | rfl) | rfl) | rfl) | rfl) | rfl) | rfl <;> rfl

end Lexeme

/-- Texts that agree in two bytes look the same. -/
theorem Agree.alike {cs ds : List Char} (h : Agree 2 cs ds) : Lexeme.Alike cs ds := by
  by_cases hc : ∃ c rest, cs = c :: rest ∧ c.utf8Size = 1
  · obtain ⟨c, cs, rfl, hsize⟩ := hc
    obtain ⟨ds, rfl, hrest⟩ := h.exists_cons (by omega)
    refine .same fun p hp => hrest.any_head? (fun hpc => ?_) (by omega)
    exact Lexeme.utf8Size_of_goesOn (Lexeme.goesOn_of_mem_secondLook hp hpc)
  · have hhalts {xs ys : List Char} (h : Agree 2 xs ys)
        (hx : ¬∃ c rest, xs = c :: rest ∧ c.utf8Size = 1) : Lexeme.Halts ys := by
      intro d hd
      obtain ⟨rest, rfl⟩ := List.head?_eq_some_iff.1 hd
      refine Bool.eq_false_iff.2 fun hgoes => ?_
      have hsize := Lexeme.utf8Size_of_goesOn hgoes
      obtain ⟨rest, rfl, -⟩ := h.symm.exists_cons (by omega)
      exact hx ⟨d, rest, rfl, hsize⟩
    exact .halts (hhalts rfl hc) (hhalts h hc)

/-! ## Pieces -/

theorem Lexeme.rest_of_unterminated {cs skipped body : List Char} {c : Char}
    (hs : Layout.split cs = (skipped, c :: body))
    (hk : (read c body).kind = .invalid .unterminatedLiteral) : (read c body).rest = [] := by
  obtain ⟨hb, ho⟩ := Layout.not_layout_of_split hs
  exact (form_of_kind hb ho hk).1

/-- The pieces at the front of a text are the same before any other text that looks like the one
behind them. The induction is on the lexemes: behind each stand the later ones and then the two
texts, and that looks the same as well. -/
theorem pieces_append_of_alike {cs rest other : List Char} {front back : List Piece}
    (h : Lexeme.Alike rest other) (hr : rest ≠ []) (ho : other ≠ [])
    (hp : pieces cs = front ++ back) (hcs : cs = front.flatMap Piece.extent ++ rest) :
    ∃ others, pieces (front.flatMap Piece.extent ++ other) = front ++ others := by
  induction cs using pieces_induction generalizing front with
  | last cs skipped hs =>
    cases front with
    | nil => exact ⟨_, rfl⟩
    | cons piece front =>
      -- The end of the text would leave nothing for `rest`.
      rw [pieces_of_split_nil hs, List.cons_append, List.cons.injEq] at hp
      obtain ⟨rfl, -⟩ := hp
      have hsplit := Layout.split_append cs
      rw [hs, List.append_nil] at hsplit
      have hlength := congrArg List.length (hsplit.trans hcs)
      have hpos := List.length_pos_iff.2 hr
      simp only [List.flatMap_cons, Piece.extent, Piece.last, List.length_append] at hlength
      omega
  | lexeme cs skipped c body hs ih =>
    cases front with
    | nil => exact ⟨_, rfl⟩
    | cons piece front =>
      rw [pieces_of_split_cons hs, List.cons_append, List.cons.injEq] at hp
      obtain ⟨rfl, hp⟩ := hp
      have hrest : (Lexeme.read c body).rest = front.flatMap Piece.extent ++ rest := by
        have hsplit := Layout.split_append cs
        rw [hs, ← Lexeme.text_append_rest c body, hcs] at hsplit
        simpa [Piece.extent, Lexeme.behind] using hsplit
      obtain ⟨others, hothers⟩ := ih hp hrest
      have hlaid := Layout.laid_split cs
      rw [hs] at hlaid
      have hbehind : Lexeme.Alike (Lexeme.read c body).rest
          (front.flatMap Piece.extent ++ other) := hrest ▸ h.append _
      have hne : (Lexeme.read c body).rest ≠ [] := by simp [hrest, hr]
      have hne' : front.flatMap Piece.extent ++ other ≠ [] := by simp [ho]
      have hstep := pieces_lexeme_append hs hlaid hbehind.follows
        (fun hk => hne (Lexeme.rest_of_unterminated hs hk)) (fun _ => iff_of_false hne hne')
      refine ⟨others, ?_⟩
      rw [List.cons_append, ← hothers, ← hstep]
      simp [Piece.extent, Lexeme.behind]

namespace Piece

theorem stop_of_getElem?_placeAll {p : Position} {list : List Piece} {k : Nat} {token : Token}
    (h : (placeAll p list)[k]? = some token) :
    token.span.stop = clampOffset (p.offset + utf8Len ((list.take (k + 1)).flatMap extent)) := by
  induction list generalizing p k with
  | nil => cases h
  | cons piece list ih =>
    cases k with
    | zero =>
      obtain rfl := Option.some.inj h
      simp [place, Token.place, Position.offset_advance, extent, String.utf8Len_append,
        Nat.add_assoc]
    | succ k =>
      rw [placeAll, List.getElem?_cons_succ] at h
      rw [ih h, List.take_succ_cons, List.flatMap_cons, String.utf8Len_append, extent,
        String.utf8Len_append, Position.offset_advance, Position.offset_advance]
      simp only [Nat.add_assoc]

theorem placeAll_take (p : Position) (list : List Piece) (n : Nat) :
    placeAll p (list.take n) = (placeAll p list).take n := by
  induction list generalizing p n with
  | nil => simp [placeAll]
  | cons piece list ih =>
    cases n with
    | zero => rfl
    | succ n => rw [List.take_succ_cons, placeAll, placeAll, List.take_succ_cons, ih]

theorem length_placeAll (p : Position) (list : List Piece) :
    (placeAll p list).length = list.length := by
  induction list generalizing p with
  | nil => rfl
  | cons piece list ih => rw [placeAll, List.length_cons, ih, List.length_cons]

end Piece

/-! ## Tokens -/

/-- A text that has the same bytes as another up to the end of a token and two bytes further has
the same tokens up to that one; or it is the other, if that has no two more bytes. -/
theorem take_tokenize_of_extract_eq {s t : String} (hs : s.utf8ByteSize < UInt32.size) {k : Nat}
    {token : Token} (hk : (tokenize s)[k]? = some token)
    (h : t.toUTF8.extract 0 (token.span.stop + 2) = s.toUTF8.extract 0 (token.span.stop + 2)) :
    (tokenize t).take (k + 1) = (tokenize s).take (k + 1) := by
  have hlength : k + 1 ≤ (pieces s.toList).length := by
    obtain ⟨hlt, -⟩ := List.getElem?_eq_some_iff.1 hk
    rwa [tokenize_eq_placeAll, Piece.length_placeAll] at hlt
  rw [tokenize_eq_placeAll] at hk
  have hstop := Piece.stop_of_getElem?_placeAll hk
  obtain ⟨front, hfront⟩ : ∃ front, front = (pieces s.toList).take (k + 1) := ⟨_, rfl⟩
  obtain ⟨rest, hrest⟩ : ∃ rest, rest = ((pieces s.toList).drop (k + 1)).flatMap Piece.extent :=
    ⟨_, rfl⟩
  have hpieces : pieces s.toList = front ++ (pieces s.toList).drop (k + 1) := by
    rw [hfront, List.take_append_drop]
  have htext : s.toList = front.flatMap Piece.extent ++ rest := by
    rw [hrest, ← List.flatMap_append, ← hpieces, flatMap_extent_pieces]
  rw [← hfront, show ({} : Position).offset = 0 from rfl, Nat.zero_add, clampOffset_of_lt ?bound]
    at hstop
  case bound =>
    have hsize := congrArg utf8Len htext
    rw [utf8Len_toList, String.utf8Len_append] at hsize
    omega
  have hagree : Agree (utf8Len (front.flatMap Piece.extent) + 2)
      (front.flatMap Piece.extent ++ rest) t.toList := by
    rw [← htext, ← hstop]
    unfold Agree
    rw [← String.toByteArray_ofList, ← String.toByteArray_ofList, String.ofList_toList,
      String.ofList_toList]
    exact h
  obtain ⟨other, hother, hagree⟩ := hagree.exists_append
  by_cases hr : rest = []
  · -- Nothing stands behind the token, so the texts are the same.
    subst hr
    rw [hagree.eq_nil (by decide), ← htext] at hother
    rw [String.toList_injective hother]
  have ho : other ≠ [] := by
    rintro rfl
    exact hr (hagree.symm.eq_nil (by decide))
  obtain ⟨others, hothers⟩ := pieces_append_of_alike hagree.alike hr ho hpieces htext
  have hfrontLength : front.length = k + 1 := by
    rw [hfront, List.length_take]
    omega
  rw [tokenize_eq_placeAll, tokenize_eq_placeAll, ← Piece.placeAll_take, ← Piece.placeAll_take,
    ← hfront, hother, hothers, ← hfrontLength, List.take_left]

/-- A minus before a dot is no number, whatever character stands behind the dot; the two texts have
only the first byte of that character in common. -/
theorem take_tokenize_of_extract_eq_minus :
    ∃ token, String.utf8ByteSize "a-.é" < UInt32.size ∧ (tokenize "a-.é")[1]? = some token ∧
      "a-.à".toUTF8.extract 0 (token.span.stop + 2) =
        "a-.é".toUTF8.extract 0 (token.span.stop + 2) ∧
      (tokenize "a-.à").take 2 = (tokenize "a-.é").take 2 := by
  have hk : (tokenize "a-.é")[1]? = some ⟨.punctuation '-', .text "-", "", ⟨1, 2⟩, 1, 2⟩ := by
    decide +kernel
  exact ⟨_, by decide, hk, by decide, take_tokenize_of_extract_eq (by decide) hk (by decide)⟩

/-- One byte would not do. -/
example : (tokenize "-.a").take 1 ≠ (tokenize "-.5").take 1 := by decide +kernel

end SqlDml
