import SqlDml.Proofs.Lexeme.Numeral
import SqlDml.Proofs.Lexeme.Quoted

/-!
# What follows a lexeme

* `Lexeme.goesOn`, `Lexeme.Halts` : the characters that can go on a lexeme, and the texts that begin
  with none of them;
* `Lexeme.Follows` : a text that looks like another from before it;
* `Lexeme.read_append` : a lexeme is read the same before any text that looks like the one behind.

The rules look at one character past a lexeme, and past a point, a sign or a comparison at one more.
Only a percent sign tells the end of the text from a character that does not go on it, and only an
unterminated literal takes all of it.
-/

namespace SqlDml

/-! ## Texts behind a lexeme -/

namespace Lexeme

/-- The characters with which a lexeme can go on. -/
def goesOn (c : Char) : Bool :=
  isWordChar c || isSpoilt c || isComparison c || c == '\'' || c == '"' || c == '\\'

/-- Whether a text begins with no character with which a lexeme can go on. -/
def Halts (rest : List Char) : Prop := ∀ c ∈ rest.head?, goesOn c = false

/-- What is asked about the character behind `c` where `c` stands behind a lexeme. -/
def secondLook (c : Char) : List (Char → Bool) :=
  if c = '.' then [(· == '.'), Char.isDigit]
  else if c = '+' ∨ c = '-' then [Char.isDigit]
  else if isComparison c then [isComparison]
  else []

/-- Whether a text looks like `rest` from before it, or goes on no lexeme at all. -/
inductive Follows (rest : List Char) : List Char → Prop where
  | halts {other : List Char} (h : Halts other) : Follows rest other
  | same {c : Char} {cs ds : List Char} (head : rest = c :: cs)
      (second : ∀ p ∈ secondLook c, ds.head?.any p = cs.head?.any p) : Follows rest (c :: ds)

@[simp] theorem halts_nil : Halts [] := nofun

@[simp] theorem halts_cons {c : Char} {cs : List Char} : Halts (c :: cs) ↔ goesOn c = false := by
  simp [Halts]

theorem goesOn_of_isBlank {c : Char} (h : Layout.isBlank c) : goesOn c = false := by
  simp only [Layout.isBlank, Bool.or_eq_true, beq_iff_eq] at h
  rcases h with ((rfl | rfl) | rfl) | rfl <;> rfl

theorem any_eq_false_of_imp {p q : Char → Bool} {o : Option Char} (h : ∀ {c}, p c → q c)
    (hq : o.any q = false) : o.any p = false := by
  cases o with
  | none => rfl
  | some c => exact Bool.eq_false_iff.2 fun hp => Bool.eq_false_iff.1 hq (h hp)

theorem isDigit_goesOn {c : Char} (h : c.isDigit) : goesOn c := by
  simp [goesOn, isWordChar, Char.isAlphanum, h]

theorem isWordChar_goesOn {c : Char} (h : isWordChar c) : goesOn c := by simp [goesOn, h]

theorem isSpoilt_goesOn {c : Char} (h : isSpoilt c) : goesOn c := by simp [goesOn, h]

theorem isNameChar_goesOn {c : Char} (h : isNameChar c) : goesOn c :=
  isSpoilt_goesOn (by simp [isSpoilt, h])

theorem isAlphanum_goesOn {c : Char} (h : c.isAlphanum) : goesOn c :=
  isNameChar_goesOn (by simp [isNameChar, h])

theorem isComparison_goesOn {c : Char} (h : isComparison c) : goesOn c := by simp [goesOn, h]

theorem goesOn_of_mem_secondLook {c d : Char} {p : Char → Bool} (hp : p ∈ secondLook c)
    (hd : p d) : goesOn d := by
  unfold secondLook at hp
  split at hp
  · simp only [List.mem_cons, List.not_mem_nil, or_false] at hp
    rcases hp with rfl | rfl
    · rw [beq_iff_eq.1 hd]
      rfl
    · exact isDigit_goesOn hd
  split at hp
  · rw [List.mem_singleton.1 hp] at hd
    exact isDigit_goesOn hd
  split at hp
  · rw [List.mem_singleton.1 hp] at hd
    exact isComparison_goesOn hd
  · cases hp

namespace Follows

variable {rest other : List Char}

/-- A text looks the same with more behind it that goes on no lexeme. -/
theorem append_halts {more : List Char} (h : Halts more) : Follows rest (rest ++ more) := by
  cases rest with
  | nil => exact .halts h
  | cons c cs =>
    refine .same rfl fun p hp => ?_
    cases cs with
    | cons d cs => rfl
    | nil =>
      show more.head?.any p = false
      refine Bool.eq_false_iff.2 fun hany => ?_
      obtain ⟨d, hd, hpd⟩ := (Option.any_eq_true _ _).1 hany
      have hgoes := goesOn_of_mem_secondLook hp hpd
      rw [h d hd] at hgoes
      cases hgoes

/-- A class whose characters go on a lexeme is met behind it only if it was before. -/
theorem head {p : Char → Bool} (h : Follows rest other) (hp : ∀ {c}, p c → goesOn c)
    (hr : ∀ c ∈ rest.head?, p c = false) : ∀ c ∈ other.head?, p c = false := by
  cases h with
  | halts hh =>
    intro c hc
    refine Bool.eq_false_iff.2 fun hpc => ?_
    have hg := hh c hc
    rw [hp hpc] at hg
    cases hg
  | same hhead _ =>
    subst hhead
    exact hr

theorem headAny {p : Char → Bool} (h : Follows rest other) (hp : ∀ {c}, p c → goesOn c)
    (hr : rest.head?.any p = false) : other.head?.any p = false := by
  rw [Option.any_eq_false] at hr ⊢
  simpa using h.head hp (by simpa using hr)

theorem behind {c : Char} {cs : List Char} (h : Follows rest (c :: cs)) (hc : goesOn c) :
    ∃ ds, rest = c :: ds ∧ ∀ p ∈ secondLook c, cs.head?.any p = ds.head?.any p := by
  cases h with
  | halts hh =>
    rw [halts_cons, hc] at hh
    cases hh
  | same hhead hsecond => exact ⟨_, hhead, hsecond⟩

end Follows

end Lexeme

/-! ## Numerals -/

namespace Numeral

open Lexeme (Follows goesOn isSpoilt isNameChar isComparison)

variable {rest other : List Char}

theorem startsUnsigned_cons (c : Char) (cs : List Char) :
    startsUnsigned (c :: cs) = if c = '.' then cs.head?.any Char.isDigit else c.isDigit := by
  by_cases hc : c = '.'
  · subst hc
    cases cs <;> rfl
  · rw [if_neg hc, startsUnsigned.eq_2 _ _ (fun _ _ h _ => hc h)]

theorem starts_cons (c : Char) (cs : List Char) :
    starts (c :: cs) = if c = '-' then startsUnsigned cs else startsUnsigned (c :: cs) := by
  by_cases hc : c = '-'
  · subst hc
    rfl
  · rw [if_neg hc, starts.eq_2 _ (fun _ h => hc (by injection h))]

/-- No numeral begins behind a lexeme where none did before. -/
theorem startsUnsigned_follows (h : Follows rest other) (hr : startsUnsigned rest = false) :
    startsUnsigned other = false := by
  cases other with
  | nil => rfl
  | cons c cs =>
    rw [startsUnsigned_cons]
    by_cases hc : goesOn c
    · obtain ⟨ds, rfl, hsecond⟩ := h.behind hc
      rw [startsUnsigned_cons] at hr
      split
      · rename_i hpoint
        rw [if_pos hpoint] at hr
        rw [hsecond Char.isDigit (by simp [Lexeme.secondLook, hpoint]), hr]
      · rename_i hpoint
        rwa [if_neg hpoint] at hr
    · have hne : c ≠ '.' := by
        rintro rfl
        exact hc rfl
      rw [if_neg hne]
      exact Bool.eq_false_iff.2 fun hd => hc (Lexeme.isDigit_goesOn hd)

theorem starts_follows {c : Char} (h : Follows rest other) (hr : starts (c :: rest) = false) :
    starts (c :: other) = false := by
  rw [starts_cons, startsUnsigned_cons] at hr ⊢
  by_cases hm : c = '-'
  · rw [if_pos hm] at hr ⊢
    exact startsUnsigned_follows h hr
  rw [if_neg hm] at hr ⊢
  by_cases hp : c = '.'
  · rw [if_pos hp] at hr ⊢
    exact h.headAny Lexeme.isDigit_goesOn hr
  · rwa [if_neg hp] at hr ⊢

/-- A character that goes on a lexeme and did not stand behind it does not now. -/
theorem head?_ne_follows {c : Char} (h : Follows rest other) (hc : goesOn c)
    (hr : rest.head? ≠ some c) : other.head? ≠ some c := by
  intro ho
  obtain ⟨cs, rfl⟩ := List.head?_eq_some_iff.1 ho
  obtain ⟨ds, rfl, -⟩ := h.behind hc
  exact hr rfl

theorem Written.follows {n : Numeral} {stray : List Char} (h : Written n stray rest)
    (hf : Follows rest other) : Written n stray other := by
  cases h with
  | integer hw hd hp =>
    refine .integer hw (hf.head Lexeme.isDigit_goesOn hd) ?_
    rintro cs rfl
    obtain ⟨ds, rfl, hsecond⟩ := hf.behind rfl
    have hpoint := hsecond (· == '.') (by simp [Lexeme.secondLook])
    rw [hp ds rfl, Option.any_some, beq_self_eq_true, Option.any_eq_true] at hpoint
    obtain ⟨d, hd, he⟩ := hpoint
    rw [hd, beq_iff_eq.1 he]
  | real hw hp hd hpoint hm =>
    refine .real hw hp (hf.head Lexeme.isDigit_goesOn hd)
      (fun hnil => head?_ne_follows hf rfl (hpoint hnil)) fun c hc hmarker => ?_
    have hgoes : goesOn c := by rcases hmarker with rfl | rfl <;> rfl
    exact head?_ne_follows hf hgoes (fun hr => hm c hr hmarker) hc
  | scaled hw hp hm hs hne hpow hd =>
    exact .scaled hw hp hm hs hne hpow (hf.head Lexeme.isDigit_goesOn hd)
  | spoilt hw hp hm hl =>
    refine .spoilt hw hp hm ?_
    rintro sign cs rfl hs
    have hgoes : goesOn sign := by rcases hs with rfl | rfl <;> rfl
    obtain ⟨ds, rfl, hsecond⟩ := hf.behind hgoes
    rw [hsecond Char.isDigit (by rcases hs with rfl | rfl <;> simp [Lexeme.secondLook])]
    exact hl sign ds rfl hs

theorem text_read (cs : List Char) :
    (read cs).numeral.text = signText (readSign cs).1 ++
      ((readSign cs).2.takeWhile Char.isDigit ++
        (fractionText (readFraction ((readSign cs).2.dropWhile Char.isDigit)).1 ++
          exponentText (read cs).numeral.exponent)) := by
  unfold read
  dsimp only
  split
  · simp only [text, List.append_assoc]
  · rename_i h
    rw [Option.not_isSome_iff_eq_none.1 h]
    simp only [text, List.append_assoc]

theorem starts_of_startsUnsigned {cs : List Char} (h : startsUnsigned cs) : starts cs := by
  cases cs with
  | nil => cases h
  | cons c cs =>
    rw [starts_cons, if_neg]
    · exact h
    · rintro rfl
      cases h

theorem startsUnsigned_text {us : List Char} (h : startsUnsigned us) (rest : List Char) :
    startsUnsigned (us.takeWhile Char.isDigit ++
      (fractionText (readFraction (us.dropWhile Char.isDigit)).1 ++ rest)) := by
  cases us with
  | nil => cases h
  | cons c cs =>
    rw [startsUnsigned_cons] at h
    by_cases hc : c = '.'
    · subst hc
      rw [if_pos rfl, Option.any_eq_true] at h
      obtain ⟨d, hd, hdigit⟩ := h
      obtain ⟨ds, rfl⟩ := List.head?_eq_some_iff.1 hd
      have hdot : (d :: ds).head? ≠ some '.' := by
        rintro ⟨⟩
        cases hdigit
      rw [List.takeWhile_cons_of_neg (by decide), List.dropWhile_cons_of_neg (by decide),
        readFraction_some hdot, List.takeWhile_cons_of_pos hdigit]
      exact hdigit
    · rw [if_neg hc] at h
      rw [List.takeWhile_cons_of_pos h, List.cons_append, startsUnsigned_cons, if_neg hc]
      exact h

/-- The text of a numeral that is read is enough for one to begin. -/
theorem starts_text_read {cs : List Char} (h : starts cs) (rest : List Char) :
    starts ((read cs).numeral.text ++ rest) := by
  rw [text_read, List.append_assoc, List.append_assoc, List.append_assoc]
  by_cases hm : ∃ us, cs = '-' :: us
  · obtain ⟨us, rfl⟩ := hm
    exact startsUnsigned_text h _
  · have hsign : readSign cs = (false, cs) := by
      unfold readSign
      split
      · exact absurd ⟨_, rfl⟩ hm
      · rfl
    have hu : startsUnsigned cs := by
      unfold starts at h
      split at h
      · exact absurd ⟨_, rfl⟩ hm
      · exact h
    rw [hsign]
    exact starts_of_startsUnsigned (startsUnsigned_text hu _)

theorem head?_ne_of_negative {cs : List Char} (h : (readSign cs).1 = false) :
    cs.head? ≠ some '-' := by
  intro hm
  obtain ⟨us, rfl⟩ := List.head?_eq_some_iff.1 hm
  cases h

theorem negative_read (cs : List Char) : (read cs).numeral.negative = (readSign cs).1 := by
  unfold read
  dsimp only
  split <;> rfl

/-- A numeral that is read is read the same wherever its grammar lets it end. -/
theorem read_text_append_of_written {cs : List Char} (hs : starts cs)
    (h : Written (read cs).numeral (read cs).stray other) :
    read ((read cs).numeral.text ++ (read cs).stray ++ other) =
      ⟨(read cs).numeral, (read cs).stray, other⟩ := by
  refine h.read_append fun hn hminus => ?_
  obtain ⟨c, text, ht⟩ := List.exists_cons_of_ne_nil (text_read_ne_nil hs)
  have hcs := text_append_rest cs
  rw [negative_read] at hn
  rw [ht] at hcs hminus
  exact head?_ne_of_negative hn (hcs ▸ hminus)

end Numeral

/-! ## Rules -/

namespace Lexeme

variable {rest other : List Char}

theorem run_append_follows {p : Char → Bool} (hp : ∀ {c}, p c → goesOn c) {cs : List Char}
    (h : Follows (cs.dropWhile p) other) :
    (cs.takeWhile p ++ other).takeWhile p = cs.takeWhile p ∧
      (cs.takeWhile p ++ other).dropWhile p = other :=
  takeWhile_append_of_head List.all_takeWhile (h.head hp (head?_dropWhile cs))

theorem escape_append {cs : List Char} (h : Follows (escape cs).rest other) :
    escape ((escape cs).text.tail ++ other) = { escape cs with rest := other } := by
  have hsingle (hr : Follows cs other) (hn : ∀ c ∈ cs.head?, ¬(c = '\'' ∨ c = '"' ∨ c = '\\')) :
      escape other = single '\\' other := by
    cases other with
    | nil => rfl
    | cons d ds =>
      rw [escape, if_neg]
      intro hd
      have hgoes : goesOn d := by rcases hd with rfl | rfl | rfl <;> rfl
      obtain ⟨es, rfl, -⟩ := hr.behind hgoes
      exact hn d rfl hd
  cases cs with
  | nil => exact hsingle h nofun
  | cons c cs =>
    by_cases hc : c = '\'' ∨ c = '"' ∨ c = '\\'
    · simp [escape, hc]
    · simp only [escape, if_neg hc] at h ⊢
      exact hsingle h (by rintro d ⟨⟩; exact hc)

theorem quoted_append {quote : Char} {cs : List Char} (hq : quote ≠ 's')
    (hk : (quoted quote cs).kind ≠ .invalid .unterminatedLiteral) :
    quoted quote ((quoted quote cs).text.tail ++ other) =
      { quoted quote cs with rest := other } := by
  have hending : (Quoted.read quote cs).ending ≠ .missing := by
    intro hm
    exact hk (by rw [quoted, Quoted.scan_eq_read, hm]; rfl)
  have htext : (quoted quote cs).text.tail = (Quoted.read quote cs).text := by
    rw [quoted, Quoted.scan_eq_read]
    split <;> rfl
  rw [htext, quoted, quoted, Quoted.scan_eq_read, Quoted.scan_eq_read,
    Quoted.read_text_append hq hending]
  cases he : (Quoted.read quote cs).ending with
  | closed => rfl
  | placeholder => rfl
  | missing => exact absurd he hending

theorem run_append {kind : Kind} {p : Char → Bool} (hp : ∀ {c}, p c → goesOn c) {c : Char}
    {cs : List Char} (h : Follows (run kind p c cs).rest other) :
    run kind p c ((run kind p c cs).text.tail ++ other) =
      { run kind p c cs with rest := other } := by
  obtain ⟨htake, hdrop⟩ := run_append_follows hp h
  show verbatim kind (c :: (cs.takeWhile p ++ other).takeWhile p)
    ((cs.takeWhile p ++ other).dropWhile p) = _
  rw [htake, hdrop]
  rfl

theorem word_append {c : Char} {cs : List Char} (h : Follows (word c cs).rest other) :
    word c ((word c cs).text.tail ++ other) = { word c cs with rest := other } := by
  have htext : (word c cs).text.tail = cs.takeWhile isWordChar := by
    rw [word]
    split <;> rfl
  have hrest : (word c cs).rest = cs.dropWhile isWordChar := by
    rw [word]
    split <;> rfl
  rw [hrest] at h
  obtain ⟨htake, hdrop⟩ := run_append_follows isWordChar_goesOn h
  rw [htext, word, word, htake, hdrop]
  split <;> rfl

theorem dots_eq_single {cs : List Char} (hc : ¬∃ ds, cs = '.' :: '.' :: ds) :
    dots cs = single '.' cs := by
  unfold dots
  split
  · exact absurd ⟨_, rfl⟩ hc
  · rfl

theorem dots_append {cs : List Char} (h : Follows (dots cs).rest other) :
    dots ((dots cs).text.tail ++ other) = { dots cs with rest := other } := by
  by_cases hc : ∃ ds, cs = '.' :: '.' :: ds
  · obtain ⟨ds, rfl⟩ := hc
    rfl
  rw [dots_eq_single hc] at h ⊢
  refine dots_eq_single ?_
  rintro ⟨ds, hds⟩
  obtain rfl : other = '.' :: '.' :: ds := hds
  obtain ⟨es, hes, hsecond⟩ := h.behind rfl
  have hpoint := hsecond (· == '.') (by simp [secondLook])
  obtain rfl : cs = '.' :: es := hes
  cases es with
  | nil => cases hpoint
  | cons e es =>
    have he : (e == '.') = true := hpoint.symm
    exact hc ⟨es, by rw [beq_iff_eq.1 he]⟩

theorem percent_append {cs : List Char} (h : Follows (percent cs).rest other)
    (hp : (percent cs).text = ['%'] → ((percent cs).rest = [] ↔ other = [])) :
    percent ((percent cs).text.tail ++ other) = { percent cs with rest := other } := by
  cases cs with
  | nil =>
    obtain rfl : other = [] := (hp rfl).1 rfl
    rfl
  | cons c cs =>
    by_cases hc : c.isAlphanum
    · simp [percent, hc, verbatim]
    · simp only [percent, if_neg hc] at h hp ⊢
      cases other with
      | nil => cases (hp rfl).2 rfl
      | cons d ds =>
        have hd := h.head isAlphanum_goesOn (by rintro e ⟨⟩; exact Bool.eq_false_iff.2 hc) d rfl
        show percent (d :: ds) = _
        rw [percent, hd]
        rfl

/-- Where no comparison stands behind a comparison, both rules read it the same. -/
theorem comparison_eq_single {c : Char} {rest : List Char} (hc : isComparison c)
    (hr : ∀ d ∈ rest.head?, isComparison d = false) : comparison c rest = single c rest := by
  obtain ⟨htake, hdrop⟩ := @takeWhile_append_of_head _ _ [] _ rfl hr
  rw [List.nil_append] at htake hdrop
  rw [comparison, htake, hdrop]
  simp only [isComparison, Bool.or_eq_true, beq_iff_eq] at hc
  rcases hc with ((rfl | rfl) | rfl) | rfl <;> rfl

theorem comparison_append {c : Char} {cs : List Char} (hc : isComparison c)
    (h : Follows (comparison c cs).rest other) :
    comparison c ((comparison c cs).text.tail ++ other) =
      { comparison c cs with rest := other } := by
  by_cases hm : comparisons.contains (c :: cs.takeWhile isComparison)
  · simp only [comparison, if_pos hm, verbatim, List.tail_cons] at h ⊢
    obtain ⟨htake, hdrop⟩ := run_append_follows isComparison_goesOn h
    rw [htake, hdrop, if_pos hm]
  · simp only [comparison, if_neg hm] at h ⊢
    show comparison c other = single c other
    by_cases ho : comparisons.contains (c :: other.takeWhile isComparison)
    · refine comparison_eq_single hc fun d hd => Bool.eq_false_iff.2 fun hcomp => hm ?_
      -- Behind `c` stands one comparison `d` and no second one, so the same was there before.
      obtain ⟨ds, rfl⟩ := List.head?_eq_some_iff.1 hd
      obtain ⟨es, rfl, hsecond⟩ := h.behind (isComparison_goesOn hcomp)
      have hlength : ∀ text ∈ comparisons, text.length ≤ 2 := by decide
      have htwo := hlength _ (List.contains_iff_mem.1 ho)
      rw [List.takeWhile_cons_of_pos hcomp] at ho htwo ⊢
      have hds : ds.takeWhile isComparison = [] := List.length_eq_zero_iff.1 (by simpa using htwo)
      have hes : es.takeWhile isComparison = [] := by
        have hlook : isComparison ∈ secondLook d := by
          simp only [isComparison, Bool.or_eq_true, beq_iff_eq] at hcomp
          rcases hcomp with ((rfl | rfl) | rfl) | rfl <;> simp [secondLook, isComparison]
        rw [takeWhile_eq_nil_iff, ← hsecond isComparison hlook,
          ← takeWhile_eq_nil_iff, hds]
      rwa [hes, ← hds]
    · exact if_neg ho

theorem isDigit_isSpoilt {c : Char} (h : c.isDigit) : isSpoilt c := by
  simp [isSpoilt, isNameChar, Char.isAlphanum, h]

/-- Past a character that a broken number takes along, only a digit is looked for. -/
theorem eq_of_mem_secondLook {c : Char} (hc : isSpoilt c) {p : Char → Bool}
    (hp : p ∈ secondLook c) : p = Char.isDigit := by
  have hpoint : c ≠ '.' := ne_of_pred hc (by decide)
  have hcomparison : isComparison c = false := by
    refine Bool.eq_false_iff.2 fun h => ?_
    simp only [isComparison, Bool.or_eq_true, beq_iff_eq] at h
    rcases h with ((rfl | rfl) | rfl) | rfl <;> cases hc
  rw [secondLook, if_neg hpoint, hcomparison] at hp
  split at hp
  · exact List.mem_singleton.1 hp
  · cases hp

theorem Follows.append_spoilt {spoilt : List Char} (hs : spoilt.all isSpoilt)
    (hr : ∀ c ∈ rest.head?, isSpoilt c = false) (h : Follows rest other) :
    Follows (spoilt ++ rest) (spoilt ++ other) := by
  have hdigit {behind : List Char} (hb : ∀ c ∈ behind.head?, isSpoilt c = false) :
      behind.head?.any Char.isDigit = false := by
    refine Bool.eq_false_iff.2 fun h => ?_
    obtain ⟨c, hc, hd⟩ := (Option.any_eq_true _ _).1 h
    have hspoilt := hb c hc
    rw [isDigit_isSpoilt hd] at hspoilt
    cases hspoilt
  match spoilt with
  | [] => exact h
  | [c] =>
    refine .same rfl fun p hp => ?_
    rw [eq_of_mem_secondLook (by simpa using hs) hp]
    exact (hdigit (h.head isSpoilt_goesOn hr)).trans (hdigit hr).symm
  | c :: d :: spoilt => exact .same rfl fun p _ => rfl

/-- A number that is sound and in range is read as its value. -/
theorem number_of_value {cs rest : List Char} {n : Numeral} {v : Value}
    (hr : Numeral.read cs = ⟨n, [], rest⟩) (hn : rest.head?.any isNameChar = false)
    (hv : n.value? = some v) : number cs = ⟨literalKind v, v, n.text, rest⟩ := by
  simp [number, hr, hn, hv]

/-- Any other number is malformed. -/
theorem number_of_no_value {cs stray rest : List Char} {n : Numeral}
    (hr : Numeral.read cs = ⟨n, stray, rest⟩)
    (hv : ∀ v, ¬(stray = [] ∧ rest.head?.any isNameChar = false ∧ n.value? = some v)) :
    number cs = verbatim (.invalid .malformedNumber) (n.text ++ stray ++ rest.takeWhile isSpoilt)
      (rest.dropWhile isSpoilt) := by
  have hnone : (if stray.isEmpty && !rest.head?.any isNameChar then n.value? else none) = none := by
    split
    · rename_i hsound
      rw [Bool.and_eq_true, List.isEmpty_iff, Bool.not_eq_true'] at hsound
      exact Option.eq_none_iff_forall_ne_some.2 fun v h => hv v ⟨hsound.1, hsound.2, h⟩
    · rfl
  simp only [number, hr, hnone]

theorem number_append {cs : List Char} (hs : Numeral.starts cs)
    (h : Follows (number cs).rest other) :
    number ((number cs).text ++ other) = { number cs with rest := other } := by
  have hwritten := Numeral.written_read cs
  have hread {behind : List Char}
      (hb : (Numeral.read cs).numeral.Written (Numeral.read cs).stray behind) :=
    Numeral.read_text_append_of_written hs hb
  obtain ⟨n, stray, behind, hr⟩ : ∃ n stray behind, Numeral.read cs = ⟨n, stray, behind⟩ :=
    ⟨_, _, _, rfl⟩
  rw [hr] at hwritten
  simp only [hr] at hread
  by_cases hv : ∃ v, stray = [] ∧ behind.head?.any isNameChar = false ∧ n.value? = some v
  · obtain ⟨v, rfl, hn, hv⟩ := hv
    rw [number_of_value hr hn hv] at h ⊢
    have hother := hread (hwritten.follows h)
    rw [List.append_nil] at hother
    exact number_of_value hother (h.headAny isNameChar_goesOn hn) hv
  · rw [not_exists] at hv
    rw [number_of_no_value hr hv] at h ⊢
    have hspoilt := List.all_takeWhile (p := isSpoilt) (l := behind)
    have hsplit := List.takeWhile_append_dropWhile (p := isSpoilt) (l := behind)
    have hends := head?_dropWhile (p := isSpoilt) behind
    obtain ⟨htake, hdrop⟩ := run_append_follows isSpoilt_goesOn h
    -- Behind the digits stands what spoils the number, so they are followed by as much as before.
    have hfollows := h.append_spoilt hspoilt hends
    rw [hsplit] at hfollows
    have hother := number_of_no_value (hread (hwritten.follows hfollows)) fun v hv' => hv v ?_
    · rw [htake, hdrop, ← List.append_assoc] at hother
      exact hother
    · refine ⟨hv'.1, ?_, hv'.2.2⟩
      cases hsp : behind.takeWhile isSpoilt with
      | nil =>
        refine any_eq_false_of_imp (fun hc => ?_) (takeWhile_eq_nil_iff.1 hsp)
        simp [isSpoilt, hc]
      | cons d spoilt =>
        rw [hsp] at hv' hsplit
        rw [← hsplit]
        exact hv'.2.1

theorem starts_text_number {cs : List Char} (hs : Numeral.starts cs) (rest : List Char) :
    Numeral.starts ((number cs).text ++ rest) := by
  unfold number
  dsimp only
  split
  · rw [List.append_assoc]
    exact Numeral.starts_text_read hs _
  · simp only [verbatim, List.append_assoc]
    exact Numeral.starts_text_read hs _

/-! ## Lexemes -/

/-- A lexeme is read the same before any text that looks like the one behind it. -/
theorem read_append {c : Char} {cs : List Char} (h : Follows (read c cs).rest other)
    (hk : (read c cs).kind ≠ .invalid .unterminatedLiteral)
    (hp : (read c cs).text = ['%'] → ((read c cs).rest = [] ↔ other = [])) :
    read c ((read c cs).text.tail ++ other) = { read c cs with rest := other } := by
  by_cases h1 : c = '\\'
  · subst h1
    exact escape_append h
  by_cases h2 : c = '\'' ∨ c = '"'
  · have hread (cs : List Char) : read c cs = quoted c cs := by rw [read, if_neg h1, if_pos h2]
    have hs : c ≠ 's' := by rcases h2 with rfl | rfl <;> decide
    simp only [hread] at hk ⊢
    exact quoted_append hs hk
  by_cases h3 : c = '_'
  · subst h3
    exact run_append isNameChar_goesOn h
  by_cases h4 : startsWord c
  · simp only [read_of_startsWord h4] at h ⊢
    exact word_append h
  by_cases h5 : Numeral.starts (c :: cs)
  · have hread {cs : List Char} (hs : Numeral.starts (c :: cs)) :
        read c cs = number (c :: cs) := by
      rw [read, if_neg h1, if_neg h2, if_neg h3, if_neg h4, if_pos hs]
    have htext := text_read_eq_cons c cs
    rw [hread h5] at h htext ⊢
    have hnumber := number_append h5 h
    have hstarts := starts_text_number h5 other
    rw [htext, List.cons_append] at hnumber hstarts
    rw [hread hstarts, hnumber]
  have hread {cs : List Char} (hs : Numeral.starts (c :: cs) = false) :
      read c cs = if c = '.' then dots cs else if c = '%' then percent cs
        else if isComparison c then comparison c cs else single c cs := by
    rw [read, if_neg h1, if_neg h2, if_neg h3, if_neg h4, if_neg (Bool.eq_false_iff.1 hs)]
  have h5' := Bool.eq_false_iff.2 h5
  by_cases h6 : c = '.'
  · subst h6
    rw [hread h5', if_pos rfl] at h ⊢
    have hstarts : Numeral.starts ('.' :: ((dots cs).text.tail ++ other)) = false := by
      by_cases hc : ∃ ds, cs = '.' :: '.' :: ds
      · obtain ⟨ds, rfl⟩ := hc
        rfl
      · rw [dots_eq_single hc] at h ⊢
        exact Numeral.starts_follows h h5'
    rw [hread hstarts, if_pos rfl]
    exact dots_append h
  by_cases h7 : c = '%'
  · subst h7
    exact percent_append h hp
  by_cases h8 : isComparison c
  · simp only [read_of_isComparison h8] at h ⊢
    exact comparison_append h8 h
  · rw [hread h5', if_neg h6, if_neg h7, if_neg h8] at h ⊢
    have hstarts := Numeral.starts_follows h h5'
    show read c other = single c other
    rw [hread hstarts, if_neg h6, if_neg h7, if_neg h8]

/-- A lexeme that opens no comment opens none before a text that looks like its rest. -/
theorem opensComment_follows (h : Follows (read c cs).rest other)
    (ho : Layout.opensComment c cs = false) :
    Layout.opensComment c ((read c cs).text.tail ++ other) = false := by
  have hcs := text_append_rest c cs
  rw [text_read_eq_cons, List.cons_append, List.cons.injEq] at hcs
  cases ht : (read c cs).text.tail with
  | cons d text =>
    rw [ht, List.cons_append] at hcs
    rw [← hcs.2] at ho
    exact ho
  | nil =>
    rw [ht, List.nil_append] at hcs
    rw [hcs.2] at h
    simp only [Layout.opensComment, Bool.or_eq_false_iff, Bool.and_eq_false_iff,
      beq_eq_false_iff_ne] at ho ⊢
    refine ⟨ho.1, ?_⟩
    rcases ho.2 with hm | hm
    · exact .inl hm
    · exact .inr (Numeral.head?_ne_follows h rfl hm)

end Lexeme

end SqlDml
