import SqlDml.Text.Case

/-!
# Words in either case of their letters

* `upper_eq_of_ascii` : the full upper case of ASCII text is that of its characters;
* `upper_eq_of_toLower` : the upper case of a text that is a given word but for the case of its
  ASCII letters;
* `space_notMem_upper`, `upper_ne_empty` : words stay words in upper case;
* `apply_toLower` : what does not tell the two cases of a letter apart does not see lower case;
* `map_toLower_eq_self`, `takeWhile_toLower` : texts without letters, and runs of a class that both
  cases of a letter are in.
-/

namespace SqlDml.Text

theorem toNat_lt_of_toLower {c : Char} (h : c.toLower.toNat < 128) : c.toNat < 128 := by
  refine Nat.lt_of_not_le fun hn => ?_
  have hz : ¬(c.val ≥ 'A'.val ∧ c.val ≤ 'Z'.val) := by
    rintro ⟨-, hle⟩
    have : c.toNat ≤ 90 := hle
    omega
  have hc : c.toLower = c := dif_neg hz
  rw [hc] at h
  omega

theorem toUpper_toLower {c : Char} (h : c.toNat < 128) : c.toLower.toUpper = c.toUpper := by
  have hall : ∀ n < 128, (Char.ofNat n).toLower.toUpper = (Char.ofNat n).toUpper := by decide
  have hc := hall c.toNat h
  rwa [Char.ofNat_toNat] at hc

theorem upper_eq_of_ascii {text : String} (h : ∀ c ∈ text.toList, c.toNat < 128) :
    (upper text).toList = text.toList.map Char.toUpper := by
  rw [upper, String.toList_ofList]
  generalize text.toList = cs at h
  induction cs with
  | nil => rfl
  | cons c cs ih =>
    have hc : upperChar c = [c.toUpper] := if_pos (h c List.mem_cons_self)
    rw [List.flatMap_cons, hc, ih fun d hd => h d (List.mem_cons_of_mem c hd)]
    rfl

theorem upper_eq_of_toLower {text : String} {word : List Char}
    (h : text.toList.map Char.toLower = word) (hw : word.all (·.toNat < 128)) :
    (upper text).toList = word.map Char.toUpper := by
  have hascii : ∀ c ∈ text.toList, c.toNat < 128 := by
    intro c hc
    have hm : c.toLower ∈ word := h ▸ List.mem_map_of_mem hc
    exact toNat_lt_of_toLower (by simpa using List.all_eq_true.1 hw _ hm)
  rw [upper_eq_of_ascii hascii, ← h, List.map_map]
  refine List.map_congr_left fun c hc => ?_
  exact (toUpper_toLower (hascii c hc)).symm

/-! ## Spaces -/

theorem ofNat_ne_space {code : Nat} (h : code ≠ 32) : Char.ofNat code ≠ ' ' := by
  intro hspace
  by_cases hv : code.isValidChar
  · have hcode : Char.ofNatAux code hv = ' ' := (dif_pos hv).symm.trans hspace
    exact h (congrArg Char.toNat hcode)
  · have hnull : Char.ofNat code = '\x00' := dif_neg hv
    rw [hnull] at hspace
    exact absurd hspace (by decide)

/-- A run is moved as a whole, so it is enough to look at where it begins. -/
theorem counterpart?_ne_space {c d : Char} (h : counterpart? CaseTable.upperRuns c = some d) :
    d ≠ ' ' := by
  have hruns : ∀ run ∈ CaseTable.upperRuns, 32 < (run.first : Int) + run.shift := by decide +kernel
  obtain ⟨run, hfind, rfl⟩ := Option.map_eq_some_iff.1 h
  have hrun := hruns run (List.mem_of_find?_eq_some hfind)
  have hcovers := List.find?_some hfind
  simp only [CaseTable.CaseRun.covers, Bool.and_eq_true, decide_eq_true_eq] at hcovers
  exact ofNat_ne_space (by omega)

/-- No upper case is empty, and only that of a space has one. -/
theorem upperChar_of_ne_space {c : Char} (hc : c ≠ ' ') :
    upperChar c ≠ [] ∧ ' ' ∉ upperChar c := by
  have hascii : ∀ n < 128, Char.ofNat n ≠ ' ' → (Char.ofNat n).toUpper ≠ ' ' := by decide
  have hexpansions : ∀ entry ∈ CaseTable.upperExpansions,
      entry.2.map Char.ofNat ≠ [] ∧ ' ' ∉ entry.2.map Char.ofNat := by decide +kernel
  have hsingle {d : Char} (hd : d ≠ ' ') : [d] ≠ [] ∧ ' ' ∉ [d] :=
    ⟨List.cons_ne_nil d [], by simpa using hd.symm⟩
  unfold upperChar
  split
  · rename_i hlt
    have hupper := hascii c.toNat hlt
    rw [Char.ofNat_toNat] at hupper
    exact hsingle (hupper hc)
  split
  · rename_i codes hlookup
    obtain ⟨front, back, htable, -⟩ := List.lookup_eq_some_iff.1 hlookup
    exact hexpansions (c.toNat, codes) (by simp [htable])
  · cases hcounterpart : counterpart? CaseTable.upperRuns c with
    | none => exact hsingle hc
    | some d => exact hsingle (counterpart?_ne_space hcounterpart)

theorem space_notMem_upper {text : String} (h : ' ' ∉ text.toList) :
    ' ' ∉ (upper text).toList := by
  rw [upper, String.toList_ofList, List.mem_flatMap]
  rintro ⟨c, hc, hm⟩
  have hne : c ≠ ' ' := fun he => h (he ▸ hc)
  exact (upperChar_of_ne_space hne).2 hm

theorem upper_ne_empty {text : String} (hne : text ≠ "") (h : ' ' ∉ text.toList) :
    upper text ≠ "" := by
  obtain ⟨c, cs, ht⟩ := List.exists_cons_of_ne_nil (mt String.toList_eq_nil_iff.1 hne)
  rw [ht, List.mem_cons, not_or] at h
  intro hu
  rw [upper, String.ofList_eq_empty_iff, ht, List.flatMap_cons, List.append_eq_nil_iff] at hu
  exact (upperChar_of_ne_space (Ne.symm h.1)).1 hu.1

/-! ## The two cases of a letter -/

/-- It is enough to compare the letters one by one. -/
theorem apply_toLower {α : Type} (f : Char → α)
    (h : ∀ n < 26, f (Char.ofNat (97 + n)) = f (Char.ofNat (65 + n))) (c : Char) :
    f c.toLower = f c := by
  have hall : ∀ n < 26, (Char.ofNat (65 + n)).toLower = Char.ofNat (97 + n) := by decide
  by_cases hc : c.val ≥ 'A'.val ∧ c.val ≤ 'Z'.val
  · have hge : 65 ≤ c.toNat := hc.1
    have hle : c.toNat ≤ 90 := hc.2
    have hn := h (c.toNat - 65) (by omega)
    rwa [← hall (c.toNat - 65) (by omega), Nat.add_sub_cancel' hge, Char.ofNat_toNat] at hn
  · rw [show c.toLower = c from dif_neg hc]

theorem toLower_of_not_isAlpha {c : Char} (h : c.isAlpha = false) : c.toLower = c := by
  have hupper : c.isUpper = false := (Bool.or_eq_false_iff.1 h).1
  exact dif_neg fun hc => Bool.false_ne_true (hupper.symm.trans (decide_eq_true hc))

/-- Only a letter is the lower case of another character. -/
theorem toLower_eq_iff {c d : Char} (hd : d.isAlpha = false) : c.toLower = d ↔ c = d := by
  constructor
  · rintro rfl
    rw [apply_toLower Char.isAlpha (by decide)] at hd
    exact (toLower_of_not_isAlpha hd).symm
  · rintro rfl
    exact toLower_of_not_isAlpha hd

variable {p : Char → Bool} {cs : List Char}

theorem map_toLower_map_toLower (cs : List Char) :
    (cs.map Char.toLower).map Char.toLower = cs.map Char.toLower := by
  rw [List.map_map]
  exact List.map_congr_left fun c _ => apply_toLower Char.toLower (by decide) c

theorem map_toLower_eq_self (hp : ∀ {c}, p c → c.isAlpha = false) (h : cs.all p) :
    cs.map Char.toLower = cs := by
  rw [List.all_eq_true] at h
  have hid : ∀ c ∈ cs, c.toLower = id c := fun c hc => toLower_of_not_isAlpha (hp (h c hc))
  rw [List.map_congr_left hid, List.map_id]

theorem takeWhile_toLower (hp : ∀ c, p c.toLower = p c) (cs : List Char) :
    (cs.map Char.toLower).takeWhile p = (cs.takeWhile p).map Char.toLower := by
  rw [List.takeWhile_map, show p ∘ Char.toLower = p from funext hp]

theorem dropWhile_toLower (hp : ∀ c, p c.toLower = p c) (cs : List Char) :
    (cs.map Char.toLower).dropWhile p = (cs.dropWhile p).map Char.toLower := by
  rw [List.dropWhile_map, show p ∘ Char.toLower = p from funext hp]

end SqlDml.Text
