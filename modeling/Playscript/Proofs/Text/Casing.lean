import Mathlib.Data.List.Basic
import Playscript.Text.Casing
import Playscript.Text.Numeric
import Playscript.Text.Words

/-!
# What lower-casing a text depends on

The lower-case form of a text is found character by character but for the
capital sigma, which asks what letters stand near it. Two things follow from
what it does not ask.

It does not ask for the case of the ASCII letters, neither of those it maps
nor of those it meets on the way. So texts that differ in this alone have one
lower-case form (`lowercase_toLower`). There are only twenty-six characters to
look at: a function of characters that agrees on each ASCII capital and its
small letter agrees on every character and its ASCII lower-case form
(`apply_toLower`).

It does not ask beyond a blank, which is no letter and is not skipped. So two
texts with a blank between them are lower-cased each by itself
(`lowercase_append_blank`).

A last fact goes backwards: what is lower-cased to ASCII letters consisted of
letters (`isAlphabetic_of_lowercaseFrom`), though not always of ASCII ones.
-/

namespace Playscript.Text

/-! ## ASCII letters -/

/-- What holds of the character of each number below 128 holds of each
character of ASCII. -/
theorem forall_ascii {P : Char → Prop} (h : ∀ n < 0x80, P (Char.ofNat n)) {c : Char}
    (hc : c.toNat < 0x80) : P c := by
  have hn := h c.toNat hc
  rwa [Char.ofNat_toNat] at hn

/-- **What cannot tell a capital from its small letter** cannot tell any
character from its ASCII lower-case form. -/
theorem apply_toLower {α : Type} {f : Char → α}
    (h : ∀ n < 26, f (Char.ofNat (0x41 + n)).toLower = f (Char.ofNat (0x41 + n)))
    (c : Char) : f c.toLower = f c := by
  by_cases hc : 0x41 ≤ c.toNat ∧ c.toNat ≤ 0x5A
  · have hsame := h (c.toNat - 0x41) (by omega)
    rwa [Nat.add_sub_cancel' hc.1, Char.ofNat_toNat] at hsame
  · have hsame : c.toLower = c := dif_neg hc
    rw [hsame]

theorem toNat_of_isLower {c : Char} (h : c.isLower = true) :
    0x61 ≤ c.toNat ∧ c.toNat ≤ 0x7A := by
  unfold Char.isLower at h
  simp only [ge_iff_le, UInt32.le_iff_toNat_le, Bool.and_eq_true, decide_eq_true_eq] at h
  exact h

theorem toNat_of_isAlpha {c : Char} (h : c.isAlpha = true) :
    (0x41 ≤ c.toNat ∧ c.toNat ≤ 0x5A) ∨ (0x61 ≤ c.toNat ∧ c.toNat ≤ 0x7A) := by
  unfold Char.isAlpha at h
  rw [Bool.or_eq_true] at h
  refine h.imp (fun hupper => ?_) toNat_of_isLower
  unfold Char.isUpper at hupper
  simp only [ge_iff_le, UInt32.le_iff_toNat_le, decide_eq_true_eq] at hupper
  exact hupper

@[simp] theorem isAlphabetic_toLower (c : Char) : isAlphabetic c.toLower = isAlphabetic c :=
  apply_toLower (by decide) c

@[simp] theorem isAlphanumeric_toLower (c : Char) :
    isAlphanumeric c.toLower = isAlphanumeric c :=
  apply_toLower (by decide) c

@[simp] theorem isBlank_toLower (c : Char) : isBlank c.toLower = isBlank c :=
  apply_toLower (by decide) c

@[simp] theorem lowercaseChar_toLower (c : Char) : lowercaseChar c.toLower = lowercaseChar c :=
  apply_toLower (by decide) c

@[simp] theorem isAlphanum_toLower (c : Char) : c.toLower.isAlphanum = c.isAlphanum :=
  apply_toLower (by decide) c

@[simp] theorem toUpper_toLower (c : Char) : c.toLower.toUpper = c.toUpper :=
  apply_toLower (by decide) c

/-- A small letter is no capital. -/
@[simp] theorem isUpper_toLower (c : Char) : c.toLower.isUpper = false := by
  by_cases hc : 0x41 ≤ c.toNat ∧ c.toNat ≤ 0x5A
  · exact forall_ascii (P := fun c => c.toLower.isUpper = false) (by decide) (by omega)
  · have hsame : c.toLower = c := dif_neg hc
    rw [hsame]
    exact eq_false_of_ne_true fun hupper => hc (of_decide_eq_true hupper)

/-- What is skipped on the way to a letter is no blank, nor is it an ASCII letter. -/
theorem apart_of_mem_caseIgnorableRanges : ∀ range ∈ caseIgnorableRanges, 0x20 < range.1
    ∧ (range.2 < 0x41 ∨ 0x7A < range.1 ∨ (0x5B ≤ range.1 ∧ range.2 ≤ 0x60)) := by
  set_option maxRecDepth 4000 in decide

/-- No ASCII letter is skipped on the way to a letter. -/
theorem isCaseIgnorable_of_isAlpha {c : Char} (h : c.isAlpha = true) :
    caseIgnorableRanges.contains c = false := by
  refine eq_false_of_ne_true fun hc => ?_
  obtain ⟨range, hmem, hfirst, hlast⟩ := CodePoints.contains_iff.mp hc
  have hletter := toNat_of_isAlpha h
  obtain ⟨-, hbefore | hbehind | ⟨hbetween, hbetween'⟩⟩ :=
    apart_of_mem_caseIgnorableRanges range hmem
  · omega
  · omega
  · omega

theorem meetsCased_map_toLower (cs : List Char) :
    meetsCased (cs.map Char.toLower) = meetsCased cs := by
  have halpha : ∀ n < 26, (Char.ofNat (0x41 + n)).toLower.isAlpha = true
      ∧ (Char.ofNat (0x41 + n)).isAlpha = true := by decide
  have hskip : caseIgnorableRanges.contains ∘ Char.toLower = caseIgnorableRanges.contains :=
    funext (apply_toLower fun n hn => by
      rw [isCaseIgnorable_of_isAlpha (halpha n hn).1, isCaseIgnorable_of_isAlpha (halpha n hn).2])
  have hcased : ∀ c, casedRanges.contains c.toLower = casedRanges.contains c :=
    apply_toLower (by decide)
  unfold meetsCased
  rw [List.dropWhile_map, hskip]
  cases cs.dropWhile caseIgnorableRanges.contains with
  | nil => rfl
  | cons c rest => exact hcased c

theorem lowercaseFrom_map_toLower (before cs : List Char) :
    lowercaseFrom (before.map Char.toLower) (cs.map Char.toLower) = lowercaseFrom before cs := by
  have hsigma : ∀ c : Char, (c.toLower = 'Σ') = (c = 'Σ') :=
    apply_toLower (f := fun c => c = 'Σ') (by decide)
  induction cs generalizing before with
  | nil => rfl
  | cons c cs ih =>
    simp only [List.map_cons, lowercaseFrom, hsigma, lowercaseChar_toLower,
      meetsCased_map_toLower]
    rw [← ih (c :: before), List.map_cons]

/-- **The lower-case form does not depend on the case of ASCII letters.** -/
@[simp] theorem lowercase_toLower (s : String) : lowercase s.toLower = lowercase s := by
  unfold lowercase String.toLower
  rw [String.toList_map]
  exact congrArg String.ofList (lowercaseFrom_map_toLower [] s.toList)

/-! ## Across a blank -/

/-- A blank is not skipped on the way to a letter. -/
theorem isCaseIgnorable_blank : caseIgnorableRanges.contains ' ' = false := by
  refine eq_false_of_ne_true fun hc => ?_
  obtain ⟨range, hmem, hfirst, -⟩ := CodePoints.contains_iff.mp hc
  have hblank : ' '.toNat = 0x20 := rfl
  have hbehind := (apart_of_mem_caseIgnorableRanges range hmem).1
  omega

/-- What is behind a blank is not met. -/
theorem meetsCased_append_blank (cs far : List Char) :
    meetsCased (cs ++ ' ' :: far) = meetsCased cs := by
  have hskip := isCaseIgnorable_blank
  have hcased : casedRanges.contains ' ' = false := by decide
  unfold meetsCased
  rw [List.dropWhile_append, List.dropWhile_cons_of_neg (by simp [hskip])]
  cases cs.dropWhile caseIgnorableRanges.contains with
  | nil => exact hcased
  | cons c rest => rfl

/-- What precedes a blank does not matter behind it. -/
theorem lowercaseFrom_blank (before far cs : List Char) :
    lowercaseFrom (before ++ ' ' :: far) cs = lowercaseFrom before cs := by
  induction cs generalizing before with
  | nil => rfl
  | cons c cs ih =>
    unfold lowercaseFrom
    rw [meetsCased_append_blank, ← List.cons_append, ih]

theorem lowercaseFrom_append_blank (before cs rest : List Char) :
    lowercaseFrom before (cs ++ ' ' :: rest)
      = lowercaseFrom before cs ++ ' ' :: lowercaseFrom [] rest := by
  induction cs generalizing before with
  | nil =>
    show [' '] ++ lowercaseFrom ([] ++ ' ' :: before) rest = _
    rw [lowercaseFrom_blank]
    rfl
  | cons c cs ih =>
    rw [List.cons_append, lowercaseFrom, lowercaseFrom, meetsCased_append_blank, ih,
      List.append_assoc]

/-- **Texts with a blank between them are lower-cased each by itself.** -/
theorem lowercase_append_blank (s t : String) :
    lowercase (s ++ " " ++ t) = lowercase s ++ " " ++ lowercase t := by
  unfold lowercase
  simp only [String.toList_append, List.append_assoc]
  show String.ofList (lowercaseFrom [] (s.toList ++ ' ' :: t.toList)) = _
  rw [lowercaseFrom_append_blank, ← List.singleton_append, String.ofList_append,
    String.ofList_append, String.append_assoc]

/-! ## Back from ASCII -/

theorem isAlphabetic_of_isLower {c : Char} (h : c.isLower = true) : isAlphabetic c = true := by
  have hn := toNat_of_isLower h
  unfold isAlphabetic
  rw [if_pos (by omega)]
  unfold Char.isAlpha
  rw [h, Bool.or_true]

/-- A number that stands for a small letter of ASCII is one of ASCII. A
number that stands for no character is taken for zero, which is no letter. -/
theorem lt_of_isLower_ofNat {n : Nat} (h : (Char.ofNat n).isLower = true) : n < 0x80 := by
  by_contra hn
  by_cases hvalid : n.isValidChar
  · have hnat : (Char.ofNat n).toNat = n := by
      unfold Char.ofNat
      rw [dif_pos hvalid]
      rfl
    have hletter := toNat_of_isLower h
    omega
  · unfold Char.ofNat at h
    rw [dif_neg hvalid] at h
    exact absurd h (by decide)

/-- A run of characters from beyond ASCII is mapped to beyond ASCII, but for
the kelvin sign. -/
theorem lowercaseRuns_image : ∀ run ∈ lowercaseRuns, run.last < 0x80
    ∨ 0x80 ≤ run.first + run.offset ∨ (run.first = 0x212A ∧ run.last = 0x212A) := by
  set_option maxRecDepth 4000 in decide

/-- Of several characters in place of one, one is beyond ASCII. -/
theorem lowercaseSequences_image : ∀ entry ∈ lowercaseSequences, ∃ n ∈ entry.2, 0x80 ≤ n := by
  decide

/-- What is lower-cased to small letters of ASCII is a letter. -/
theorem isAlphabetic_of_lowercaseChar {c : Char}
    (h : ∀ d ∈ lowercaseChar c, d.isLower = true) : isAlphabetic c = true := by
  unfold lowercaseChar at h
  split at h
  · rw [← isAlphabetic_toLower]
    exact isAlphabetic_of_isLower (h _ List.mem_cons_self)
  · next hc =>
    have hto : ∀ n ∈ mapCase lowercaseRuns lowercaseSequences c.toNat, n < 0x80 := fun n hn =>
      lt_of_isLower_ofNat (h _ (List.mem_map_of_mem hn))
    unfold mapCase at hto
    split at hto
    · next image hseq =>
      obtain ⟨front, back, hentries, -⟩ := List.lookup_eq_some_iff.mp hseq
      obtain ⟨n, hn, hfar⟩ := lowercaseSequences_image (c.toNat, image) (by rw [hentries]; simp)
      have hnear := hto n hn
      omega
    · split at hto
      · next run hrun =>
        have himage := hto _ List.mem_cons_self
        have hcovers := List.find?_some hrun
        unfold CaseRun.covers at hcovers
        unfold CaseRun.image at himage
        simp only [Bool.and_eq_true, decide_eq_true_eq] at hcovers
        rcases lowercaseRuns_image run (List.mem_of_find?_eq_some hrun) with
          hlast | hfar | ⟨hfirst, hlast⟩
        · omega
        · omega
        · rw [← Char.ofNat_toNat c, show c.toNat = 0x212A by omega]
          set_option maxRecDepth 4000 in decide
      · exact absurd (hto _ List.mem_cons_self) hc

/-- **A text that is lower-cased to small letters of ASCII consists of
letters.** The capital sigma needs no thought, as it is one. -/
theorem isAlphabetic_of_lowercaseFrom {before cs : List Char}
    (h : ∀ d ∈ lowercaseFrom before cs, d.isLower = true) :
    ∀ c ∈ cs, isAlphabetic c = true := by
  induction cs generalizing before with
  | nil => exact List.forall_mem_nil _
  | cons c cs ih =>
    rw [lowercaseFrom, List.forall_mem_append] at h
    refine List.forall_mem_cons.mpr ⟨?_, ih h.2⟩
    by_cases hsigma : c = 'Σ'
    · rw [hsigma]
      decide
    · rw [if_neg hsigma] at h
      exact isAlphabetic_of_lowercaseChar h.1

end Playscript.Text
