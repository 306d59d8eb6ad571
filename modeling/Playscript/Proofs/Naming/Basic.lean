import Mathlib.Data.List.TakeWhile
import Playscript.Naming
import Playscript.Proofs.Text.Casing

/-!
# Quotes and names

Three facts on what is taken from a sentence. What it quotes is what stands
between its first two double quotes and nothing else
(`quoted?_eq_some_iff`). What it is named consists of ASCII letters and digits,
whatever the name was made of (`isAlphanum_of_mem_shortName`), so a name can be
put between quotes without a thought of what is in it. And for the same reason
a name may be empty: it is so when nothing of that kind is in what it was made
of (`camelCase_ne_empty_iff`).
-/

namespace Playscript.Naming

/-! ## Quotes -/

/-- A text with a quote in it is what stands in front of the first quote, the
quote and a rest. -/
theorem span_quote {front : List Char} (h : '"' ∉ front) (rest : List Char) :
    (front ++ '"' :: rest).takeWhile (· ≠ '"') = front
      ∧ (front ++ '"' :: rest).dropWhile (· ≠ '"') = '"' :: rest := by
  have hfront : ∀ c ∈ front, decide (c ≠ '"') = true := fun c hc =>
    decide_eq_true fun he => h (he ▸ hc)
  constructor
  · rw [List.takeWhile_append_of_pos hfront]
    exact List.append_nil _
  · rw [List.dropWhile_append_of_pos hfront]
    rfl

/-- What stands between the first two quotes of a text is quoted. -/
theorem quoted?_of_toList_eq {text : String} {before inside after : List Char}
    (h : text.toList = before ++ '"' :: (inside ++ '"' :: after))
    (hbefore : '"' ∉ before) (hinside : '"' ∉ inside) :
    quoted? text = some (String.ofList inside) := by
  unfold quoted?
  rw [h, (span_quote hbefore _).2]
  dsimp only
  rw [(span_quote hinside after).1, if_pos (by simp)]

/-- A text that quotes something has two quotes. -/
theorem exists_toList_eq_of_quoted? {text quote : String} (h : quoted? text = some quote) :
    ∃ before inside after : List Char,
      text.toList = before ++ '"' :: (inside ++ '"' :: after)
        ∧ '"' ∉ before ∧ '"' ∉ inside := by
  by_cases hopen : '"' ∈ text.toList
  · obtain ⟨before, rest, htext, hbefore⟩ := List.eq_append_cons_of_mem hopen
    unfold quoted? at h
    rw [htext, (span_quote hbefore rest).2] at h
    dsimp only at h
    split at h
    · next hcloses =>
      obtain ⟨inside, after, rfl, hinside⟩ :=
        List.eq_append_cons_of_mem (List.contains_iff_mem.mp hcloses)
      exact ⟨before, inside, after, htext, hbefore, hinside⟩
    · cases h
  · have hnone : text.toList.dropWhile (· ≠ '"') = [] :=
      List.dropWhile_eq_nil_iff.mpr fun c hc => decide_eq_true fun he => hopen (he ▸ hc)
    unfold quoted? at h
    rw [hnone] at h
    cases h

/-- **What a text quotes** is what stands between its first two quotes. -/
theorem quoted?_eq_some_iff {text quote : String} :
    quoted? text = some quote
      ↔ ∃ before after : String, text = before ++ "\"" ++ quote ++ "\"" ++ after
        ∧ '"' ∉ before.toList ∧ '"' ∉ quote.toList := by
  constructor
  · intro h
    obtain ⟨before, inside, after, htext, hbefore, hinside⟩ := exists_toList_eq_of_quoted? h
    rw [quoted?_of_toList_eq htext hbefore hinside, Option.some.injEq] at h
    subst h
    refine ⟨String.ofList before, String.ofList after, ?_, ?_, ?_⟩
    · rw [← String.toList_inj, htext]
      simp
    · rwa [String.toList_ofList]
    · rwa [String.toList_ofList]
  · rintro ⟨before, after, rfl, hbefore, hquote⟩
    have htext : (before ++ "\"" ++ quote ++ "\"" ++ after).toList
        = before.toList ++ '"' :: (quote.toList ++ '"' :: after.toList) := by simp
    rw [quoted?_of_toList_eq htext hbefore hquote, String.ofList_toList]

/-! ## Names -/

/-- A letter or digit of ASCII is one in upper case as well. -/
theorem isAlphanum_toUpper {c : Char} (h : c.isAlphanum = true) :
    c.toUpper.isAlphanum = true := by
  by_cases hascii : c.toNat < 0x80
  · exact Text.forall_ascii (P := fun c => c.isAlphanum = true → c.toUpper.isAlphanum = true)
      (by decide) hascii h
  · have hsame : c.toUpper = c := dif_neg fun hsmall => hascii (by
      have : c.val.toNat ≤ 0x7A := hsmall.2
      show c.val.toNat < 0x80
      omega)
    rwa [hsame]

/-- Whatever camel case writes is an ASCII letter or digit. -/
theorem isAlphanum_of_mem_camelFrom {cs : List Char} {started broken : Bool} {c : Char}
    (h : c ∈ camelFrom started broken cs) : c.isAlphanum = true := by
  induction cs generalizing started broken with
  | nil => exact absurd h List.not_mem_nil
  | cons d cs ih =>
    rw [camelFrom] at h
    split at h
    · next hd =>
      rcases List.mem_cons.mp h with rfl | hc
      · split
        · exact isAlphanum_toUpper hd
        · rwa [Text.isAlphanum_toLower]
      · exact ih hc
    · exact ih h

theorem isAlphanum_of_mem_camelCase {text : String} {c : Char}
    (h : c ∈ (camelCase text).toList) : c.isAlphanum = true := by
  unfold camelCase at h
  rw [String.toList_ofList] at h
  exact isAlphanum_of_mem_camelFrom h

/-- **A name consists of ASCII letters and digits**, however nouns are
found. -/
theorem isAlphanum_of_mem_shortName {nouns : NounFinder} {text : String} {c : Char}
    (h : c ∈ (shortName nouns text).toList) : c.isAlphanum = true := by
  unfold shortName at h
  split at h
  · exact isAlphanum_of_mem_camelCase h
  · split at h
    · exact isAlphanum_of_mem_camelCase h
    · exact isAlphanum_of_mem_camelCase h

/-! ## Names that are empty -/

/-- **A text with something that a name can be made of**: an ASCII letter or
digit. -/
def HasAlphanum (text : String) : Prop :=
  ∃ c ∈ text.toList, c.isAlphanum = true

instance (text : String) : Decidable (HasAlphanum text) :=
  decidable_of_iff (text.toList.any Char.isAlphanum = true) List.any_eq_true

/-- Camel case writes nothing when there is nothing it keeps. -/
theorem camelFrom_eq_nil_iff {started broken : Bool} {cs : List Char} :
    camelFrom started broken cs = [] ↔ ∀ c ∈ cs, ¬c.isAlphanum = true := by
  induction cs generalizing started broken with
  | nil => exact ⟨fun _ _ hc => absurd hc List.not_mem_nil, fun _ => rfl⟩
  | cons c cs ih =>
    rw [camelFrom, List.forall_mem_cons]
    split
    · next hc => exact ⟨fun h => absurd h (List.cons_ne_nil _ _), fun h => absurd hc h.1⟩
    · next hc => rw [ih, and_iff_right hc]

/-- **Camel case leaves something of a text** that has something for it. -/
theorem camelCase_ne_empty_iff {text : String} : camelCase text ≠ "" ↔ HasAlphanum text := by
  have hnil : camelCase text = "" ↔ camelFrom false false text.toList = [] := by
    unfold camelCase
    rw [← String.toList_inj, String.toList_ofList]
    rfl
  rw [ne_eq, hnil, camelFrom_eq_nil_iff]
  simp [HasAlphanum]

/-- Blanks between texts give a name nothing. -/
theorem hasAlphanum_spaced_iff {parts : List String} :
    HasAlphanum (spaced parts) ↔ ∃ part ∈ parts, HasAlphanum part := by
  unfold HasAlphanum spaced
  rw [String.toList_ofList]
  induction parts with
  | nil => simp
  | cons part parts ih =>
    cases parts with
    | nil => simp
    | cons next parts =>
      have hblank : ' '.isAlphanum = false := by decide
      rw [List.map_cons, List.map_cons, List.intercalate_cons_cons, ← List.map_cons,
        List.exists_mem_cons_iff, ← ih]
      simp only [List.mem_append, List.mem_singleton, or_and_right, exists_or, exists_eq_left,
        hblank, Bool.false_eq_true, or_false]

end Playscript.Naming
