import Playscript.Script.Identifier

/-!
# Legal names

Two functions decide what a name is, one by looking for a defect and one by
mending whatever it is given. They share no code, and every guarantee on
generated names rests on their agreement: what was mended has no defect
(`isValid_legalize`), and what has no defect is not touched
(`legalize_of_isValid`).

Mending goes through four repairs, each of which could undo an earlier one.
That none does comes down to a property of the reserved words alone: none
of them holds a digit or an underscore (`not_mem_reservedWords`). So a word
that gets an underscore is free, and so is any name with a number behind
it.
-/

namespace Playscript.Script.Identifier

/-- **The characters of a name**: at least one, all of them fit for a name,
and no digit in front. -/
structure IsName (cs : List Char) : Prop where
  /-- There is something. -/
  ne_nil : cs ≠ []
  /-- It does not begin with a digit. -/
  head : cs.head?.any Char.isDigit = false
  /-- All characters may stand in a name. -/
  chars : ∀ c ∈ cs, isNameChar c = true

/-- A name may be continued by any characters of names. -/
theorem IsName.append {cs ds : List Char} (h : IsName cs)
    (hds : ∀ c ∈ ds, isNameChar c = true) : IsName (cs ++ ds) := by
  obtain ⟨hne, hhead, hchars⟩ := h
  cases cs with
  | nil => exact absurd rfl hne
  | cons c cs =>
    refine ⟨List.cons_ne_nil _ _, hhead, fun d hd => ?_⟩
    exact (List.mem_append.mp hd).elim (hchars d) (hds d)

theorem isNameChar_of_isDigit {c : Char} (h : c.isDigit = true) : isNameChar c = true := by
  simp [isNameChar, Char.isAlphanum, h]

/-- **No reserved word holds a digit or an underscore.** -/
theorem not_mem_reservedWords {word : String} {c : Char} (hc : c ∈ word.toList)
    (h : c.isDigit = true ∨ c = '_') : word ∉ reservedWords := by
  intro hw
  -- a computation over the words, as `Bool`, for it is only then a short one
  have hall : reservedWords.all (·.toList.all fun c => !(c.isDigit || c == '_')) = true := by
    decide
  have hword := List.all_eq_true.mp (List.all_eq_true.mp hall word hw) c hc
  rcases h with h | rfl
  · rw [h] at hword
    cases hword
  · rw [beq_self_eq_true, Bool.or_true] at hword
    cases hword

/-! ## What passes the check -/

/-- **A text without a defect is a name that is not reserved.** -/
theorem defect?_eq_none_iff {text : String} :
    defect? text = none ↔ IsName text.toList ∧ text ∉ reservedWords := by
  unfold defect?
  cases ht : text.toList with
  | nil =>
    constructor
    · exact nofun
    · rintro ⟨hn, -⟩
      exact absurd rfl hn.ne_nil
  | cons c cs =>
    constructor
    · intro h
      dsimp only at h
      split at h
      · cases h
      · next hd =>
        split at h
        · cases h
        · next hf =>
          split at h
          · cases h
          · next hr =>
            refine ⟨⟨List.cons_ne_nil _ _, by simpa using hd, fun d hm => ?_⟩, by simpa using hr⟩
            simpa using List.find?_eq_none.mp hf d hm
    · rintro ⟨hn, hr⟩
      have hd : c.isDigit = false := by simpa using hn.head
      have hf : (c :: cs).find? (!isNameChar ·) = none := by
        refine List.find?_eq_none.mpr (fun d hm => ?_)
        rw [hn.chars d hm]
        exact Bool.false_ne_true
      simp only [hd, hf, Bool.false_eq_true, if_false]
      rw [if_neg (by simpa using hr)]

theorem isValid_iff {name : Identifier} :
    name.isValid = true ↔ IsName name.text.toList ∧ name.text ∉ reservedWords := by
  rw [isValid, Option.isNone_iff_eq_none, defect?_eq_none_iff]

/-- A valid name passes the check as it is. -/
theorem check_eq_ok {text : String} (h : (mk text).isValid = true) : check text = .ok ⟨text⟩ := by
  rw [check, Option.isNone_iff_eq_none.mp h]

/-! ## What is mended -/

/-- What is mended is a name, apart from the underscore that a reserved
word gets. -/
theorem exists_legalize_eq (raw : String) :
    ∃ cs, IsName cs ∧ (legalize raw).text
      = if reservedWords.contains (String.ofList cs) then String.ofList cs ++ "_"
        else String.ofList cs := by
  have hled : ∀ kept : List Char, kept ≠ [] → (∀ c ∈ kept, isNameChar c = true) →
      IsName (if kept.head?.any Char.isDigit then '_' :: kept else kept) := by
    intro kept hne hchars
    split
    · exact ⟨List.cons_ne_nil _ _, rfl, List.forall_mem_cons.mpr ⟨rfl, hchars⟩⟩
    · next hd => exact ⟨hne, by simpa using hd, hchars⟩
  refine ⟨_, hled _ ?_ ?_, rfl⟩
  · split
    · decide
    · next h => simpa using h
  · split
    · exact List.all_eq_true.mp rfl
    · exact fun c hc => (List.mem_filter.mp hc).2

/-- **What is mended has no defect.** -/
theorem isValid_legalize (raw : String) : (legalize raw).isValid = true := by
  obtain ⟨cs, hn, he⟩ := exists_legalize_eq raw
  rw [isValid_iff, he]
  split
  · -- a reserved word with an underscore behind it is no reserved word
    rw [String.toList_append, String.toList_ofList]
    refine ⟨hn.append (List.forall_mem_singleton.mpr rfl), ?_⟩
    exact not_mem_reservedWords (by simp) (Or.inr rfl)
  · next hr =>
    rw [String.toList_ofList]
    exact ⟨hn, by simpa using hr⟩

/-- **What has no defect is not touched.** -/
theorem legalize_of_isValid {text : String} (h : (mk text).isValid = true) :
    legalize text = ⟨text⟩ := by
  obtain ⟨hn, hr⟩ := isValid_iff.mp h
  have hkept : text.toList.filter isNameChar = text.toList := List.filter_eq_self.mpr hn.chars
  have hempty : text.toList.isEmpty = false := by simpa using hn.ne_nil
  have hhead : text.toList.head?.any Char.isDigit = false := hn.head
  unfold legalize
  simp only [hkept, hempty, hhead, Bool.false_eq_true, if_false, String.ofList_toList]
  rw [if_neg (by simpa using hr)]

/-! ## Agreement -/

/-- The characters of names by their ranges: ASCII letters and digits, and two
marks. -/
theorem isNameChar_iff {c : Char} :
    isNameChar c = true
      ↔ ('A' ≤ c ∧ c ≤ 'Z') ∨ ('a' ≤ c ∧ c ≤ 'z') ∨ ('0' ≤ c ∧ c ≤ '9') ∨ c = '_' ∨ c = '$' := by
  unfold isNameChar Char.isAlphanum Char.isAlpha Char.isUpper Char.isLower Char.isDigit
  simp only [Bool.or_eq_true, Bool.and_eq_true, decide_eq_true_eq, beq_iff_eq, or_assoc]
  rfl

/-- **What passes the check**, said of the text itself. -/
theorem isValid_mk_iff {text : String} :
    (mk text).isValid = true
      ↔ text ≠ ""
        ∧ (∀ c ∈ text.toList, ('A' ≤ c ∧ c ≤ 'Z') ∨ ('a' ≤ c ∧ c ≤ 'z') ∨ ('0' ≤ c ∧ c ≤ '9')
          ∨ c = '_' ∨ c = '$')
        ∧ (∀ c, text.toList.head? = some c → ¬ ('0' ≤ c ∧ c ≤ '9'))
        ∧ text ∉ reservedWords := by
  have hdigit : ∀ c : Char, c.isDigit = true ↔ '0' ≤ c ∧ c ≤ '9' := fun c => by
    simp only [Char.isDigit, Bool.and_eq_true, decide_eq_true_eq]
    rfl
  have hhead : text.toList.head?.any Char.isDigit = false
      ↔ ∀ c, text.toList.head? = some c → ¬ ('0' ≤ c ∧ c ≤ '9') := by
    cases text.toList.head? with
    | none => simp
    | some c => simp [← hdigit]
  rw [isValid_iff]
  constructor
  · rintro ⟨⟨hne, hfirst, hchars⟩, hr⟩
    exact ⟨fun he => hne (String.toList_eq_nil_iff.mpr he),
      fun c hc => isNameChar_iff.mp (hchars c hc), hhead.mp hfirst, hr⟩
  · rintro ⟨hne, hchars, hfirst, hr⟩
    exact ⟨⟨fun he => hne (String.toList_eq_nil_iff.mp he), hhead.mpr hfirst,
      fun c hc => isNameChar_iff.mpr (hchars c hc)⟩, hr⟩

/-- What passes the check is the text itself, and it is legal. -/
theorem check_eq_ok_iff {text : String} {name : Identifier} :
    check text = .ok name ↔ name = ⟨text⟩ ∧ (mk text).isValid = true := by
  constructor
  · intro h
    rw [check] at h
    split at h
    · cases h
    · next hnone =>
      obtain rfl := Except.ok.inj h
      exact ⟨rfl, Option.isNone_iff_eq_none.mpr hnone⟩
  · rintro ⟨rfl, h⟩
    exact check_eq_ok h

/-- **Checking and mending agree**, whatever the text is. The check passes the
text itself, and exactly if it is not empty, holds nothing but ASCII letters
and digits, `_` and `$`, does not begin with a digit and is not reserved. What
was mended passes the check; mending leaves a text alone exactly if the text
passes the check, and so it does nothing more when it is done again. -/
theorem check_legalize_agree (text : String) :
    (∀ name, check text = .ok name
      ↔ name = ⟨text⟩ ∧ text ≠ ""
        ∧ (∀ c ∈ text.toList, ('A' ≤ c ∧ c ≤ 'Z') ∨ ('a' ≤ c ∧ c ≤ 'z') ∨ ('0' ≤ c ∧ c ≤ '9')
          ∨ c = '_' ∨ c = '$')
        ∧ (∀ c, text.toList.head? = some c → ¬ ('0' ≤ c ∧ c ≤ '9'))
        ∧ text ∉ reservedWords)
      ∧ check (legalize text).text = .ok (legalize text)
      ∧ ((legalize text).text = text ↔ ∃ name, check text = .ok name)
      ∧ legalize (legalize text).text = legalize text := by
  have hmended := isValid_legalize text
  generalize hmend : legalize text = mended at hmended ⊢
  refine ⟨fun name => ?_, check_eq_ok hmended, ⟨fun h => ?_, ?_⟩, legalize_of_isValid hmended⟩
  · rw [check_eq_ok_iff, isValid_mk_iff]
  · exact ⟨mended, h ▸ check_eq_ok hmended⟩
  · rintro ⟨name, hname⟩
    rw [← hmend, legalize_of_isValid (check_eq_ok_iff.mp hname).2]

end Playscript.Script.Identifier
