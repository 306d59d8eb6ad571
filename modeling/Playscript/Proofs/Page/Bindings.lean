import Playscript.Path
import Playscript.Proofs.Page.Modules

/-!
# The names that the two modules bind

A script is refused as a whole if its top level binds one name twice. The
members of a class draw their names from one supply and differ, but the
names that a module binds itself are not drawn from it: those of what it
loads are fixed, and the class is named after the feature.

The name of the class is mended, and mending drops what cannot stand in a
name. Of the name of a feature it may leave nothing; then the class is called
`Page`, as is the base class that is loaded beside it
(`Page.not_forall_nodup_boundNames`). This is the only way in which names
meet, since no other fixed name has a capital letter
(`Page.boundNames_of_units`).
-/

namespace Playscript

open Script

namespace Script

/-- The names that a pattern binds. -/
def Pattern.boundNames : Pattern → List String
  | .name bound => [bound.text]
  | .members bound => bound.map (·.text)

/-- The names that a statement binds around it. -/
def Stmt.boundNames : Stmt → List String
  | .const pattern _ => pattern.boundNames
  | .classDecl decl => [decl.name.text]
  | _ => []

/-- **The names that a module binds** at its top level, in order. -/
def Module.boundNames (module : Module) : List String :=
  module.statements.flatMap Stmt.boundNames

namespace Identifier

/-- Mending a text looks at nothing but what may stand in a name. -/
theorem legalize_of_filter {raw text : String} (h : (mk text).isValid = true)
    (hraw : raw.toList.filter isNameChar = text.toList) : legalize raw = ⟨text⟩ := by
  have hself : text.toList.filter isNameChar = text.toList :=
    List.filter_eq_self.mpr (isValid_iff.mp h).1.chars
  rw [← legalize_of_isValid h]
  unfold legalize
  rw [hraw, hself]

/-- **Mending takes nothing away** from what may stand in a name. -/
theorem exists_toList_legalize (raw : String) (h : raw.toList.filter isNameChar ≠ []) :
    ∃ front back, (legalize raw).text.toList
      = front ++ raw.toList.filter isNameChar ++ back := by
  unfold legalize
  extract_lets filtered kept led name
  have hkept : kept = raw.toList.filter isNameChar :=
    if_neg (Bool.not_eq_true _ ▸ List.isEmpty_eq_false_iff.mpr h)
  have hled : ∃ front, led = front ++ raw.toList.filter isNameChar := by
    unfold led
    rw [hkept]
    split
    · exact ⟨['_'], rfl⟩
    · exact ⟨[], rfl⟩
  obtain ⟨front, hfront⟩ := hled
  have hname : name.toList = front ++ raw.toList.filter isNameChar := by
    rw [← hfront, String.toList_ofList]
  refine ⟨front, ?_⟩
  split
  · exact ⟨['_'], by rw [String.toList_append, hname]; rfl⟩
  · exact ⟨[], by rw [hname, List.append_nil]⟩

end Identifier

end Script

namespace Page

/-! ## The name of the class -/

section

variable (base : String)

/-- What is left of the name of a feature in the name of its class. -/
def leftOf : List Char :=
  (Naming.capitalize base).toList.filter Identifier.isNameChar

theorem filter_isNameChar_className :
    (Naming.capitalize base ++ "Page").toList.filter Identifier.isNameChar
      = leftOf base ++ "Page".toList := by
  rw [String.toList_append, List.filter_append]
  rfl

theorem exists_toList_classNameOf :
    ∃ front back, (classNameOf base).toList
      = front ++ (leftOf base ++ "Page".toList) ++ back := by
  have h := Identifier.exists_toList_legalize (Naming.capitalize base ++ "Page")
  rw [filter_isNameChar_className] at h
  exact h (List.append_ne_nil_of_right_ne_nil _ (by decide))

/-- **The class is called like its base class** exactly if nothing is left of
the name of the feature. -/
theorem classNameOf_eq_iff : classNameOf base = "Page" ↔ leftOf base = [] := by
  constructor
  · intro h
    obtain ⟨front, back, hname⟩ := exists_toList_classNameOf base
    rw [h] at hname
    have hlength := congrArg List.length hname
    have hPage : "Page".toList.length = 4 := by decide
    simp only [List.length_append, hPage] at hlength
    exact List.eq_nil_of_length_eq_zero (by omega)
  · intro h
    have hfilter := filter_isNameChar_className base
    rw [h, List.nil_append] at hfilter
    rw [classNameOf, Identifier.legalize_of_filter (by decide) hfilter]

/-- The class is called by no word without a capital letter. -/
theorem classNameOf_ne {word : String} (h : 'P' ∉ word.toList) : classNameOf base ≠ word := by
  rintro rfl
  obtain ⟨front, back, hname⟩ := exists_toList_classNameOf base
  refine h ?_
  rw [hname]
  simp

end

/-! ## The two modules -/

section

variable (nouns : NounFinder) (base : String) (map : StepMap) (methods : List Member)

theorem boundNames_pageModuleOf :
    (pageModuleOf base (Plan.of nouns base map) methods).boundNames
      = ["expect", "Page", classNameOf base] := by
  simp only [Module.boundNames, pageModuleOf, List.flatMap_cons, List.flatMap_nil,
    Stmt.boundNames, Pattern.boundNames, List.map, classOf, Plan.of, List.append_nil,
    List.nil_append, List.cons_append]

theorem boundNames_specModuleOf :
    (specModuleOf base (Plan.of nouns base map) methods).boundNames
      = ["test", "expect", classNameOf base] := by
  simp only [Module.boundNames, specModuleOf, specFrame, List.cons_append, List.nil_append,
    List.flatMap_cons, List.flatMap_nil, Stmt.boundNames, Pattern.boundNames, List.map, suiteOf,
    Plan.of]

theorem expect_ne_classNameOf : "expect" ≠ classNameOf base :=
  (classNameOf_ne base (by decide)).symm

/-- The names that the page object binds differ exactly if something is left of
the name of the feature. -/
theorem nodup_pageNames_iff : ["expect", "Page", classNameOf base].Nodup
    ↔ ∃ c ∈ (Naming.capitalize base).toList, Identifier.isNameChar c = true := by
  have hleft : (∃ c ∈ (Naming.capitalize base).toList, Identifier.isNameChar c = true)
      ↔ leftOf base ≠ [] := by
    rw [leftOf, Ne, List.filter_eq_nil_iff]
    push Not
    rfl
  rw [hleft, Ne, ← classNameOf_eq_iff base]
  simp [expect_ne_classNameOf, eq_comm]

theorem nodup_specNames : ["test", "expect", classNameOf base].Nodup := by
  have htest : "test" ≠ classNameOf base := (classNameOf_ne base (by decide)).symm
  simp [htest, expect_ne_classNameOf]

/-- **What the two modules bind.** The test script never binds a name twice;
the page object does so exactly if no character of the name of the feature
may stand in a name. -/
theorem boundNames_of_units :
    ∃ page spec, pageModule base (Plan.of nouns base map) = .ok page
      ∧ specModule base (Plan.of nouns base map) = .ok spec
      ∧ generate nouns base map = .ok ⟨page.write, spec.write⟩
      ∧ page.boundNames = ["expect", "Page", classNameOf base]
      ∧ spec.boundNames = ["test", "expect", classNameOf base]
      ∧ spec.boundNames.Nodup
      ∧ (page.boundNames.Nodup
        ↔ ∃ c ∈ (Naming.capitalize base).toList, Identifier.isNameChar c = true) := by
  have hplan := Plan.isSound_of nouns base map
  obtain ⟨methods, h⟩ := exists_methods hplan
  have hpage := boundNames_pageModuleOf nouns base map methods
  have hspec := boundNames_specModuleOf nouns base map methods
  refine ⟨_, _, pageModule_eq_ok hplan h base, specModule_eq_ok hplan h base,
    generate_eq_ok nouns base map h, hpage, hspec, ?_, ?_⟩
  · rw [hspec]
    exact nodup_specNames base
  · rw [hpage]
    exact nodup_pageNames_iff base

end

/-- **A page object may bind a name twice**: of the name of this feature
nothing is left, and its class is called like the base class. -/
theorem not_forall_nodup_boundNames :
    ¬ ∀ (path : Path) (base : String), path.stem? Suffix.stepMap = some base →
      ∀ (nouns : NounFinder) (map : StepMap) (page : Module),
        pageModule base (Plan.of nouns base map) = .ok page → page.boundNames.Nodup := by
  intro h
  have hplan := Plan.isSound_of Lexicon.nouns "ログイン" ⟨[], by decide⟩
  obtain ⟨methods, hmethods⟩ := exists_methods hplan
  have hstem : (Path.mk "stepMaps/ログイン.stepMap.json").stem? Suffix.stepMap = some "ログイン" := by
    decide +kernel
  have hnone : ¬ ∃ c ∈ (Naming.capitalize "ログイン").toList, Identifier.isNameChar c = true := by
    have hany : (Naming.capitalize "ログイン").toList.any Identifier.isNameChar = false := by
      decide +kernel
    rw [← List.any_eq_true, hany]
    exact Bool.false_ne_true
  have hnodup := h _ _ hstem _ _ _ (pageModule_eq_ok hplan hmethods "ログイン")
  rw [boundNames_pageModuleOf] at hnodup
  exact hnone ((nodup_pageNames_iff _).mp hnodup)

end Page

end Playscript
