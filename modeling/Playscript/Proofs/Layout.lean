import Playscript.Layout
import Playscript.Page.Base
import Playscript.Proofs.Path.Names

/-!
# Outputs are told apart

A layout may name one directory for everything. What keeps the outputs of a
project apart is therefore their names alone: what a name ends in tells the
kind of the output, and what it has before that the feature
(`OutputKind.of_append_eq`). For this it matters that no ending of one kind
ends in that of another. Names of features have no part in it; one may look
like a suffix, or like the beginning of another name with a suffix.

The base class of page objects is not named after a feature. It is kept apart
by its length: the name of an output is longer.
-/

namespace Playscript

/-- **The kinds of outputs.** -/
inductive OutputKind where
  /-- A step map. -/
  | stepMap
  /-- A page object. -/
  | pageObject
  /-- A test script. -/
  | spec
deriving Repr, DecidableEq

namespace OutputKind

/-- All of them. -/
def all : List OutputKind := [stepMap, pageObject, spec]

/-- What the names of outputs end in. -/
def suffix : OutputKind → String
  | stepMap => Suffix.stepMap
  | pageObject => Suffix.pageObject
  | spec => Suffix.spec

theorem mem_all (kind : OutputKind) : kind ∈ all := by cases kind <;> decide

/-- An ending belongs to one kind. -/
theorem eq_of_suffix {kind other : OutputKind}
    (h : kind.suffix.toList <:+ other.suffix.toList) : kind = other := by
  have hall : ∀ kind ∈ all, ∀ other ∈ all,
      kind.suffix.toList <:+ other.suffix.toList → kind = other := by decide
  exact hall kind kind.mem_all other other.mem_all h

/-- **The name of an output tells its kind and its feature.** -/
theorem of_append_eq {kind other : OutputKind} {base base' : String}
    (h : base ++ kind.suffix = base' ++ other.suffix) : kind = other ∧ base = base' := by
  have htext : base.toList ++ kind.suffix.toList = base'.toList ++ other.suffix.toList := by
    rw [← String.toList_append, h, String.toList_append]
  have hkind : kind = other := by
    rcases List.suffix_or_suffix_of_suffix (List.suffix_append base.toList kind.suffix.toList)
      (htext ▸ List.suffix_append base'.toList other.suffix.toList) with hends | hends
    · exact eq_of_suffix hends
    · exact (eq_of_suffix hends).symm
  subst hkind
  exact ⟨rfl, String.toList_inj.mp (List.append_cancel_right htext)⟩

/-- Endings are longer than the name of the base class, and hold no slash. -/
theorem suffix_cases (kind : OutputKind) :
    Page.baseFile.toList.length < kind.suffix.toList.length ∧ '/' ∉ kind.suffix.toList := by
  have hall : ∀ kind ∈ all, Page.baseFile.toList.length < kind.suffix.toList.length
      ∧ '/' ∉ kind.suffix.toList := by decide
  exact hall kind kind.mem_all

/-- **No output has the name of the base class.** -/
theorem append_ne_baseFile (kind : OutputKind) (base : String) :
    base ++ kind.suffix ≠ Page.baseFile := by
  intro he
  have hlong := kind.suffix_cases.1
  rw [← he, String.toList_append, List.length_append] at hlong
  omega

/-- The name of an output is one entry. -/
theorem isEntry_append (kind : OutputKind) {path : Path} {suffix base : String}
    (h : path.stem? suffix = some base) : Path.IsEntry (base ++ kind.suffix) := by
  have hbase : Page.baseFile.toList.length = 7 := by decide
  obtain ⟨hlong, hslash⟩ := kind.suffix_cases
  exact Path.isEntry_of_stem? h hslash (by omega)

end OutputKind

namespace Layout

/-- The directory of the outputs of a kind. -/
def dirOf (layout : Layout) : OutputKind → Path
  | .stepMap => layout.stepMaps
  | .pageObject => layout.pageObjects
  | .spec => layout.specs

/-- **The output of a kind** for a feature. -/
def outputOf (layout : Layout) (base : String) : OutputKind → Path
  | .stepMap => layout.stepMapOf base
  | .pageObject => layout.pageObjectOf base
  | .spec => layout.specOf base

/-- The path of the base class. -/
def baseClass (layout : Layout) : Path := layout.pageObjects.join ⟨Page.baseFile⟩

theorem outputOf_eq (layout : Layout) (base : String) (kind : OutputKind) :
    layout.outputOf base kind = (layout.dirOf kind).join ⟨base ++ kind.suffix⟩ := by
  cases kind <;> rfl

section

variable {path path' : Path} {base base' : String}
  (h : path.stem? Suffix.feature = some base) (h' : path'.stem? Suffix.feature = some base')

include h

/-- The base class is no output. -/
theorem same_baseClass (layout : Layout) (kind : OutputKind) :
    (layout.outputOf base kind).same layout.baseClass = false := by
  have hentry : Path.IsEntry Page.baseFile :=
    .of_length (List.forall_mem_ne'.mpr (by decide)) (by decide)
  rw [outputOf_eq, ← Bool.not_eq_true]
  intro hsame
  exact kind.append_ne_baseFile base
    (Path.name_eq_of_same_join (kind.isEntry_append h) hentry hsame)

include h'

/-- **Two outputs are at one path** only if they are of one kind and for one
feature. -/
theorem same_outputOf_iff (layout : Layout) (kind other : OutputKind) :
    (layout.outputOf base kind).same (layout.outputOf base' other) = true
      ↔ kind = other ∧ base = base' := by
  constructor
  · intro hsame
    rw [outputOf_eq, outputOf_eq] at hsame
    exact OutputKind.of_append_eq (Path.name_eq_of_same_join (kind.isEntry_append h)
      (other.isEntry_append h') hsame)
  · rintro ⟨rfl, rfl⟩
    exact Path.same_iff.mpr rfl

end

/-- **The outputs of features are told apart**, whatever directories a layout
names. The name of a feature is found again in the path of its step map. The
outputs of a feature and the base class are at four different paths, and an
output of another feature is at none of those of the first. -/
theorem outputs_told_apart (layout : Layout) {path path' : Path} {base base' : String}
    (h : path.stem? Suffix.feature = some base) (h' : path'.stem? Suffix.feature = some base') :
    (layout.stepMapOf base).stem? Suffix.stepMap = some base
      ∧ [layout.stepMapOf base, layout.pageObjectOf base, layout.specOf base,
          layout.pageObjects.join ⟨Page.baseFile⟩].Pairwise (fun a b => a.same b = false)
      ∧ ∀ kind other, (layout.outputOf base kind).same (layout.outputOf base' other) = true
        ↔ kind = other ∧ base = base' := by
  refine ⟨?_, ?_, same_outputOf_iff h h' layout⟩
  · have hentry : Path.IsEntry (base ++ Suffix.stepMap) := OutputKind.stepMap.isEntry_append h
    exact (Path.stem?_join _ hentry).mpr ⟨rfl, (Path.of_stem? h).1⟩
  · show (OutputKind.all.map (layout.outputOf base) ++ [layout.baseClass]).Pairwise _
    have hkinds : OutputKind.all.Pairwise (· ≠ ·) := by decide
    refine List.pairwise_append.mpr ⟨List.pairwise_map.mpr ?_, List.pairwise_singleton _ _, ?_⟩
    · refine hkinds.imp fun {kind other} hne => ?_
      rw [← Bool.not_eq_true, same_outputOf_iff h h]
      exact fun hsame => hne hsame.1
    · rw [List.forall_mem_map]
      exact fun kind _ => List.forall_mem_singleton.mpr (same_baseClass h layout kind)

/-- Features called `.` and `page` in a layout that keeps everything in one
directory, which it writes in several ways. -/
theorem outputs_told_apart_crowded :
    let layout : Layout := ⟨⟨"in"⟩, ⟨"out"⟩, ⟨"out/."⟩, ⟨"out/"⟩, ⟨"a.json"⟩, ⟨"f.json"⟩⟩
    (Path.stem? ⟨"in/..feature"⟩ Suffix.feature = some "."
        ∧ Path.stem? ⟨"in//page.feature/."⟩ Suffix.feature = some "page")
      ∧ (layout.stepMapOf ".").stem? Suffix.stepMap = some "."
      ∧ [layout.stepMapOf ".", layout.pageObjectOf ".", layout.specOf ".",
          layout.pageObjects.join ⟨Page.baseFile⟩].Pairwise (fun a b => a.same b = false)
      ∧ ∀ kind other, (layout.outputOf "." kind).same (layout.outputOf "page" other) = true
        ↔ kind = other ∧ "." = "page" := by
  have hdot : Path.stem? ⟨"in/..feature"⟩ Suffix.feature = some "." := by decide +kernel
  have hpage : Path.stem? ⟨"in//page.feature/."⟩ Suffix.feature = some "page" := by
    decide +kernel
  exact ⟨⟨hdot, hpage⟩, outputs_told_apart _ hdot hpage⟩

end Layout

end Playscript
