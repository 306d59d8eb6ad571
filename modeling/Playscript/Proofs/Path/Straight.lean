import Playscript.Disk
import Playscript.Proofs.Path.Components

/-!
# Paths that do not lead up behind a name

Where no `..` follows a name, each name of a path leads one entry further, and
all places on the way lie above the last one. So where such a path leads is
told by what stands in front of its names, which leads to a directory that is
there, and by its names (`Path.components_of_isStraight`).

What is left of a path when its last name is taken away has no silent parts
at its end (`Path.isTidy_of_parent?`). That matters, since a lone `.` behind a
name asks for a directory to be there. Such a path says its names and nothing
else, and that it does so again for all paths above it is what makes the
making of directories an induction on names (`Path.exists_parent?_of_names`).
What that induction asks of a path is kept on the way up (`Path.IsWalkable.parent`).
-/

namespace Playscript

namespace Path

/-! ## Names -/

/-- The name of a component that is one. -/
def Component.name? : Component → Option String
  | .entry name => some name
  | _ => none

/-- **The names of a path** in order. -/
def names (path : Path) : List String :=
  path.components.filterMap Component.name?

/-- What else a path says. -/
def lead (path : Path) : List Component :=
  path.components.filter (·.name?.isNone)

/-- Whether one component may come behind another: not up behind a name. -/
def Component.Leads (before after : Component) : Prop :=
  before.name?.isSome = true → after ≠ .up

instance (before after : Component) : Decidable (before.Leads after) :=
  inferInstanceAs (Decidable (before.name?.isSome = true → after ≠ .up))

/-- **A path that does not lead up behind a name.** -/
def IsStraight (path : Path) : Prop :=
  path.components.Pairwise Component.Leads

instance (path : Path) : Decidable path.IsStraight :=
  inferInstanceAs (Decidable (path.components.Pairwise Component.Leads))

/-- A path that does not lead up at all is such a one. -/
theorem isStraight_of_not_mem {path : Path} (h : .up ∉ path.components) : path.IsStraight :=
  List.pairwise_of_forall_mem_list fun _ _ _ hm _ he => h (he ▸ hm)

/-- What a path begins with has no name. -/
theorem name?_of_mem_startOf {parts : List (List Char)} {component : Component}
    (h : component ∈ startOf parts) : component.name? = none := by
  rw [startOf.eq_def] at h
  split at h
  · cases h
  split at h
  · split at h
    · cases h
    · rw [List.mem_singleton.mp h]
      rfl
  · split at h
    · rw [List.mem_singleton.mp h]
      rfl
    · cases h

/-- Parts that never lead up say names. -/
theorem saidBy_eq_map {parts : List (List Char)} (h : .up ∉ saidBy parts) :
    saidBy parts = ((saidBy parts).filterMap Component.name?).map .entry := by
  induction parts with
  | nil => rfl
  | cons part parts ih =>
    rw [saidBy_cons, List.mem_append, not_or] at h
    rw [saidBy_cons, List.filterMap_append, List.map_append, ← ih h.2]
    congr 1
    rcases saidBy_cases part with ⟨-, hsaid⟩ | ⟨-, ⟨-, hsaid⟩ | ⟨-, hsaid⟩⟩
    · rw [hsaid]
      rfl
    · rw [hsaid] at h
      exact absurd (List.mem_singleton_self _) h.1
    · rw [hsaid]
      rfl

/-- What a part says that does not lead up is a name. -/
theorem ofList_mem_filterMap_name? {parts : List (List Char)} {part : List Char}
    (hm : part ∈ parts) (hspoken : isSilent part = false) (hup : componentOf part ≠ .up) :
    String.ofList part ∈ (saidBy parts).filterMap Component.name? := by
  have hsaid := componentOf_mem_saidBy hm hspoken
  rcases saidBy_cases part with ⟨hsilent, -⟩ | ⟨-, ⟨hlead, -⟩ | ⟨hentry, -⟩⟩
  · rw [hspoken] at hsilent
    cases hsilent
  · exact absurd hlead hup
  · rw [hentry] at hsaid
    exact List.mem_filterMap.mpr ⟨_, hsaid, rfl⟩

/-- **Parts that do not lead up behind a name** lead up first, and say names
then. -/
theorem exists_split {parts : List (List Char)} (h : (saidBy parts).Pairwise Component.Leads) :
    ∃ front back, parts = front ++ back ∧ (∀ component ∈ saidBy front, component = .up)
      ∧ .up ∉ saidBy back ∧ ∀ part, back.head? = some part → isSilent part = false := by
  induction parts with
  | nil => exact ⟨[], [], rfl, List.forall_mem_nil _, List.not_mem_nil, nofun⟩
  | cons part parts ih =>
    rw [saidBy_cons, List.pairwise_append] at h
    obtain ⟨-, hparts, hboth⟩ := h
    have hlead (hpart : ∀ component ∈ saidBy [part], component = .up) :
        ∃ front back, part :: parts = front ++ back
          ∧ (∀ component ∈ saidBy front, component = .up) ∧ .up ∉ saidBy back
          ∧ ∀ part, back.head? = some part → isSilent part = false := by
      obtain ⟨front, back, rfl, hfront, hback⟩ := ih hparts
      refine ⟨part :: front, back, rfl, ?_, hback⟩
      rw [saidBy_cons]
      exact List.forall_mem_append.mpr ⟨hpart, hfront⟩
    rcases saidBy_cases part with ⟨-, hsaid⟩ | ⟨hspoken, ⟨-, hsaid⟩ | ⟨-, hsaid⟩⟩
    · exact hlead (hsaid ▸ List.forall_mem_nil _)
    · exact hlead (hsaid ▸ List.forall_mem_singleton.mpr rfl)
    · refine ⟨[], part :: parts, rfl, List.forall_mem_nil _, ?_, ?_⟩
      · rw [saidBy_cons, hsaid, List.mem_append, List.mem_singleton]
        rintro (he | hm)
        · cases he
        · rw [hsaid] at hboth
          exact hboth _ List.mem_cons_self _ hm rfl rfl
      · rintro _ hhead
        rw [← Option.some.inj hhead]
        exact hspoken

theorem pairwise_saidBy {path : Path} (h : path.IsStraight) :
    (saidBy path.parts).Pairwise Component.Leads := by
  rw [IsStraight, components_eq] at h
  exact (List.pairwise_append.mp h).2.1

/-- What leads up, or says where to begin, has no name. -/
theorem filterMap_name?_of_forall {components : List Component}
    (h : ∀ component ∈ components, component.name? = none) :
    components.filterMap Component.name? = [] :=
  List.filterMap_eq_nil_iff.mpr h

theorem name?_of_forall_up {components : List Component}
    (h : ∀ component ∈ components, component = .up) :
    ∀ component ∈ components, component.name? = none := fun component hm => by
  rw [h component hm]
  rfl

/-- The parts behind those that lead up say the names of a path. -/
theorem names_of_split {path : Path} {front back : List (List Char)}
    (hparts : path.parts = front ++ back) (hfront : ∀ component ∈ saidBy front, component = .up) :
    path.names = (saidBy back).filterMap Component.name? := by
  rw [names, components_eq, hparts, saidBy_append, List.filterMap_append, List.filterMap_append,
    filterMap_name?_of_forall fun _ => name?_of_mem_startOf,
    filterMap_name?_of_forall (name?_of_forall_up hfront)]
  rfl

/-- What leads to the names of a path is said in front of them. -/
theorem lead_of_split {path : Path} {front back : List (List Char)}
    (hparts : path.parts = front ++ back) (hfront : ∀ component ∈ saidBy front, component = .up)
    (hback : .up ∉ saidBy back) : path.lead = path.start ++ saidBy front := by
  have hnone {components : List Component}
      (h : ∀ component ∈ components, component.name? = none) :
      components.filter (·.name?.isNone) = components :=
    List.filter_eq_self.mpr fun component hm => by rw [h component hm]; rfl
  have hstart : path.start = startOf path.parts :=
    List.append_cancel_right (components_eq path)
  have hnames : (saidBy back).filter (·.name?.isNone) = [] := by
    rw [saidBy_eq_map hback, List.filter_eq_nil_iff]
    intro component hm
    obtain ⟨name, -, rfl⟩ := List.mem_map.mp hm
    exact Bool.false_ne_true
  rw [lead, components_eq, hparts, saidBy_append, List.filter_append, List.filter_append, hnames,
    List.append_nil, hnone fun _ => name?_of_mem_startOf, hnone (name?_of_forall_up hfront),
    ← hparts, ← hstart]

/-- **A straight path is what leads to its names, and its names.** -/
theorem components_of_isStraight {path : Path} (h : path.IsStraight) :
    path.components = path.lead ++ path.names.map .entry := by
  obtain ⟨front, back, hparts, hfront, hback, -⟩ := exists_split (pairwise_saidBy h)
  rw [lead_of_split hparts hfront hback, names_of_split hparts hfront, ← saidBy_eq_map hback,
    List.append_assoc, ← saidBy_append, ← hparts]
  rfl

/-- A path with names says something. -/
theorem components_ne_nil {path : Path} (h : path.names ≠ []) : path.components ≠ [] :=
  fun hnil => h (by rw [names, hnil]; rfl)

theorem text_ne_empty {path : Path} (h : path.components ≠ []) : path.text ≠ "" := by
  intro hempty
  obtain rfl : path = ⟨""⟩ := congrArg Path.mk hempty
  exact h rfl

/-- Not more is said by the pieces of a text than it has characters. -/
theorem length_saidBy_pieces (cs : List Char) :
    (saidBy (Text.pieces (· = '/') cs)).length ≤ cs.length := by
  have hcons (part : List Char) (parts : List (List Char)) :
      (saidBy (part :: parts)).length ≤ 1 + (saidBy parts).length := by
    rw [saidBy, List.filter_cons]
    split
    · exact (Nat.add_comm _ _).le
    · exact Nat.le_add_left _ _
  induction cs with
  | nil => exact le_refl _
  | cons c cs ih =>
    rw [Text.pieces, List.length_cons]
    split
    · exact Nat.le_succ_of_le ih
    · obtain ⟨part, parts, hpieces⟩ := Text.exists_pieces_eq_cons (· = '/') cs
      have hparts : (saidBy parts).length ≤ (saidBy (part :: parts)).length := by
        rw [← List.singleton_append, saidBy_append, List.length_append]
        exact Nat.le_add_left _ _
      rw [hpieces] at ih ⊢
      refine (hcons _ _).trans ?_
      omega

/-- **A path has no more components than characters.** -/
theorem length_components_le (path : Path) :
    path.components.length ≤ path.text.toList.length := by
  rw [components_eq, List.length_append, parts]
  cases path.text.toList with
  | nil => exact le_refl _
  | cons c cs =>
    have hle := length_saidBy_pieces cs
    rw [Text.pieces, List.length_cons]
    split
    · -- the first part is empty, and says that the path begins at the top
      have hstart : (startOf ([] :: Text.pieces (· = '/') cs)).length ≤ 1 := by
        rw [startOf, if_pos rfl]
        split <;> decide
      have hsaid : saidBy ([] :: Text.pieces (· = '/') cs) = saidBy (Text.pieces (· = '/') cs) :=
        rfl
      rw [hsaid]
      omega
    · obtain ⟨part, parts, hpieces⟩ := Text.exists_pieces_eq_cons (· = '/') cs
      rw [hpieces] at hle ⊢
      rw [List.modifyHead_cons, startOf, if_neg (List.cons_ne_nil _ _)]
      have hsplit (first : List Char) :
          (saidBy (first :: parts)).length
            = (saidBy [first]).length + (saidBy parts).length := by
        rw [← List.length_append, ← saidBy_append]
        rfl
      rw [hsplit] at hle ⊢
      by_cases hdot : c :: part = ['.']
      · -- a lone dot says that the path begins here, and is silent as a part
        obtain ⟨rfl, rfl⟩ := List.cons.inj hdot
        rw [if_pos rfl]
        have hnone : (saidBy [['.']]).length = 0 := rfl
        have hone : ([.here] : List Component).length = 1 := rfl
        omega
      · rw [if_neg hdot]
        have hone : (saidBy [c :: part]).length ≤ 1 := by
          rw [saidBy, List.length_map]
          exact List.length_filter_le _ _
        have hnil : ([] : List Component).length = 0 := rfl
        omega

/-! ## Tidy paths -/

/-- **A path without silent parts at its end**, but for the top. -/
def IsTidy (path : Path) : Prop :=
  path.text = "/" ∨ withoutSilentEnd path.parts.tail = path.parts.tail

theorem withoutSilentEnd_concat (front : List (List Char)) {last : List Char}
    (h : isSilent last = false) : withoutSilentEnd (front ++ [last]) = front ++ [last] :=
  List.rdropWhile_concat_neg isSilent front last (by rw [h]; exact Bool.false_ne_true)

/-- Where nothing silent is at the end, the last part is not. -/
theorem isSilent_eq_false_of_concat {front : List (List Char)} {last : List Char}
    (h : withoutSilentEnd (front ++ [last]) = front ++ [last]) : isSilent last = false := by
  refine eq_false_of_ne_true fun hsilent => ?_
  have hdrop : withoutSilentEnd (front ++ [last]) = withoutSilentEnd front :=
    List.rdropWhile_concat_pos isSilent front last hsilent
  have hle : (withoutSilentEnd front).length ≤ front.length :=
    (List.rdropWhile_prefix isSilent front).length_le
  have hlength := congrArg List.length (hdrop.symm.trans h)
  rw [List.length_append, List.length_singleton] at hlength
  omega

/-- The last part of a tidy path is not silent, if another that is not stands
in front of it. -/
theorem IsTidy.isSilent_eq_false {path : Path} (h : path.IsTidy) {front init : List (List Char)}
    {first last : List Char} (hparts : path.parts = front ++ first :: (init ++ [last]))
    (hfirst : isSilent first = false) : isSilent last = false := by
  rcases h with htop | htidy
  · obtain rfl : path = ⟨"/"⟩ := congrArg Path.mk htop
    have hall : ∀ part ∈ (⟨"/"⟩ : Path).parts, isSilent part = true := by decide
    rw [hall first (hparts ▸ List.mem_append_right _ List.mem_cons_self)] at hfirst
    cases hfirst
  · obtain ⟨others, hothers⟩ : ∃ others, path.parts.tail = others ++ [last] := by
      rw [hparts]
      cases front with
      | nil => exact ⟨init, rfl⟩
      | cons part front =>
        refine ⟨front ++ first :: init, ?_⟩
        rw [List.cons_append, List.tail_cons, List.append_assoc]
        rfl
    rw [hothers] at htidy
    exact isSilent_eq_false_of_concat htidy

theorem isTidy_join (path : Path) {name : String} (h : IsEntry name) :
    (path.join ⟨name⟩).IsTidy := by
  refine .inr ?_
  rw [parts_join path h]
  cases (if path.parts.getLast? = some [] then path.parts.dropLast else path.parts) with
  | nil => rfl
  | cons first front =>
    rw [List.cons_append, List.tail_cons]
    exact withoutSilentEnd_concat front h.silent

/-- Parts with slashes between them have no characters but theirs. -/
theorem mem_ofParts {parts : List (List Char)} {c : Char} (h : c ∈ (ofParts parts).text.toList) :
    c = '/' ∨ ∃ part ∈ parts, c ∈ part := by
  rw [ofParts, String.toList_ofList] at h
  induction parts with
  | nil => cases h
  | cons part parts ih =>
    cases parts with
    | nil =>
      rw [List.intercalate_singleton] at h
      exact .inr ⟨part, List.mem_cons_self, h⟩
    | cons next parts =>
      rw [List.intercalate_cons_cons, List.mem_append, List.mem_append, List.mem_singleton] at h
      rcases h with (h | h) | h
      · exact .inr ⟨part, List.mem_cons_self, h⟩
      · exact .inl h
      · rcases ih h with hslash | ⟨other, hm, hc⟩
        · exact .inl hslash
        · exact .inr ⟨other, List.mem_cons_of_mem _ hm, hc⟩

/-- The path above another is empty, or the top, or made of parts of the
other. -/
theorem parent?_cases {path parent : Path} (h : path.parent? = some parent) :
    parent.text = "" ∨ parent.text = "/"
      ∨ ∃ first rest, parent = ofParts (first :: withoutSilentEnd rest)
        ∧ first :: withoutSilentEnd rest ⊆ path.parts := by
  rw [parent?] at h
  split at h
  · cases h
  next first rest hparts =>
  split at h
  · split at h
    · cases h
    · exact .inl (by rw [← Option.some.inj h])
  · split at h
    · exact .inr (.inl (by rw [← Option.some.inj h]))
    · refine .inr (.inr ⟨first, (withoutSilentEnd rest).dropLast, (Option.some.inj h).symm, ?_⟩)
      rw [hparts]
      exact List.cons_subset_cons first fun part hm => mem_of_mem_withoutSilentEnd
        (List.dropLast_subset _ (mem_of_mem_withoutSilentEnd hm))

/-- **The path above another is tidy.** -/
theorem isTidy_of_parent? {path parent : Path} (h : path.parent? = some parent) :
    parent.IsTidy := by
  rcases parent?_cases h with hempty | htop | ⟨first, rest, rfl, hsub⟩
  · refine .inr ?_
    rw [parts, hempty]
    rfl
  · exact .inl htop
  · refine .inr ?_
    rw [parts_ofParts (List.cons_ne_nil _ _) fun part hm => cut_of_mem_parts (hsub hm)]
    exact List.rdropWhile_idempotent isSilent rest

/-- It has no characters of its own but slashes. -/
theorem mem_of_parent? {path parent : Path} (h : path.parent? = some parent) {c : Char}
    (hc : c ∈ parent.text.toList) : c ∈ path.text.toList ∨ c = '/' := by
  rcases parent?_cases h with hempty | htop | ⟨first, rest, rfl, hsub⟩
  · rw [hempty] at hc
    cases hc
  · rw [htop] at hc
    exact .inr (List.mem_singleton.mp hc)
  · rcases mem_ofParts hc with hslash | ⟨part, hm, hc⟩
    · exact .inr hslash
    · exact .inl (Text.mem_of_mem_pieces (hsub hm) hc)

/-- **A straight path with names has one above it**, without the last of
them. -/
theorem exists_parent?_of_names {path : Path} (hstraight : path.IsStraight) {above : List String}
    {name : String} (h : path.names = above ++ [name]) :
    ∃ parent, path.parent? = some parent ∧ parent.components = path.components.dropLast
      ∧ parent.names = above ∧ parent.lead = path.lead := by
  have hcomponents : path.components = (path.lead ++ above.map .entry) ++ [.entry name] := by
    rw [components_of_isStraight hstraight, h, List.map_append, List.append_assoc]
    rfl
  have hname : path.fileName? = some name := by
    rw [fileName?, hcomponents, List.getLast?_concat]
  obtain ⟨parent, hparent, hdrop⟩ := exists_parent?_eq_some hname
  refine ⟨parent, hparent, hdrop, ?_, ?_⟩
  · have hnames : path.names = parent.names ++ [name] := by
      rw [names, components_eq_concat hname, ← hdrop, List.filterMap_append]
      rfl
    exact List.append_cancel_right (hnames.symm.trans h)
  · rw [lead, lead, components_eq_concat hname, ← hdrop, List.filter_append]
    exact (List.append_nil _).symm

theorem isStraight_of_parent {path parent : Path} (h : path.IsStraight)
    (hparent : parent.components = path.components.dropLast) : parent.IsStraight := by
  rw [IsStraight, hparent]
  exact h.sublist (List.dropLast_sublist _)

/-! ## Walkable paths -/

/-- **A path that is walked from name to name**: nothing it says leads up behind
a name or asks at its end for a directory, and it has no null character. -/
structure IsWalkable (path : Path) : Prop where
  /-- It does not lead up behind a name. -/
  straight : path.IsStraight
  /-- It has no silent parts at its end. -/
  tidy : path.IsTidy
  /-- It has no null character. -/
  null_not_mem : '\x00' ∉ path.text.toList

section

variable {path : Path} {front : List String} {name : String}

/-- A path with a last name says something. -/
theorem components_ne_nil_of_names (h : path.names = front ++ [name]) : path.components ≠ [] := by
  refine components_ne_nil ?_
  rw [h]
  exact List.append_ne_nil_of_right_ne_nil front (List.cons_ne_nil name [])

/-- **The path above a walkable one is walkable**, and it leads to where the
names but the last lead from the same place. -/
theorem IsWalkable.parent {parent : Path} (h : path.IsWalkable)
    (hnames : path.names = front ++ [name]) (hparent : path.parent? = some parent) :
    parent.IsWalkable ∧ parent.names = front ∧ parent.lead = path.lead := by
  obtain ⟨_, hsame, hdrop, hfront, hlead⟩ := exists_parent?_of_names h.straight hnames
  obtain rfl := Option.some.inj (hparent.symm.trans hsame)
  refine ⟨⟨isStraight_of_parent h.straight hdrop, isTidy_of_parent? hparent, fun hm => ?_⟩,
    hfront, hlead⟩
  exact (mem_of_parent? hparent hm).elim h.null_not_mem (by decide)

end

end Path

end Playscript
