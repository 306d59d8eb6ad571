import Playscript.Path
import Playscript.Proofs.Text.Pieces

/-!
# What a path says when its last name is changed

Operations on paths work on the text, and where a path leads depends on its
components only. So each operation gets one equation for the components of
its result, and nothing else is asked about its text.

The text is followed through its parts. Those are cut at slashes and put
together with slashes, which undo each other
(`Text.pieces_intercalate`), and the components are found in them without the
text (`components_eq`). What makes the taking away of the last name work is
that parts which say nothing may go with it: they have no component.
-/

namespace Playscript

namespace Path

/-! ## Components from parts -/

/-- What begins the components, found in the parts. -/
def startOf : List (List Char) → List Component
  | [] => []
  | first :: rest =>
    if first = [] then if rest = [] then [] else [.root]
    else if first = ['.'] then [.here]
    else []

/-- The components of the parts that say something. -/
def saidBy (parts : List (List Char)) : List Component :=
  (parts.filter (!isSilent ·)).map componentOf

theorem saidBy_append (parts others : List (List Char)) :
    saidBy (parts ++ others) = saidBy parts ++ saidBy others := by
  rw [saidBy, List.filter_append, List.map_append]
  rfl

theorem saidBy_of_silent {parts : List (List Char)} (h : ∀ part ∈ parts, isSilent part = true) :
    saidBy parts = [] := by
  rw [saidBy, List.filter_eq_nil_iff.mpr, List.map_nil]
  intro part hm
  rw [h part hm]
  exact Bool.false_ne_true

theorem saidBy_singleton {part : List Char} (h : isSilent part = false) :
    saidBy [part] = [componentOf part] := by
  rw [saidBy, List.filter_cons, if_pos (by rw [h]; rfl)]
  rfl

theorem componentOf_mem_saidBy {parts : List (List Char)} {part : List Char} (hm : part ∈ parts)
    (h : isSilent part = false) : componentOf part ∈ saidBy parts :=
  List.mem_map_of_mem (List.mem_filter.mpr ⟨hm, by rw [h]; rfl⟩)

/-- A part says nothing, or leads up, or says a name. -/
theorem saidBy_cases (part : List Char) :
    isSilent part = true ∧ saidBy [part] = []
      ∨ isSilent part = false ∧ (componentOf part = .up ∧ saidBy [part] = [.up]
        ∨ componentOf part = .entry (String.ofList part)
          ∧ saidBy [part] = [.entry (String.ofList part)]) := by
  cases hsilent : isSilent part with
  | true => exact .inl ⟨rfl, saidBy_of_silent (List.forall_mem_singleton.mpr hsilent)⟩
  | false =>
    rw [saidBy_singleton hsilent, componentOf]
    refine .inr ⟨rfl, ?_⟩
    split
    · exact .inl ⟨rfl, rfl⟩
    · exact .inr ⟨rfl, rfl⟩

theorem saidBy_cons (part : List Char) (parts : List (List Char)) :
    saidBy (part :: parts) = saidBy [part] ++ saidBy parts :=
  saidBy_append [part] parts

theorem parts_ne_nil (path : Path) : path.parts ≠ [] := Text.pieces_ne_nil _ _

/-- **Components depend on the parts only.** -/
theorem components_eq (path : Path) :
    path.components = startOf path.parts ++ saidBy path.parts := by
  have hstart : path.start = startOf path.parts := by
    rw [start, isAbsolute, parts]
    cases path.text.toList with
    | nil => rfl
    | cons c rest =>
      obtain ⟨piece, others, hpieces⟩ := Text.exists_pieces_eq_cons (· = '/') rest
      rw [Text.pieces]
      by_cases hc : c = '/'
      · rw [hc, hpieces]
        rfl
      · have hcut : ¬ decide (c = '/') = true := by simpa using hc
        have habsolute : ¬ decide (List.head? (c :: rest) = some '/') = true := by simpa using hc
        rw [if_neg hcut, if_neg habsolute, hpieces, List.modifyHead_cons, List.head?_cons,
          startOf, if_neg (List.cons_ne_nil c piece)]
        simp only [Option.some.injEq]
  rw [components, hstart]
  rfl

/-! ## Joining a name -/

/-- **A name that is one entry**, wherever it stands. -/
structure IsEntry (name : String) : Prop where
  /-- It holds no slash. -/
  slash : ∀ c ∈ name.toList, c ≠ '/'
  /-- It says something. -/
  silent : isSilent name.toList = false
  /-- It does not lead up. -/
  up : name.toList ≠ ['.', '.']

/-- A name of some length is neither silent nor leads up. -/
theorem IsEntry.of_length {name : String} (h : ∀ c ∈ name.toList, c ≠ '/')
    (hlength : 3 ≤ name.toList.length) : IsEntry name := by
  have hne : ∀ cs : List Char, cs.length < 3 → name.toList ≠ cs := fun cs hcs he =>
    absurd (he ▸ hlength) (Nat.not_le_of_lt hcs)
  refine ⟨h, ?_, hne _ (by decide)⟩
  rw [isSilent, Bool.or_eq_false_iff, decide_eq_false_iff_not, decide_eq_false_iff_not]
  exact ⟨hne _ (by decide), hne _ (by decide)⟩

theorem IsEntry.toList_ne_nil {name : String} (h : IsEntry name) : name.toList ≠ [] := by
  intro hnil
  have hsilent := h.silent
  rw [hnil] at hsilent
  cases hsilent

/-- An entry leads nowhere from the top. -/
theorem IsEntry.isAbsolute_eq {name : String} (h : IsEntry name) : isAbsolute ⟨name⟩ = false := by
  rw [isAbsolute]
  cases htext : name.toList with
  | nil => rfl
  | cons c cs =>
    have hc : c ≠ '/' := h.slash c (htext ▸ List.mem_cons_self)
    simpa using hc

theorem IsEntry.componentOf_eq {name : String} (h : IsEntry name) :
    componentOf name.toList = .entry name := by
  rw [componentOf, if_neg h.up, String.ofList_toList]

theorem IsEntry.saidBy_eq {name : String} (h : IsEntry name) :
    saidBy [name.toList] = [.entry name] := by
  rw [saidBy_singleton h.silent, h.componentOf_eq]

/-- Nothing begins with a name. -/
theorem IsEntry.startOf_eq {name : String} (h : IsEntry name) : startOf [name.toList] = [] := by
  have hsilent := h.silent
  rw [isSilent, Bool.or_eq_false_iff, decide_eq_false_iff_not, decide_eq_false_iff_not] at hsilent
  rw [startOf, if_neg hsilent.1, if_neg hsilent.2]

theorem IsEntry.pieces_eq {name : String} (h : IsEntry name) :
    Text.pieces (· = '/') name.toList = [name.toList] :=
  Text.pieces_of_forall fun c hc => decide_eq_false (h.slash c hc)

/-- What begins the components is not changed by parts behind, but where
there is nothing so far. -/
theorem startOf_append {parts : List (List Char)} (h : parts ≠ []) (hone : parts ≠ [[]])
    (others : List (List Char)) : startOf (parts ++ others) = startOf parts := by
  cases parts with
  | nil => exact absurd rfl h
  | cons first rest =>
    rw [List.cons_append, startOf, startOf]
    by_cases hfirst : first = []
    · have hrest : rest ≠ [] := by
        rintro rfl
        exact hone (by rw [hfirst])
      rw [if_pos hfirst, if_pos hfirst, if_neg hrest,
        if_neg (List.append_ne_nil_of_left_ne_nil hrest _)]
    · rw [if_neg hfirst, if_neg hfirst]

/-- It is the same whatever the last part is, if it is not the only one. -/
theorem startOf_concat {parts : List (List Char)} (h : parts ≠ []) (last other : List Char) :
    startOf (parts ++ [last]) = startOf (parts ++ [other]) := by
  cases parts with
  | nil => exact absurd rfl h
  | cons first rest =>
    rw [List.cons_append, List.cons_append, startOf, startOf]
    simp only [List.append_eq_nil_iff, List.cons_ne_nil, and_false, if_false]

/-- **Joining a name adds a part**, in place of an empty one at the end. -/
theorem parts_join (path : Path) {name : String} (h : IsEntry name) :
    (path.join ⟨name⟩).parts
      = (if path.parts.getLast? = some [] then path.parts.dropLast else path.parts)
        ++ [name.toList] := by
  have hslash : decide ('/' = '/') = true := rfl
  rw [join, h.isAbsolute_eq, if_neg Bool.false_ne_true]
  rcases List.eq_nil_or_concat' path.text.toList with hnil | ⟨front, last, hlast⟩
  · have hend : path.text.toList.getLast?.all (· = '/') = true := by rw [hnil]; rfl
    have hparts : path.parts = [[]] := by rw [parts, hnil]; rfl
    rw [if_pos hend, hparts, parts, String.toList_append, hnil, List.nil_append]
    exact h.pieces_eq
  · by_cases hend : last = '/'
    · rw [hend] at hlast
      have hall : path.text.toList.getLast?.all (· = '/') = true := by
        rw [hlast, List.getLast?_concat]
        rfl
      have hparts : path.parts = Text.pieces (· = '/') front ++ [[]] := by
        rw [parts, hlast, Text.pieces_append_cons front hslash]
        rfl
      rw [if_pos hall, hparts, List.getLast?_concat, if_pos rfl, List.dropLast_concat, parts,
        String.toList_append, hlast, List.append_assoc, List.singleton_append,
        Text.pieces_append_cons front hslash]
      exact congrArg _ h.pieces_eq
    · have hall : ¬ path.text.toList.getLast?.all (· = '/') = true := by
        rw [hlast, List.getLast?_concat]
        simpa using hend
      have hparts : path.parts.getLast? ≠ some [] := by
        rw [parts, hlast]
        exact Text.getLast?_pieces_concat front (decide_eq_false hend)
      rw [if_neg hall, if_neg hparts, parts, String.toList_append, String.toList_append,
        List.append_assoc, show "/".toList = ['/'] from rfl, List.singleton_append,
        Text.pieces_append_cons _ hslash]
      exact congrArg _ h.pieces_eq

/-- **Joining a name adds a component.** -/
theorem components_join (path : Path) {name : String} (h : IsEntry name) :
    (path.join ⟨name⟩).components = path.components ++ [.entry name] := by
  rw [components_eq, components_eq, parts_join path h]
  split
  · next hempty =>
    obtain ⟨front, hparts⟩ := List.getLast?_eq_some_iff.mp hempty
    have hsaid : saidBy [[]] = [] := rfl
    rw [hparts, List.dropLast_concat, saidBy_append, saidBy_append, h.saidBy_eq, hsaid,
      List.append_nil, ← List.append_assoc]
    -- the empty part said nothing, and what is put in its place begins nothing
    cases front with
    | nil =>
      rw [List.nil_append, h.startOf_eq]
      rfl
    | cons first front => rw [startOf_concat (List.cons_ne_nil first front) name.toList []]
  · next hfull =>
    have hone : path.parts ≠ [[]] := fun he => hfull (by rw [he]; rfl)
    rw [startOf_append path.parts_ne_nil hone, saidBy_append, h.saidBy_eq, List.append_assoc]

/-! ## Taking the last name away -/

/-- Parts at the end that say nothing have no components. -/
theorem saidBy_withoutSilentEnd (parts : List (List Char)) :
    saidBy (withoutSilentEnd parts) = saidBy parts := by
  have hsilent : saidBy (parts.rtakeWhile isSilent) = [] :=
    saidBy_of_silent fun _ => List.mem_rtakeWhile_imp
  have hboth := congrArg saidBy (List.rdropWhile_append_rtakeWhile (p := isSilent) (l := parts))
  rw [saidBy_append, hsilent, List.append_nil] at hboth
  exact hboth

theorem mem_of_mem_withoutSilentEnd {parts : List (List Char)} {part : List Char}
    (h : part ∈ withoutSilentEnd parts) : part ∈ parts :=
  (List.rdropWhile_prefix isSilent parts).subset h

/-- The last of the parts that are left says something. -/
theorem exists_withoutSilentEnd_eq {parts : List (List Char)} (h : withoutSilentEnd parts ≠ []) :
    ∃ front last, withoutSilentEnd parts = front ++ [last] ∧ isSilent last = false := by
  refine ⟨(withoutSilentEnd parts).dropLast, (withoutSilentEnd parts).getLast h,
    (List.dropLast_append_getLast h).symm, ?_⟩
  exact eq_false_of_ne_true (List.rdropWhile_last_not isSilent parts h)

/-- What stands between slashes holds none. -/
theorem cut_of_mem_parts {path : Path} {part : List Char} (h : part ∈ path.parts) :
    ∀ c ∈ part, decide (c = '/') = false := fun _ => Text.cut_of_mem_pieces h

/-- Parts that are put together are the parts of the path. -/
theorem parts_ofParts {parts : List (List Char)} (hne : parts ≠ [])
    (h : ∀ part ∈ parts, ∀ c ∈ part, decide (c = '/') = false) : (ofParts parts).parts = parts := by
  rw [Path.parts, ofParts, String.toList_ofList]
  exact Text.pieces_intercalate rfl hne h

/-- Where only the first part says something, it is the name, and nothing
stands in front of it. -/
theorem startOf_eq_nil_of_getLast? {first : List Char} {rest : List (List Char)} {name : String}
    (h : (startOf (first :: rest) ++ saidBy [first]).getLast? = some (.entry name)) :
    first ≠ [] ∧ startOf (first :: rest) = [] ∧ saidBy [first] = [componentOf first] := by
  by_cases hempty : first = []
  · rw [hempty, startOf, if_pos rfl] at h
    split at h <;> cases h
  by_cases hdot : first = ['.']
  · rw [hdot] at h
    cases h
  · refine ⟨hempty, ?_, saidBy_singleton ?_⟩
    · rw [startOf, if_neg hempty, if_neg hdot]
    · rw [isSilent, decide_eq_false hempty, decide_eq_false hdot]
      rfl

/-- The name at the end of a path is its last component. -/
theorem getLast?_of_fileName? {path : Path} {name : String} (h : path.fileName? = some name) :
    path.components.getLast? = some (.entry name) := by
  rw [fileName?] at h
  split at h
  · next hlast => rw [hlast, Option.some.inj h]
  · cases h

/-- Where nothing is said behind the first part, that part is the name, and
nothing is left without it. -/
theorem parent?_of_silent {path : Path} {first : List Char} {rest : List (List Char)}
    {name : String} (hparts : path.parts = first :: rest) (hnil : withoutSilentEnd rest = [])
    (hlast : path.components.getLast? = some (.entry name)) :
    path.parent? = some ⟨""⟩ ∧ path.components.dropLast = [] := by
  have hsaid : saidBy (first :: rest) = saidBy [first] := by
    have hrest : saidBy rest = [] := by
      rw [← saidBy_withoutSilentEnd, hnil]
      rfl
    rw [saidBy_cons, hrest, List.append_nil]
  rw [components_eq, hparts, hsaid] at hlast ⊢
  obtain ⟨hne, hstart, hfirst⟩ := startOf_eq_nil_of_getLast? hlast
  refine ⟨?_, ?_⟩
  · rw [parent?, hparts]
    dsimp only
    rw [hnil]
    exact if_neg hne
  · rw [hstart, hfirst]
    rfl

/-- Where something is said behind the first part, the last part that says
something is taken away, with what is silent on either side of it. -/
theorem exists_parent?_of_spoken {path : Path} {first last : List Char}
    {rest front : List (List Char)} (hparts : path.parts = first :: rest)
    (hfront : withoutSilentEnd rest = front ++ [last]) (hspoken : isSilent last = false) :
    ∃ parent, path.parent? = some parent
      ∧ path.components = parent.components ++ [componentOf last] := by
  have hconcat : front ++ [last] ≠ [] :=
    List.append_ne_nil_of_right_ne_nil front (List.cons_ne_nil last [])
  have hcomponents : path.components
      = startOf (first :: rest) ++ saidBy (first :: withoutSilentEnd front)
        ++ [componentOf last] := by
    rw [components_eq, hparts, saidBy_cons, ← saidBy_withoutSilentEnd rest, hfront,
      saidBy_append, saidBy_singleton hspoken, ← saidBy_withoutSilentEnd front,
      ← List.append_assoc (saidBy [first]), ← saidBy_cons, List.append_assoc]
  obtain ⟨others, hothers⟩ : withoutSilentEnd front <+: rest :=
    (List.rdropWhile_prefix isSilent front).trans
      ((List.prefix_append front [last]).trans (hfront ▸ List.rdropWhile_prefix isSilent rest))
  rw [parent?, hparts]
  dsimp only
  split
  · next hempty => exact absurd (hfront.symm.trans hempty) hconcat
  rw [hfront, List.dropLast_concat]
  split
  · next htop =>
    -- the top is written with a slash, though its parts are those of nothing
    obtain ⟨rfl, hkept⟩ := List.cons.inj htop
    have hne : rest ≠ [] := by
      rintro rfl
      exact hconcat hfront.symm
    refine ⟨⟨"/"⟩, rfl, ?_⟩
    rw [hcomponents, hkept, startOf, if_pos rfl, if_neg hne]
    rfl
  · next hparent =>
    have hcut : ∀ part ∈ first :: withoutSilentEnd front, ∀ c ∈ part,
        decide (c = '/') = false := by
      intro part hm
      have hpart : part ∈ path.parts := by
        rw [hparts, ← hothers]
        exact List.mem_append_left others hm
      exact cut_of_mem_parts hpart
    have hstart : startOf (first :: rest) = startOf (first :: withoutSilentEnd front) := by
      rw [← hothers]
      exact startOf_append (List.cons_ne_nil _ _) (fun he => hparent he) others
    refine ⟨_, rfl, ?_⟩
    rw [hcomponents, hstart, components_eq (ofParts _), parts_ofParts (List.cons_ne_nil _ _) hcut]

/-- **A path that ends in a name has one without it.** -/
theorem exists_parent?_eq_some {path : Path} {name : String} (h : path.fileName? = some name) :
    ∃ parent, path.parent? = some parent ∧ parent.components = path.components.dropLast := by
  have hlast := getLast?_of_fileName? h
  cases hparts : path.parts with
  | nil => exact absurd hparts path.parts_ne_nil
  | cons first rest =>
    by_cases hnil : withoutSilentEnd rest = []
    · obtain ⟨hparent, hdrop⟩ := parent?_of_silent hparts hnil hlast
      refine ⟨⟨""⟩, hparent, ?_⟩
      rw [hdrop]
      rfl
    · obtain ⟨front, last, hfront, hspoken⟩ := exists_withoutSilentEnd_eq hnil
      obtain ⟨parent, hparent, hcomponents⟩ := exists_parent?_of_spoken hparts hfront hspoken
      refine ⟨parent, hparent, ?_⟩
      rw [hcomponents, List.dropLast_concat]

/-- **Replacing the last name replaces the last component**, or adds one
where the last is no name. -/
theorem components_withFileName (path : Path) {name : String} (h : IsEntry name) :
    (path.withFileName name).components
      = (if path.fileName?.isSome then path.components.dropLast else path.components)
        ++ [.entry name] := by
  rw [withFileName]
  cases hfile : path.fileName? with
  | none => exact components_join path h
  | some last =>
    obtain ⟨parent, hparent, hcomponents⟩ := exists_parent?_eq_some hfile
    rw [hparent]
    show (parent.join ⟨name⟩).components = path.components.dropLast ++ _
    rw [components_join parent h, hcomponents]

/-- The components of a path that ends in a name. -/
theorem components_eq_concat {path : Path} {name : String} (h : path.fileName? = some name) :
    path.components = path.components.dropLast ++ [.entry name] :=
  (List.dropLast_append_getLast? _ (getLast?_of_fileName? h)).symm

/-- The name at the end of a path is not empty and holds no slash. -/
theorem of_fileName? {path : Path} {name : String} (h : path.fileName? = some name) :
    name ≠ "" ∧ ∀ c ∈ name.toList, c ≠ '/' := by
  have hmem : .entry name ∈ path.components := List.mem_of_getLast? (getLast?_of_fileName? h)
  rw [components_eq] at hmem
  rcases List.mem_append.mp hmem with hmem | hmem
  · -- nothing but the top and here begins a path
    exfalso
    rw [startOf.eq_def] at hmem
    split at hmem
    · cases hmem
    · split at hmem
      · split at hmem
        · cases hmem
        · cases List.mem_singleton.mp hmem
      · split at hmem
        · cases List.mem_singleton.mp hmem
        · cases hmem
  · obtain ⟨part, hpart, hname⟩ := List.mem_map.mp hmem
    obtain ⟨hpart, hsays⟩ := List.mem_filter.mp hpart
    rw [componentOf] at hname
    split at hname
    · cases hname
    · obtain rfl := Component.entry.inj hname
      rw [String.toList_ofList]
      refine ⟨?_, fun c hc => of_decide_eq_false (cut_of_mem_parts hpart c hc)⟩
      intro hempty
      have hnil := congrArg String.toList hempty
      rw [String.toList_ofList] at hnil
      rw [hnil] at hsays
      cases hsays

/-- A path with a name joined to it ends in that name. -/
theorem fileName?_join (path : Path) {name : String} (h : IsEntry name) :
    (path.join ⟨name⟩).fileName? = some name := by
  rw [fileName?, components_join path h, List.getLast?_concat]

end Path

end Playscript
