import Playscript.FileTree
import Playscript.Proofs.Path.Components

/-!
# What an operation on a tree leaves alone

An operation names the places it is about by paths, and following a path
may fail. Where it does not, the path leads to a place that can be told
from its components without looking at the tree (`FileTree.aim`). So what
an operation may change is known before it is done, and whether it was done
does not matter to that.

What all operations have in common is put into one relation
(`Spares`): away from certain places a tree is as it was, but that a
directory may have come to be where nothing was; and no directory is gone,
wherever it is. It goes together from step to step, and so nothing has to be
said of the trees between.
-/

namespace Playscript.FileTree

/-! ## Where a path leads -/

/-- One component further. -/
def enter (location : Location) : Path.Component → Location
  | .root => []
  | .here => location
  | .up => location.tail
  | .entry name => name :: location

/-- **The place a path leads to** from a working directory, whatever is
there and on the way. -/
def aim (workDir : Location) (path : Path) : Location :=
  path.components.foldl enter workDir

/-- Where two steps succeed, the first does, and the second with its
result. -/
theorem of_eq_ok {α β : Type} {step : Except DiskError α} {next : α → Except DiskError β}
    {value : β} (h : (step >>= next) = .ok value) :
    ∃ first, step = .ok first ∧ next first = .ok value := by
  cases step with
  | error error => cases h
  | ok first => exact ⟨first, rfl, h⟩

section Following

variable {tree : FileTree} {location next : Location} {part : List Char}

theorem checkDirectory_eq_ok_iff :
    tree.checkDirectory location = .ok () ↔ tree.at? location = some .directory := by
  rw [checkDirectory]
  split
  · next h => exact iff_of_true rfl h
  · next bytes h => exact iff_of_false nofun (by rw [h]; exact nofun)
  · next h => exact iff_of_false nofun (by rw [h]; exact nofun)

/-- What a part leads on from is a directory. -/
theorem directory_of_follow (h : tree.follow location part = .ok next) :
    tree.at? location = some .directory := by
  obtain ⟨⟨⟩, hcheck, -⟩ := of_eq_ok h
  exact checkDirectory_eq_ok_iff.mp hcheck

/-- Nothing else matters of the tree. -/
theorem follow_of_follow {other : FileTree} (h : other.follow location part = .ok next)
    (hdirectory : tree.at? location = some .directory) : tree.follow location part = .ok next := by
  obtain ⟨⟨⟩, -, hthen⟩ := of_eq_ok h
  rw [follow, checkDirectory_eq_ok_iff.mpr hdirectory]
  exact hthen

theorem follow_of_silent (hdirectory : tree.at? location = some .directory)
    (h : Path.isSilent part = true) : tree.follow location part = .ok location := by
  rw [follow, checkDirectory_eq_ok_iff.mpr hdirectory]
  exact if_pos h

theorem follow_of_up (hdirectory : tree.at? location = some .directory)
    (hspoken : Path.isSilent part = false) (h : Path.componentOf part = .up) :
    tree.follow location part = .ok location.tail := by
  rw [follow, checkDirectory_eq_ok_iff.mpr hdirectory, h]
  exact if_neg (by rw [hspoken]; exact Bool.false_ne_true)

theorem follow_of_entry (hdirectory : tree.at? location = some .directory)
    (hspoken : Path.isSilent part = false) {name : String}
    (h : Path.componentOf part = .entry name) :
    tree.follow location part
      = if isName name then .ok (name :: location) else .error .badName := by
  rw [follow, checkDirectory_eq_ok_iff.mpr hdirectory, h]
  exact if_neg (by rw [hspoken]; exact Bool.false_ne_true)

theorem follow_of_isEntry (hdirectory : tree.at? location = some .directory) {name : String}
    (h : Path.IsEntry name) :
    tree.follow location name.toList
      = if isName name then .ok (name :: location) else .error .badName :=
  follow_of_entry hdirectory h.silent h.componentOf_eq

/-- A part leads to where its component leads. -/
theorem eq_of_follow (h : tree.follow location part = .ok next) :
    next = (Path.saidBy [part]).foldl enter location := by
  have hdirectory := directory_of_follow h
  rcases Path.saidBy_cases part with ⟨hsilent, hsaid⟩ | ⟨hspoken, ⟨hup, hsaid⟩ | ⟨hentry, hsaid⟩⟩
  · rw [follow_of_silent hdirectory hsilent] at h
    rw [hsaid]
    exact (Except.ok.inj h).symm
  · rw [follow_of_up hdirectory hspoken hup] at h
    rw [hsaid]
    exact (Except.ok.inj h).symm
  · rw [follow_of_entry hdirectory hspoken hentry] at h
    rw [hsaid]
    split at h
    · exact (Except.ok.inj h).symm
    · cases h

theorem eq_of_followAll {parts : List (List Char)}
    (h : tree.followAll location parts = .ok next) :
    next = (Path.saidBy parts).foldl enter location := by
  induction parts generalizing location with
  | nil => exact (Except.ok.inj h).symm
  | cons part parts ih =>
    rw [followAll, List.foldlM_cons] at h
    obtain ⟨middle, hfollow, hthen⟩ := of_eq_ok h
    rw [Path.saidBy_cons, List.foldl_append, ← eq_of_follow hfollow]
    exact ih hthen

/-- Where following the parts of a path begins. -/
theorem foldl_enter_start (workDir : Location) (path : Path) :
    path.start.foldl enter workDir = if path.isAbsolute then [] else workDir := by
  rw [Path.start]
  split
  · rfl
  · split <;> rfl

variable {path : Path}

/-- **When a path can be followed**: it is neither empty nor has a null
character, and each of its parts can be followed in turn. -/
theorem locate_eq_ok_iff :
    tree.locate path = .ok location
      ↔ '\x00' ∉ path.text.toList ∧ path.text ≠ ""
        ∧ tree.followAll (path.start.foldl enter tree.workDir) path.parts = .ok location := by
  rw [locate, foldl_enter_start]
  split
  · next hnull => exact iff_of_false nofun fun h => h.1 (List.contains_iff_mem.mp hnull)
  next hnull =>
  rw [List.contains_iff_mem] at hnull
  split
  · next hempty => exact iff_of_false nofun fun h => h.2.1 hempty
  · next hempty => exact ⟨fun h => ⟨hnull, hempty, h⟩, fun h => h.2.2⟩

/-- **A path that can be followed leads to its place.** -/
theorem eq_aim_of_locate (h : tree.locate path = .ok location) :
    location = aim tree.workDir path := by
  obtain ⟨-, -, hfollow⟩ := locate_eq_ok_iff.mp h
  rw [eq_of_followAll hfollow, aim, Path.components, List.foldl_append]
  rfl

end Following

/-! ## Entries -/

/-- A lookup at another place than the one that is left out. -/
theorem lookup_filter_ne (entries : List (Location × Node)) {location other : Location}
    (h : other ≠ location) :
    (entries.filter (·.1 ≠ location)).lookup other = entries.lookup other := by
  induction entries with
  | nil => rfl
  | cons entry entries ih =>
    rw [List.filter_cons, List.lookup_cons]
    split
    · rw [List.lookup_cons, ih]
    · next hentry =>
      have hkey : entry.1 = location := by simpa using hentry
      rw [ih, hkey, beq_eq_false_iff_ne.mpr h]

theorem at?_of_ne_nil (tree : FileTree) {location : Location} (h : location ≠ []) :
    tree.at? location = tree.entries.lookup location := by
  rw [at?]
  exact h

/-- Where no directory is, that is not the top. -/
theorem ne_nil_of_at? {tree : FileTree} {location : Location}
    (h : tree.at? location ≠ some .directory) : location ≠ [] := by
  rintro rfl
  exact h rfl

/-- Where nothing is, no directory is. -/
theorem ne_directory_of_none {tree : FileTree} {location : Location}
    (h : tree.at? location = none) : tree.at? location ≠ some .directory := by
  rw [h]
  exact nofun

/-- Where a file is, no directory is. -/
theorem ne_directory_of_file {tree : FileTree} {location : Location} {bytes : ByteArray}
    (h : tree.at? location = some (.file bytes)) : tree.at? location ≠ some .directory := by
  rw [h]
  exact nofun

/-- Another place is not changed by putting something. -/
theorem at?_put_of_ne (tree : FileTree) {location other : Location} (h : other ≠ location)
    (node : Node) : (tree.put location node).at? other = tree.at? other := by
  cases other with
  | nil => rfl
  | cons name dir =>
    show ((location, node) :: tree.entries.filter (·.1 ≠ location)).lookup (name :: dir)
      = tree.entries.lookup (name :: dir)
    rw [List.lookup_cons, beq_eq_false_iff_ne.mpr h, lookup_filter_ne _ h]

theorem at?_put_self (tree : FileTree) {location : Location} (h : location ≠ []) (node : Node) :
    (tree.put location node).at? location = some node := by
  rw [at?_of_ne_nil _ h]
  exact List.lookup_cons_self

/-- Another place is not changed by taking something away. -/
theorem at?_erase_of_ne (tree : FileTree) {location other : Location} (h : other ≠ location) :
    (tree.erase location).at? other = tree.at? other := by
  cases other with
  | nil => rfl
  | cons name dir => exact lookup_filter_ne tree.entries h

theorem at?_erase_self (tree : FileTree) {location : Location} (h : location ≠ []) :
    (tree.erase location).at? location = none := by
  rw [at?_of_ne_nil _ h]
  refine List.lookup_eq_none_iff.mpr fun entry hentry => ?_
  simpa using Ne.symm (of_decide_eq_true (List.mem_filter.mp hentry).2)

/-! ## What is spared -/

/-- **Away from certain places a tree is as it was**, but that a directory
may be where nothing was; and no directory is gone anywhere. -/
structure Spares (places : Location → Prop) (before after : FileTree) : Prop where
  /-- Paths lead from the same directory. -/
  workDir : after.workDir = before.workDir
  /-- What is at any other place. -/
  spared : ∀ location, ¬ places location → after.at? location = before.at? location
    ∨ before.at? location = none ∧ after.at? location = some .directory
  /-- A directory is still one. -/
  directories : ∀ location, before.at? location = some .directory →
    after.at? location = some .directory

namespace Spares

variable {places others : Location → Prop} {before middle after : FileTree}

theorem refl (places : Location → Prop) (tree : FileTree) : Spares places tree tree :=
  ⟨rfl, fun _ _ => .inl rfl, fun _ h => h⟩

theorem trans (h : Spares places before middle) (h' : Spares places middle after) :
    Spares places before after := by
  refine ⟨h'.workDir.trans h.workDir, fun location hout => ?_,
    fun location hdirectory => h'.directories location (h.directories location hdirectory)⟩
  rcases h.spared location hout with hsame | ⟨hnone, hdirectory⟩
  · rcases h'.spared location hout with hsame' | ⟨hnone', hdirectory'⟩
    · exact .inl (hsame'.trans hsame)
    · exact .inr ⟨hsame ▸ hnone', hdirectory'⟩
  · rcases h'.spared location hout with hsame' | ⟨hnone', -⟩
    · exact .inr ⟨hnone, hsame'.trans hdirectory⟩
    · rw [hdirectory] at hnone'
      cases hnone'

theorem mono (h : Spares places before after)
    (hle : ∀ location, places location → others location) : Spares others before after :=
  ⟨h.workDir, fun location hout => h.spared location fun hplace => hout (hle location hplace),
    h.directories⟩

/-- **A file is not harmed** where it is spared. -/
theorem at?_eq_file (h : Spares places before after) {location : Location}
    (hout : ¬ places location) {bytes : ByteArray}
    (hfile : before.at? location = some (.file bytes)) :
    after.at? location = some (.file bytes) := by
  rcases h.spared location hout with hsame | ⟨hnone, -⟩
  · rw [hsame, hfile]
  · rw [hfile] at hnone
    cases hnone

/-- Something put at a place that is not spared, where no directory is. -/
theorem put {tree : FileTree} {location : Location} (h : places location)
    (hkind : tree.at? location ≠ some .directory) (node : Node) :
    Spares places tree (tree.put location node) := by
  refine ⟨rfl, fun other hout => .inl ?_, fun other hdirectory => ?_⟩
  · exact tree.at?_put_of_ne (fun he => hout (by rwa [he])) node
  · rw [tree.at?_put_of_ne (fun he => hkind (by rwa [← he])) node, hdirectory]

/-- A directory put where nothing was. -/
theorem put_directory {tree : FileTree} {location : Location} (h : tree.at? location = none) :
    Spares places tree (tree.put location .directory) := by
  have hne : location ≠ [] := by
    rintro rfl
    cases h
  refine ⟨rfl, fun other _ => ?_, fun other hdirectory => ?_⟩
  · by_cases he : other = location
    · rw [he]
      exact .inr ⟨h, tree.at?_put_self hne .directory⟩
    · exact .inl (tree.at?_put_of_ne he .directory)
  · have he : other ≠ location := by
      rintro rfl
      rw [h] at hdirectory
      cases hdirectory
    rw [tree.at?_put_of_ne he, hdirectory]

/-- Something that is no directory taken away from a place that is not
spared. -/
theorem erase {tree : FileTree} {location : Location} (h : places location)
    (hkind : tree.at? location ≠ some .directory) : Spares places tree (tree.erase location) := by
  refine ⟨rfl, fun other hout => .inl ?_, fun other hdirectory => ?_⟩
  · exact tree.at?_erase_of_ne fun he => hout (by rwa [he])
  · rw [tree.at?_erase_of_ne fun he => hkind (by rwa [← he]), hdirectory]

end Spares

/-! ## Doing things with a tree -/

/-- What was done first, and what then. -/
theorem of_bind {σ α β : Type} {op : StateM σ α} {next : α → StateM σ β} {before after : σ}
    {value : β} (h : (op >>= next) before = (value, after)) :
    ∃ first middle, op before = (first, middle) ∧ next first middle = (value, after) :=
  ⟨_, _, rfl, h⟩

/-- Going on from what was done first. -/
theorem run_bind {σ α β : Type} {op : StateM σ α} {before middle : σ} {first : α}
    (h : op before = (first, middle)) (next : α → StateM σ β) :
    (op >>= next) before = next first middle := by
  show next (op before).1 (op before).2 = _
  rw [h]

theorem of_change_ok {op : FileTree → Except DiskError FileTree} {tree after : FileTree}
    (h : change op tree = (.ok (), after)) : op tree = .ok after := by
  rw [change] at h
  split at h
  · next hop => rw [hop, (Prod.mk.inj h).2]
  · cases h

/-- **What is refused changes nothing.** -/
theorem of_change_error {op : FileTree → Except DiskError FileTree} {tree after : FileTree}
    {error : DiskError} (h : change op tree = (.error error, after)) : after = tree := by
  rw [change] at h
  split at h
  · cases h
  · exact (Prod.mk.inj h).2.symm

/-! ## What operations do -/

/-- What it means that a file was made. -/
theorem of_writeBytes {tree after : FileTree} {path : Path} {bytes : ByteArray}
    (h : tree.writeBytes path bytes = .ok after) :
    tree.at? (aim tree.workDir path) ≠ some .directory
      ∧ after = tree.put (aim tree.workDir path) (.file bytes) := by
  obtain ⟨location, hlocate, hthen⟩ := of_eq_ok h
  obtain rfl := eq_aim_of_locate hlocate
  split at hthen
  · cases hthen
  · next hkind => exact ⟨hkind, (Except.ok.inj hthen).symm⟩

/-- What it means that a file was removed. -/
theorem of_removeFile {tree after : FileTree} {path : Path}
    (h : tree.removeFile path = .ok after) :
    tree.at? (aim tree.workDir path) ≠ some .directory
      ∧ after = tree.erase (aim tree.workDir path) := by
  obtain ⟨location, hlocate, hthen⟩ := of_eq_ok h
  obtain rfl := eq_aim_of_locate hlocate
  split at hthen
  · cases hthen
  · cases hthen
  · next bytes hfile =>
    refine ⟨fun hdirectory => ?_, (Except.ok.inj hthen).symm⟩
    rw [hfile] at hdirectory
    cases hdirectory

/-- What it means that a directory was made. -/
theorem of_makeDirectory {tree after : FileTree} {path : Path}
    (h : tree.makeDirectory path = .ok after) :
    tree.at? (aim tree.workDir (withoutSlashes path)) = none
      ∧ after = tree.put (aim tree.workDir (withoutSlashes path)) .directory := by
  obtain ⟨location, hlocate, hthen⟩ := of_eq_ok h
  obtain rfl := eq_aim_of_locate hlocate
  split at hthen
  · cases hthen
  · next hnone => exact ⟨hnone, (Except.ok.inj hthen).symm⟩

/-- What it means that a file was moved. -/
theorem of_moveFile {tree after : FileTree} {source target : Path}
    (h : tree.moveFile source target = .ok after) :
    ∃ bytes, tree.at? (aim tree.workDir source) = some (.file bytes)
      ∧ tree.at? (aim tree.workDir target) ≠ some .directory
      ∧ after
        = (tree.erase (aim tree.workDir source)).put (aim tree.workDir target) (.file bytes) := by
  obtain ⟨origin, hsource, hthen⟩ := of_eq_ok h
  obtain ⟨destination, htarget, hmove⟩ := of_eq_ok hthen
  obtain rfl := eq_aim_of_locate hsource
  obtain rfl := eq_aim_of_locate htarget
  split at hmove
  · cases hmove
  · cases hmove
  · cases hmove
  · next bytes hfile hkind => exact ⟨bytes, hfile, hkind, (Except.ok.inj hmove).symm⟩

/-- What is refused does not depend on what is to be written. -/
theorem writeBytes_eq_error {tree : FileTree} {path : Path} {bytes : ByteArray}
    {error : DiskError} (h : tree.writeBytes path bytes = .error error) (others : ByteArray) :
    tree.writeBytes path others = .error error := by
  unfold writeBytes at h ⊢
  cases hlocate : tree.locate path with
  | error cause =>
    rw [hlocate] at h
    exact h
  | ok location =>
    rw [hlocate] at h
    dsimp only [bind, Except.bind] at h ⊢
    split at h
    · exact h
    · cases h

/-- **Where there is room a text is written**, and otherwise its beginning, unless
nothing can be written at all. -/
theorem writeWithin_cases {tree after : FileTree} {room : Nat} {path : Path} {text : String}
    {result : Except DiskError Unit} (h : writeWithin room path text tree = (result, after)) :
    (Disk.writeText path text : StateM FileTree (Except DiskError Unit)) tree = (result, after)
      ∨ result = .error .full ∧ room < text.utf8ByteSize
        ∧ tree.writeBytes path (text.toUTF8.extract 0 room) = .ok after := by
  have hwhole (hroom : text.utf8ByteSize ≤ room) : text.toUTF8.extract 0 room = text.toUTF8 := by
    have hmax : text.toUTF8.extract 0 (max room text.utf8ByteSize) = text.toUTF8 :=
      ByteArray.extract_zero_max_size
    rwa [Nat.max_eq_left hroom] at hmax
  rw [writeWithin] at h
  split at h
  · next made hwrite =>
    obtain ⟨hresult, rfl⟩ := Prod.mk.inj h
    by_cases hroom : text.utf8ByteSize ≤ room
    · rw [if_pos hroom] at hresult
      rw [hwhole hroom] at hwrite
      refine .inl ?_
      show change _ tree = _
      rw [change, hwrite]
      exact Prod.ext hresult rfl
    · rw [if_neg hroom] at hresult
      exact .inr ⟨hresult.symm, Nat.lt_of_not_le hroom, hwrite⟩
  · next cause hwrite =>
    obtain ⟨hresult, rfl⟩ := Prod.mk.inj h
    refine .inl ?_
    show change _ tree = _
    rw [change, writeBytes_eq_error hwrite]
    exact Prod.ext hresult rfl

/-! ## What changes spare -/

section Changes

variable {tree after : FileTree} {path : Path}

theorem spares_of_writeBytes {bytes : ByteArray} (h : tree.writeBytes path bytes = .ok after) :
    Spares (· = aim tree.workDir path) tree after := by
  obtain ⟨hkind, rfl⟩ := of_writeBytes h
  refine .put ?_ hkind _
  rfl

theorem spares_of_removeFile (h : tree.removeFile path = .ok after) :
    Spares (· = aim tree.workDir path) tree after := by
  obtain ⟨hkind, rfl⟩ := of_removeFile h
  refine .erase ?_ hkind
  rfl

theorem spares_of_moveFile {source target : Path} (h : tree.moveFile source target = .ok after) :
    Spares (fun location => location = aim tree.workDir source ∨ location = aim tree.workDir target)
      tree after := by
  obtain ⟨bytes, hfile, hkind, rfl⟩ := of_moveFile h
  have hsource := ne_directory_of_file hfile
  refine (Spares.erase (.inl rfl) hsource).trans (.put (.inr rfl) ?_ _)
  -- what is moved onto itself is gone in between
  by_cases he : aim tree.workDir target = aim tree.workDir source
  · rw [he, tree.at?_erase_self (ne_nil_of_at? hsource)]
    exact nofun
  · rwa [tree.at?_erase_of_ne he]

/-- **Making a directory takes nothing away.** -/
theorem spares_of_makeDirectory {places : Location → Prop}
    (h : tree.makeDirectory path = .ok after) : Spares places tree after := by
  obtain ⟨hnone, rfl⟩ := of_makeDirectory h
  exact .put_directory hnone

end Changes

/-! ## Texts in files -/

/-- **A file with a text is where a path leads.** -/
def Holds (tree : FileTree) (path : Path) (text : String) : Prop :=
  tree.at? (aim tree.workDir path) = some (.file text.toUTF8)

/-- **A file with no more than the beginning of a text** is where a path leads. -/
def HoldsPart (tree : FileTree) (path : Path) (text : String) : Prop :=
  ∃ room < text.utf8ByteSize,
    tree.at? (aim tree.workDir path) = some (.file (text.toUTF8.extract 0 room))

theorem Holds.of_spares {places : Location → Prop} {before after : FileTree} {path : Path}
    {text : String} (h : before.Holds path text) (hspares : Spares places before after)
    (hout : ¬ places (aim before.workDir path)) : after.Holds path text := by
  rw [Holds, hspares.workDir]
  exact hspares.at?_eq_file hout h

theorem HoldsPart.of_spares {places : Location → Prop} {before after : FileTree} {path : Path}
    {text : String} (h : before.HoldsPart path text) (hspares : Spares places before after)
    (hout : ¬ places (aim before.workDir path)) : after.HoldsPart path text := by
  obtain ⟨room, hroom, hfile⟩ := h
  refine ⟨room, hroom, ?_⟩
  rw [hspares.workDir]
  exact hspares.at?_eq_file hout hfile

/-- A text that is written is there. -/
theorem holds_of_writeText {tree after : FileTree} {path : Path} {text : String}
    (h : (Disk.writeText path text : StateM FileTree (Except DiskError Unit)) tree
      = (.ok (), after)) : after.Holds path text := by
  obtain ⟨hkind, rfl⟩ := of_writeBytes (of_change_ok h)
  exact tree.at?_put_self (ne_nil_of_at? hkind) _

/-- What was at the source is at the target. -/
theorem Holds.moved {tree after : FileTree} {source target : Path} {text : String}
    (hholds : tree.Holds source text)
    (h : (Disk.moveFile source target : StateM FileTree (Except DiskError Unit)) tree
      = (.ok (), after)) : after.Holds target text := by
  obtain ⟨bytes, hfile, hkind, rfl⟩ := of_moveFile (of_change_ok h)
  obtain rfl := Node.file.inj (Option.some.inj (hholds.symm.trans hfile))
  exact (tree.erase _).at?_put_self (ne_nil_of_at? hkind) _

end Playscript.FileTree
