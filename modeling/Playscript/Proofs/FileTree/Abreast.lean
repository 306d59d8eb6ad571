import Playscript.Proofs.FileTree.Directories

/-!
# Two runs side by side

What one input leaves behind, another may find. To see that it makes no
difference, the same operations are run twice: in a tree as it was, and in a
tree where others have been at work (`FileTree.Pair`). The others have
written at places of their own, and have made what all share: directories
where nothing was, and perhaps one file. So the second tree is ahead of the
first, and where the first run makes a shared thing, the second finds it made.

Two runs agree (`FileTree.Pair.Agrees`) when they give the same value, stay
abreast, and have done the same at each place, unless neither has done
anything there. This goes together from one operation to the next
(`FileTree.Pair.Agrees.bind`), and so it is shown for single operations here.
-/

namespace Playscript

namespace FileTree

open Playscript.Path

/-! ## What is touched -/

/-- **Only certain places are touched.** Elsewhere a tree is as it was, but
that something shared may be where nothing was. -/
structure Touches (shared : Location → Node → Prop) (places : Location → Prop)
    (before after : FileTree) : Prop where
  /-- Paths lead from the same directory. -/
  workDir : after.workDir = before.workDir
  /-- What is at any other place. -/
  spared : ∀ location, ¬ places location → after.at? location = before.at? location
    ∨ before.at? location = none ∧ ∃ node, shared location node ∧ after.at? location = some node

namespace Touches

variable {shared : Location → Node → Prop} {places : Location → Prop}
  {before middle after tree : FileTree} {location : Location} {node : Node}

theorem refl (shared : Location → Node → Prop) (places : Location → Prop) (tree : FileTree) :
    Touches shared places tree tree :=
  ⟨rfl, fun _ _ => .inl rfl⟩

theorem trans (h : Touches shared places before middle)
    (h' : Touches shared places middle after) : Touches shared places before after := by
  refine ⟨h'.workDir.trans h.workDir, fun location hout => ?_⟩
  rcases h.spared location hout with hsame | ⟨hnone, node, hshared, hnode⟩
  · rcases h'.spared location hout with hsame' | ⟨hnone', hmade⟩
    · exact .inl (hsame'.trans hsame)
    · exact .inr ⟨hsame ▸ hnone', hmade⟩
  · rcases h'.spared location hout with hsame' | ⟨hnone', -⟩
    · exact .inr ⟨hnone, node, hshared, hsame'.trans hnode⟩
    · rw [hnode] at hnone'
      cases hnone'

/-- What is there stays as it is at places that are not touched. -/
theorem at?_eq_some (h : Touches shared places before after) (hout : ¬ places location)
    (hthere : before.at? location = some node) : after.at? location = some node := by
  rcases h.spared location hout with hsame | ⟨hnone, -⟩
  · rw [hsame, hthere]
  · rw [hthere] at hnone
    cases hnone

/-- Something put at a place that may be touched. -/
theorem put (h : places location) (node : Node) :
    Touches shared places tree (tree.put location node) :=
  ⟨rfl, fun _ hout => .inl (tree.at?_put_of_ne (fun he => hout (by rwa [he])) node)⟩

/-- Something shared put where nothing was. -/
theorem put_shared (hshared : shared location node) (hnone : tree.at? location = none) :
    Touches shared places tree (tree.put location node) := by
  refine ⟨rfl, fun other _ => ?_⟩
  by_cases he : other = location
  · have hne : location ≠ [] := by
      rintro rfl
      cases hnone
    rw [he]
    exact .inr ⟨hnone, node, hshared, tree.at?_put_self hne node⟩
  · exact .inl (tree.at?_put_of_ne he node)

/-- Something taken away from a place that may be touched. -/
theorem erase (h : places location) : Touches shared places tree (tree.erase location) :=
  ⟨rfl, fun _ hout => .inl (tree.at?_erase_of_ne fun he => hout (by rwa [he]))⟩

end Touches

/-! ## Two runs -/

/-- **Two runs of the same operations**, one of which begins where others
have been at work. -/
structure Pair where
  /-- What may come to be where nothing was, whoever makes it. -/
  shared : Location → Node → Prop
  /-- The places that the operations may touch. -/
  mine : Location → Prop
  /-- The places that the others may have touched. -/
  theirs : Location → Prop
  /-- Where the one run begins. -/
  start : FileTree
  /-- Where the other begins. -/
  start' : FileTree

namespace Pair

variable {pair : Pair} {tree tree' next next' : FileTree} {location : Location}

/-- **Two trees that the runs can have come to** at the same time. -/
structure Abreast (pair : Pair) (tree tree' : FileTree) : Prop where
  /-- The first can be on a disk. -/
  form : tree.WellFormed
  /-- So can the second. -/
  form' : tree'.WellFormed
  /-- What the one run has touched. -/
  touched : Touches pair.shared pair.mine pair.start tree
  /-- What the other has touched. -/
  touched' : Touches pair.shared pair.mine pair.start' tree'
  /-- In the second tree others have been at work. -/
  ahead : Touches pair.shared pair.theirs tree tree'
  /-- The runs have done the same at a place, or nothing. -/
  follows : ∀ location, tree'.at? location = tree.at? location
    ∨ tree.at? location = pair.start.at? location
      ∧ tree'.at? location = pair.start'.at? location

namespace Abreast

theorem workDir_eq (h : pair.Abreast tree tree') : tree.workDir = pair.start.workDir :=
  h.touched.workDir

theorem workDir_eq' (h : pair.Abreast tree tree') : tree'.workDir = pair.start.workDir :=
  h.ahead.workDir.trans h.workDir_eq

/-- **One step of both runs** at a place where they meet. -/
theorem step (h : pair.Abreast tree tree') (htouched : Touches pair.shared pair.mine tree next)
    (htouched' : Touches pair.shared pair.mine tree' next') (hform : next.WellFormed)
    (hform' : next'.WellFormed)
    (hsame : ∀ other, other ≠ location → next.at? other = tree.at? other)
    (hsame' : ∀ other, other ≠ location → next'.at? other = tree'.at? other)
    (hmeet : next'.at? location = next.at? location) : pair.Abreast next next' := by
  refine ⟨hform, hform', h.touched.trans htouched, h.touched'.trans htouched',
    ⟨?_, fun other hout => ?_⟩, fun other => ?_⟩
  · rw [htouched'.workDir, h.ahead.workDir, htouched.workDir]
  · by_cases he : other = location
    · exact .inl (he ▸ hmeet)
    · rw [hsame other he, hsame' other he]
      exact h.ahead.spared other hout
  · by_cases he : other = location
    · exact .inl (he ▸ hmeet)
    · rw [hsame other he, hsame' other he]
      exact h.follows other

variable (h : pair.Abreast tree tree')
include h

/-- The same put at a place of mine. -/
theorem put (hmine : pair.mine location) (hroom : tree.HasRoom location)
    (hroom' : tree'.HasRoom location) (hkind : tree.at? location ≠ some .directory)
    (hkind' : tree'.at? location ≠ some .directory) (node : Node) :
    pair.Abreast (tree.put location node) (tree'.put location node) := by
  have hne : location ≠ [] := by
    rintro rfl
    exact hroom
  refine h.step (.put hmine node) (.put hmine node) (h.form.put hroom hkind node)
    (h.form'.put hroom' hkind' node) (fun _ he => tree.at?_put_of_ne he node)
    (fun _ he => tree'.at?_put_of_ne he node) ?_
  rw [tree.at?_put_self hne, tree'.at?_put_self hne]

/-- The same taken away from a place of mine. -/
theorem erase (hmine : pair.mine location) (hkind : tree.at? location ≠ some .directory)
    (hkind' : tree'.at? location ≠ some .directory) :
    pair.Abreast (tree.erase location) (tree'.erase location) := by
  have hne := ne_nil_of_at? hkind
  refine h.step (.erase hmine) (.erase hmine) (h.form.erase hkind) (h.form'.erase hkind')
    (fun _ he => tree.at?_erase_of_ne he) (fun _ he => tree'.at?_erase_of_ne he) ?_
  rw [tree.at?_erase_self hne, tree'.at?_erase_self hne]

/-- Something shared put where the run that is ahead may have it. -/
theorem put_shared {node : Node} (hshared : pair.shared location node)
    (hnone : tree.at? location = none) (hthere : tree'.at? location = some node)
    (hform : (tree.put location node).WellFormed) :
    pair.Abreast (tree.put location node) tree' := by
  have hne : location ≠ [] := by
    rintro rfl
    cases hnone
  refine h.step (.put_shared hshared hnone) (.refl _ _ _) hform h.form'
    (fun _ he => tree.at?_put_of_ne he node) (fun _ _ => rfl) ?_
  rw [hthere, tree.at?_put_self hne]

/-- Something shared put where neither run has it. -/
theorem put_both {node : Node} (hshared : pair.shared location node)
    (hnone : tree.at? location = none) (hnone' : tree'.at? location = none)
    (hform : (tree.put location node).WellFormed)
    (hform' : (tree'.put location node).WellFormed) :
    pair.Abreast (tree.put location node) (tree'.put location node) := by
  have hne : location ≠ [] := by
    rintro rfl
    cases hnone
  refine h.step (.put_shared hshared hnone) (.put_shared hshared hnone') hform hform'
    (fun _ he => tree.at?_put_of_ne he node) (fun _ he => tree'.at?_put_of_ne he node) ?_
  rw [tree.at?_put_self hne, tree'.at?_put_self hne]

/-- **Something shared, put where nothing is**: the run that is ahead puts it as
well, or has it already. -/
theorem put_unlessThere {node : Node} (htheirs : ¬ pair.theirs location)
    (hshared : pair.shared location node)
    (honly : ∀ other, pair.shared location other → other = node)
    (hnone : tree.at? location = none) (hroom : tree.HasRoom location)
    (hroom' : tree'.at? location = none → tree'.HasRoom location) :
    tree'.at? location = none
        ∧ pair.Abreast (tree.put location node) (tree'.put location node)
      ∨ tree'.at? location = some node ∧ pair.Abreast (tree.put location node) tree' := by
  have hform := h.form.put hroom (ne_directory_of_none hnone) node
  rcases h.ahead.spared _ htheirs with hsame | ⟨-, other, hother, hthere⟩
  · have hnone' := hsame.trans hnone
    exact .inl ⟨hnone', h.put_both hshared hnone hnone' hform
      (h.form'.put (hroom' hnone') (ne_directory_of_none hnone') node)⟩
  · obtain rfl := honly other hother
    exact .inr ⟨hthere, h.put_shared hshared hnone hthere hform⟩

end Abreast

/-! ## Agreement -/

/-- What is a directory stays one. -/
def StaysOpen (before after : FileTree) : Prop :=
  ∀ location, before.at? location = some .directory → after.at? location = some .directory

theorem staysOpen_put (tree : FileTree) {location : Location}
    (hkind : tree.at? location ≠ some .directory) (node : Node) :
    StaysOpen tree (tree.put location node) := fun other hopen => by
  rw [tree.at?_put_of_ne (fun he => hkind (by rwa [← he])), hopen]

theorem staysOpen_erase (tree : FileTree) {location : Location}
    (hkind : tree.at? location ≠ some .directory) : StaysOpen tree (tree.erase location) :=
  fun other hopen => by
    rw [tree.at?_erase_of_ne (fun he => hkind (by rwa [← he])), hopen]

/-- **The two runs of an operation agree**: they give the same value, stay
abreast, and something is known of the value and the tree behind. -/
def Agrees (pair : Pair) {α : Type} (op : StateM FileTree α) (tree tree' : FileTree)
    (post : α → FileTree → Prop) : Prop :=
  ∃ value next next', op tree = (value, next) ∧ op tree' = (value, next')
    ∧ pair.Abreast next next' ∧ StaysOpen tree next ∧ post value next

namespace Agrees

variable {α β : Type} {op other : StateM FileTree α} {post : α → FileTree → Prop}

/-- Where nothing is changed. -/
theorem of_eq (h : pair.Abreast tree tree') {value : α} (hop : op tree = (value, tree))
    (hop' : op tree' = (value, tree')) (hpost : post value tree) :
    pair.Agrees op tree tree' post :=
  ⟨value, tree, tree', hop, hop', h, fun _ hopen => hopen, hpost⟩

theorem pure (h : pair.Abreast tree tree') {value : α} (hpost : post value tree) :
    pair.Agrees (pure value : StateM FileTree α) tree tree' post :=
  .of_eq h rfl rfl hpost

/-- **One thing after another.** -/
theorem bind {next : α → StateM FileTree β} {post' : β → FileTree → Prop}
    (h : pair.Agrees op tree tree' post)
    (hnext : ∀ value middle middle', pair.Abreast middle middle' → StaysOpen tree middle →
      post value middle → pair.Agrees (next value) middle middle' post') :
    pair.Agrees (op >>= next) tree tree' post' := by
  obtain ⟨value, middle, middle', hop, hop', habreast, hopen, hpost⟩ := h
  obtain ⟨last, after, after', hlast, hlast', habreast', hopen', hpost'⟩ :=
    hnext value middle middle' habreast hopen hpost
  exact ⟨last, after, after', (run_bind hop next).trans hlast, (run_bind hop' next).trans hlast',
    habreast', fun location h => hopen' location (hopen location h), hpost'⟩

theorem mono {post' : α → FileTree → Prop} (h : pair.Agrees op tree tree' post)
    (himp : ∀ value after, post value after → post' value after) :
    pair.Agrees op tree tree' post' := by
  obtain ⟨value, next, next', hop, hop', habreast, hopen, hpost⟩ := h
  exact ⟨value, next, next', hop, hop', habreast, hopen, himp value next hpost⟩

/-- Directories stay, whatever is known else. -/
theorem stays (h : pair.Agrees op tree tree' post) :
    pair.Agrees op tree tree' fun value next => post value next ∧ StaysOpen tree next := by
  obtain ⟨value, next, next', hop, hop', habreast, hopen, hpost⟩ := h
  exact ⟨value, next, next', hop, hop', habreast, hopen, hpost, hopen⟩

/-- It is enough that another operation agrees that does the same here. -/
theorem congr (hop : op tree = other tree) (hop' : op tree' = other tree')
    (h : pair.Agrees other tree tree' post) : pair.Agrees op tree tree' post := by
  obtain ⟨value, next, next', hother, hother', hrest⟩ := h
  exact ⟨value, next, next', hop.trans hother, hop'.trans hother', hrest⟩

end Agrees

/-! ## Entries of open directories -/

/-- **An entry of a straight directory that is mine**: nobody else touches it,
nor the directory. -/
structure Owns (pair : Pair) (dir : Path) (name : String) : Prop where
  /-- The directory. -/
  straight : dir.IsStraight
  /-- It is not touched by others. -/
  way : ¬ pair.theirs (aim pair.start.workDir dir)
  /-- The name is that of an entry. -/
  entry : IsEntry name
  /-- It is mine. -/
  mine : pair.mine (name :: aim pair.start.workDir dir)
  /-- It is nobody else's. -/
  theirs : ¬ pair.theirs (name :: aim pair.start.workDir dir)
  /-- It is not shared. -/
  shared : ∀ node, ¬ pair.shared (name :: aim pair.start.workDir dir) node

/-- What an entry of a directory is does not depend on how the directory is
written. -/
theorem Owns.of_components {dir other : Path} {name : String} (h : pair.Owns dir name)
    (hsame : other.components = dir.components) : pair.Owns other name := by
  have haim : aim pair.start.workDir other = aim pair.start.workDir dir := by
    rw [aim, aim, hsame]
  refine ⟨?_, ?_, h.entry, ?_, ?_, ?_⟩
  · rw [IsStraight, hsame]
    exact h.straight
  · rw [haim]
    exact h.way
  · rw [haim]
    exact h.mine
  · rw [haim]
    exact h.theirs
  · rw [haim]
    exact h.shared

section Entries

variable {dir : Path} {name : String}

/-- Where nothing is shared, the run ahead has nothing else. -/
theorem Abreast.at?_eq (h : pair.Abreast tree tree') (htheirs : ¬ pair.theirs location)
    (hshared : ∀ node, ¬ pair.shared location node) : tree'.at? location = tree.at? location :=
  (h.ahead.spared location htheirs).resolve_right fun ⟨_, node, hnode, _⟩ => hshared node hnode

/-- **What is mine is found in the run ahead** if it is found in the other. -/
theorem Abreast.find?_eq (h : pair.Abreast tree tree') (howns : pair.Owns dir name) :
    tree'.find? (dir.join ⟨name⟩) = tree.find? (dir.join ⟨name⟩) := by
  rw [h.form.find?_join howns.straight howns.entry, h.form'.find?_join howns.straight howns.entry,
    h.workDir_eq, h.workDir_eq', h.at?_eq howns.theirs howns.shared]

/-- An entry has a seat, which is its name in the directory, or cannot have its
name. -/
theorem seat_cases (workDir : Location) (dir : Path) (hname : IsEntry name) :
    seat workDir dir name = .error .badName
      ∨ seat workDir dir name = .ok (name :: aim workDir dir) ∧ IsUsable name := by
  rw [seat]
  split
  · next husable => exact .inr ⟨rfl, hname, husable.2, husable.1⟩
  · exact .inl rfl

/-- **An entry that is mine, in both runs**: the path cannot be followed, or it
leads to its place, which has room and where both have the same. -/
theorem Abreast.locate_cases (h : pair.Abreast tree tree') (howns : pair.Owns dir name)
    (hopen : tree.at? (aim pair.start.workDir dir) = some .directory) :
    (∃ error, tree.locate (dir.join ⟨name⟩) = .error error
        ∧ tree'.locate (dir.join ⟨name⟩) = .error error)
      ∨ tree.locate (dir.join ⟨name⟩) = .ok (name :: aim pair.start.workDir dir)
        ∧ tree'.locate (dir.join ⟨name⟩) = .ok (name :: aim pair.start.workDir dir)
        ∧ tree.HasRoom (name :: aim pair.start.workDir dir)
        ∧ tree'.HasRoom (name :: aim pair.start.workDir dir) := by
  have hopen' := h.ahead.at?_eq_some howns.way hopen
  have hlocate := h.form.locate_join_of_open howns.straight (h.workDir_eq.symm ▸ hopen)
    howns.entry
  have hlocate' := h.form'.locate_join_of_open howns.straight (h.workDir_eq'.symm ▸ hopen')
    howns.entry
  rw [h.workDir_eq] at hlocate
  rw [h.workDir_eq'] at hlocate'
  rw [hlocate, hlocate']
  rcases seat_cases pair.start.workDir dir howns.entry with herror | ⟨hseat, husable⟩
  · exact .inl ⟨_, herror, herror⟩
  · exact .inr ⟨hseat, hseat, ⟨hopen, husable⟩, hopen', husable⟩

/-! ## Operations on files -/

/-- What changes a tree, unless it is refused. -/
theorem Agrees.change {op : FileTree → Except DiskError FileTree} (h : pair.Abreast tree tree')
    (hop : (∃ error, op tree = .error error ∧ op tree' = .error error)
      ∨ ∃ next next', op tree = .ok next ∧ op tree' = .ok next'
        ∧ pair.Abreast next next' ∧ StaysOpen tree next) :
    pair.Agrees (change op) tree tree' fun _ _ => True := by
  rcases hop with ⟨error, herror, herror'⟩ | ⟨next, next', hnext, hnext', habreast, hopen⟩
  · have hchange : FileTree.change op tree = (.error error, tree) := by
      rw [FileTree.change, herror]
    refine .of_eq h hchange ?_ trivial
    rw [FileTree.change, herror']
  · refine ⟨.ok (), next, next', ?_, ?_, habreast, hopen, trivial⟩
    · rw [FileTree.change, hnext]
    · rw [FileTree.change, hnext']

section Files

variable (h : pair.Abreast tree tree')
include h

theorem Abreast.agrees_writeText (howns : pair.Owns dir name)
    (hopen : tree.at? (aim pair.start.workDir dir) = some .directory) (text : String) :
    pair.Agrees (Disk.writeText (dir.join ⟨name⟩) text) tree tree' fun _ _ => True := by
  refine .change h ?_
  rw [writeBytes, writeBytes]
  rcases h.locate_cases howns hopen with ⟨error, herror, herror'⟩ | ⟨hplace, hplace', hroom, hroom'⟩
  · rw [herror, herror']
    exact .inl ⟨error, rfl, rfl⟩
  · rw [hplace, hplace']
    dsimp only [bind, Except.bind]
    rw [h.at?_eq howns.theirs howns.shared]
    split
    · exact .inl ⟨_, rfl, rfl⟩
    · next hkind =>
      refine .inr ⟨_, _, rfl, rfl, h.put howns.mine hroom hroom' hkind ?_ _,
        staysOpen_put tree hkind _⟩
      rwa [h.at?_eq howns.theirs howns.shared]

theorem Abreast.agrees_removeFile (howns : pair.Owns dir name)
    (hopen : tree.at? (aim pair.start.workDir dir) = some .directory) :
    pair.Agrees (Disk.removeFile (dir.join ⟨name⟩)) tree tree' fun _ _ => True := by
  refine .change h ?_
  rw [removeFile, removeFile]
  rcases h.locate_cases howns hopen with ⟨error, herror, herror'⟩ | ⟨hplace, hplace', -, -⟩
  · rw [herror, herror']
    exact .inl ⟨error, rfl, rfl⟩
  · rw [hplace, hplace']
    dsimp only [bind, Except.bind]
    rw [h.at?_eq howns.theirs howns.shared]
    cases hfile : tree.at? (name :: aim pair.start.workDir dir) with
    | none => exact .inl ⟨_, rfl, rfl⟩
    | some node =>
      cases node with
      | directory => exact .inl ⟨_, rfl, rfl⟩
      | file bytes =>
        have hkind := ne_directory_of_file hfile
        refine .inr ⟨_, _, rfl, rfl, h.erase howns.mine hkind ?_, staysOpen_erase tree hkind⟩
        rwa [h.at?_eq howns.theirs howns.shared]

variable {dir' : Path} {name' : String}

theorem Abreast.agrees_moveFile (howns : pair.Owns dir name) (howns' : pair.Owns dir' name')
    (hopen : tree.at? (aim pair.start.workDir dir) = some .directory)
    (hopen' : tree.at? (aim pair.start.workDir dir') = some .directory) :
    pair.Agrees (Disk.moveFile (dir.join ⟨name⟩) (dir'.join ⟨name'⟩)) tree tree'
      fun _ _ => True := by
  refine .change h ?_
  rw [moveFile, moveFile]
  rcases h.locate_cases howns hopen with ⟨error, herror, herror'⟩ | ⟨hsource, hsource', -, -⟩
  · rw [herror, herror']
    exact .inl ⟨error, rfl, rfl⟩
  rw [hsource, hsource']
  dsimp only [bind, Except.bind]
  rcases h.locate_cases howns' hopen' with
    ⟨error, herror, herror'⟩ | ⟨htarget, htarget', hroom, hroom'⟩
  · rw [herror, herror']
    exact .inl ⟨error, rfl, rfl⟩
  rw [htarget, htarget']
  dsimp only
  rw [h.at?_eq howns.theirs howns.shared, h.at?_eq howns'.theirs howns'.shared]
  split
  · exact .inl ⟨_, rfl, rfl⟩
  · exact .inl ⟨_, rfl, rfl⟩
  · exact .inl ⟨_, rfl, rfl⟩
  next bytes hfile hkind =>
  have hgone : tree.at? (name :: aim pair.start.workDir dir) ≠ some .directory := by
    rw [hfile]
    exact nofun
  have hgone' : tree'.at? (name :: aim pair.start.workDir dir) ≠ some .directory := by
    rwa [h.at?_eq howns.theirs howns.shared]
  have hkind' : tree'.at? (name' :: aim pair.start.workDir dir') ≠ some .directory := by
    rwa [h.at?_eq howns'.theirs howns'.shared]
  refine .inr ⟨_, _, rfl, rfl, (h.erase howns.mine hgone hgone').put howns'.mine
    (hroom.erase hgone) (hroom'.erase hgone') (at?_erase_ne_directory hkind)
    (at?_erase_ne_directory hkind') _, fun other hopen => ?_⟩
  exact staysOpen_put _ (at?_erase_ne_directory hkind) _ other
    (staysOpen_erase tree hgone other hopen)

end Files

end Entries

/-! ## Making directories -/

/-- **A place on the way**, where whoever comes first makes a directory. -/
structure IsWay (pair : Pair) (location : Location) : Prop where
  /-- The others have touched it in no other way. -/
  theirs : ¬ pair.theirs location
  /-- A directory may be made there. -/
  directory : pair.shared location .directory
  /-- Nothing else may. -/
  only : ∀ node, pair.shared location node → node = .directory

section Directories

variable {path : Path}

/-- A directory on the way, made where it is not there. -/
theorem Abreast.agrees_makeUnlessThere (h : pair.Abreast tree tree') (hpath : path.IsWalkable)
    {front : List String} {name : String} (hnames : path.names = front ++ [name])
    (hopen : tree.at? (front.reverse ++ origin pair.start.workDir path) = some .directory)
    (hopen' : tree'.at? (front.reverse ++ origin pair.start.workDir path) = some .directory)
    (hway : pair.IsWay (aim pair.start.workDir path)) :
    pair.Agrees (Disk.makeUnlessThere path) tree tree' fun made next =>
      made = .ok () → next.at? (aim pair.start.workDir path) = some .directory := by
  have hlocate := h.form.locate_of_open hpath hnames
    (h.workDir_eq.symm ▸ hopen)
  have hlocate' := h.form'.locate_of_open hpath hnames
    (h.workDir_eq'.symm ▸ hopen')
  have hmake := makeUnlessThere_eq hpath.tidy tree
  have hmake' := makeUnlessThere_eq hpath.tidy tree'
  rw [hlocate] at hmake
  rw [hlocate'] at hmake'
  rw [h.workDir_eq] at hlocate hmake
  rw [h.workDir_eq'] at hlocate' hmake'
  by_cases hshort : isName name = true
  · rw [if_pos hshort] at hmake hmake' hlocate hlocate'
    dsimp only at hmake hmake'
    cases hthere : tree.at? (aim pair.start.workDir path) with
    | some node =>
      rw [h.ahead.at?_eq_some hway.theirs hthere] at hmake'
      rw [hthere] at hmake
      cases node with
      | directory => exact .of_eq h hmake hmake' fun _ => hthere
      | file bytes => exact .of_eq h hmake hmake' nofun
    | none =>
      rw [hthere] at hmake
      have hkind := ne_directory_of_none hthere
      have hopens := staysOpen_put tree hkind .directory
      have hmade := tree.at?_put_self (ne_nil_of_at? hkind) .directory
      rcases h.put_unlessThere hway.theirs hway.directory hway.only hthere
        (h.form.hasRoom_of_locate hlocate hkind)
        (fun hnone' => h.form'.hasRoom_of_locate hlocate' (ne_directory_of_none hnone'))
        with ⟨hnone', hnext⟩ | ⟨hthere', hnext⟩
      · rw [hnone'] at hmake'
        exact ⟨_, _, _, hmake, hmake', hnext, hopens, fun _ => hmade⟩
      · rw [hthere'] at hmake'
        exact ⟨_, _, _, hmake, hmake', hnext, hopens, fun _ => hmade⟩
  · rw [if_neg hshort] at hmake hmake'
    exact .of_eq h hmake hmake' nofun

theorem Abreast.agrees_makeFirst_of_components (h : pair.Abreast tree tree')
    (hnone : path.components = []) (count : Nat) :
    pair.Agrees (Disk.makeFirst (path.ancestorsUpTo count)) tree tree' fun made next =>
      made = .ok () → next.at? (aim pair.start.workDir path) = some .directory := by
  obtain ⟨above, hancestors⟩ := ancestorsUpTo_eq_cons count path
  rw [hancestors, Disk.makeFirst, if_pos hnone]
  refine .pure h fun _ => ?_
  rw [aim, hnone, List.foldl_nil, ← h.workDir_eq]
  exact h.form.workDir

theorem Abreast.agrees_makeFirst_of_null (h : pair.Abreast tree tree') (htidy : path.IsTidy)
    (hnull : '\x00' ∈ path.text.toList) (count : Nat) :
    pair.Agrees (Disk.makeFirst (path.ancestorsUpTo count)) tree tree' fun made next =>
      made = .ok () → next.at? (aim pair.start.workDir path) = some .directory := by
  by_cases hnone : path.components = []
  · exact h.agrees_makeFirst_of_components hnone count
  have hfirst (tree : FileTree) (above : List Path) :
      (Disk.makeFirst (path :: above) : StateM FileTree (Except DiskError Unit)) tree
        = (.error .badName, tree) := by
    have hlocate : tree.locate path = .error .badName := by
      rw [locate, if_pos (List.contains_iff_mem.mpr hnull)]
    have hcause : DiskError.badName ≠ .missing := by decide
    refine makeFirst_of_error hnone ?_ hcause ?_ above
    · rw [makeDirectory_eq htidy, hlocate]
    · rw [find?, hlocate]
      exact fun hfound => by cases hfound
  obtain ⟨above, hancestors⟩ := ancestorsUpTo_eq_cons count path
  rw [hancestors]
  exact .of_eq h (hfirst tree above) (hfirst tree' above) fun hmade => by cases hmade

theorem Abreast.agrees_makeFirst_of_names (h : pair.Abreast tree tree') (hpath : path.IsWalkable)
    (hnil : path.names = []) (count : Nat) :
    pair.Agrees (Disk.makeFirst (path.ancestorsUpTo count)) tree tree' fun made next =>
      made = .ok () → next.at? (aim pair.start.workDir path) = some .directory := by
  have haim (workDir : Location) : aim workDir path = origin workDir path := by
    rw [aim_of_isStraight _ hpath.straight, hnil]
    rfl
  have hopen {tree : FileTree} (hform : tree.WellFormed) :
      tree.at? (aim tree.workDir path) = some .directory :=
    haim tree.workDir ▸ hform.at?_origin path
  obtain ⟨above, hancestors⟩ := ancestorsUpTo_eq_cons count path
  rw [hancestors]
  exact .of_eq h (h.form.makeFirst_of_directory hpath (hopen h.form) above)
    (h.form'.makeFirst_of_directory hpath (hopen h.form') above)
    fun _ => h.workDir_eq ▸ hopen h.form

/-- **Making a directory and those above it**, from the outermost inwards. -/
theorem Abreast.agrees_makeFirst (h : pair.Abreast tree tree') (hstraight : path.IsStraight)
    (htidy : path.IsTidy)
    (hways : ∀ place, place <:+ aim pair.start.workDir path → pair.IsWay place) {count : Nat}
    (hcount : path.components.length ≤ count) :
    pair.Agrees (Disk.makeFirst (path.ancestorsUpTo count)) tree tree' fun made next =>
      made = .ok () → next.at? (aim pair.start.workDir path) = some .directory := by
  induction count generalizing path tree tree' with
  | zero =>
    have hnone : path.components = [] := List.eq_nil_of_length_eq_zero (Nat.le_zero.mp hcount)
    exact h.agrees_makeFirst_of_components hnone _
  | succ count ih =>
    by_cases hnull : '\x00' ∈ path.text.toList
    · exact h.agrees_makeFirst_of_null htidy hnull _
    have hpath : path.IsWalkable := ⟨hstraight, htidy, hnull⟩
    rcases List.eq_nil_or_concat' path.names with hnil | ⟨front, name, hnames⟩
    · exact h.agrees_makeFirst_of_names hpath hnil _
    obtain ⟨parent, hparent, hdrop, -⟩ := exists_parent?_of_names hstraight hnames
    obtain ⟨hwalkable, -⟩ := hpath.parent hnames hparent
    have haim := aim_parent hpath hnames hparent pair.start.workDir
    have hsuffix : aim pair.start.workDir parent <:+ aim pair.start.workDir path := by
      rw [haim, aim_of_isStraight _ hstraight, hnames, List.reverse_append]
      exact List.suffix_cons name _
    have hlength : parent.components.length ≤ count := by
      rw [hdrop, List.length_dropLast]
      omega
    have hcount : path.ancestorsUpTo (count + 1) = path :: parent.ancestorsUpTo count := by
      rw [ancestorsUpTo, hparent]
    rw [hcount]
    refine .congr (h.form.makeFirst_eq hpath hnames hparent count)
      (h.form'.makeFirst_eq hpath hnames hparent count) ?_
    refine (ih h hwalkable.straight hwalkable.tidy
      (fun place hplace => hways place (hplace.trans hsuffix)) hlength).bind
        fun made middle middle' habreast _ hopen => ?_
    cases made with
    | error error => exact .pure habreast fun hmade => by cases hmade
    | ok _ =>
      have hparentOpen := hopen rfl
      have hparentOpen' := habreast.ahead.at?_eq_some (hways _ hsuffix).theirs hparentOpen
      rw [haim] at hparentOpen hparentOpen'
      exact habreast.agrees_makeUnlessThere hpath hnames hparentOpen hparentOpen'
        (hways _ (List.suffix_refl _))

end Directories

end Pair

end FileTree

end Playscript
