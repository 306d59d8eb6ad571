import Playscript.Output

/-!
# From one disk to another

The operations of several steps are made of those of a disk, and whatever the
disk is they are made of them in the same way. So if the single operations of
one disk are carried to those of another, and doing one thing after another to
doing one thing after another, then so are the operations of several steps
(`Disk.Carries`). What is known of them on the one disk is then known of them
on the other.

Writing is asked for apart (`Disk.CarriesAll`). What writes no text, such as
moving files into place, is the same on two disks that differ in how they
write.
-/

namespace Playscript

namespace Disk

section

variable {m n : Type → Type} [Monad m] [Disk m] [Monad n] [Disk n]

/-- **What is done on one disk is done on another**, as far as it is not
writing. -/
structure Carries (carry : {α : Type} → m α → n α) : Prop where
  /-- Nothing is done. -/
  pure_eq : ∀ {α : Type} (value : α), carry (pure value) = pure value
  /-- One thing is done after another. -/
  bind_eq : ∀ {α β : Type} (op : m α) (next : α → m β),
    carry (op >>= next) = carry op >>= fun value => carry (next value)
  /-- It is looked for what is there. -/
  isThere_eq : ∀ path, carry (isThere path) = isThere path
  /-- It is looked for a directory. -/
  isDirectory_eq : ∀ path, carry (isDirectory path) = isDirectory path
  /-- A directory is made. -/
  makeDirectory_eq : ∀ path, carry (makeDirectory path) = makeDirectory path
  /-- A file is moved. -/
  moveFile_eq : ∀ source target, carry (moveFile source target) = moveFile source target
  /-- A file is removed. -/
  removeFile_eq : ∀ path, carry (removeFile path) = removeFile path

/-- **What is done on one disk is done on another.** -/
structure CarriesAll (carry : {α : Type} → m α → n α) : Prop extends Carries (@carry) where
  /-- A text is written. -/
  writeText_eq : ∀ path text, carry (writeText path text) = writeText path text

end

namespace Carries

variable {m n : Type → Type} [Monad m] [Disk m] [Monad n] [Disk n]
  {carry : {α : Type} → m α → n α} (h : Carries (@carry))

include h

/-- **One thing after another**, each of them known on the other disk. -/
theorem bind {α β : Type} {op : m α} {next : α → m β} {op' : n α} {next' : α → n β}
    (hop : carry op = op') (hnext : ∀ value, carry (next value) = next' value) :
    carry (op >>= next) = op' >>= next' := by
  rw [h.bind_eq, hop, funext hnext]

theorem makeUnlessThere (path : Path) :
    carry (Disk.makeUnlessThere path) = Disk.makeUnlessThere path := by
  refine h.bind (h.makeDirectory_eq path) fun made => ?_
  cases made with
  | ok _ => exact h.pure_eq _
  | error error => exact h.bind (h.isDirectory_eq path) fun _ => h.pure_eq _

theorem makeFirst (paths : List Path) :
    carry (Disk.makeFirst paths) = Disk.makeFirst paths := by
  induction paths with
  | nil => exact h.pure_eq _
  | cons path above ih =>
    rw [Disk.makeFirst, Disk.makeFirst]
    split
    · exact h.pure_eq _
    refine h.bind (h.makeDirectory_eq path) fun made => ?_
    split
    · exact h.pure_eq _
    · refine h.bind ih fun made => ?_
      cases made with
      | ok _ => exact h.makeUnlessThere path
      | error error => exact h.pure_eq _
    · exact h.bind (h.isDirectory_eq path) fun _ => h.pure_eq _

theorem firstThere? (paths : List Path) :
    carry (Output.firstThere? paths) = Output.firstThere? paths := by
  induction paths with
  | nil => exact h.pure_eq _
  | cons path paths ih =>
    refine h.bind (h.isThere_eq path) fun found => ?_
    cases found with
    | true => exact h.pure_eq _
    | false => exact ih

theorem makeParent (target : Path) :
    carry (Output.makeParent target) = Output.makeParent target := by
  rw [Output.makeParent, Output.makeParent]
  split
  · split
    · exact h.pure_eq _
    · exact h.makeFirst _
  · exact h.pure_eq _

theorem discard (targets : List Path) :
    carry (Output.discard targets) = Output.discard targets := by
  induction targets with
  | nil => exact h.pure_eq _
  | cons target targets ih => exact h.bind (h.removeFile_eq _) fun _ => ih

/-- **Moving into place** is the same on both disks. -/
theorem placeAll (targets : List Path) :
    carry (Output.placeAll targets) = Output.placeAll targets := by
  induction targets with
  | nil => exact h.pure_eq _
  | cons target targets ih =>
    refine h.bind (h.moveFile_eq _ _) fun moved => ?_
    cases moved with
    | ok _ => exact ih
    | error error => exact h.bind (h.discard (target :: targets)) fun _ => h.pure_eq _

end Carries

namespace CarriesAll

variable {m n : Type → Type} [Monad m] [Disk m] [Monad n] [Disk n]
  {carry : {α : Type} → m α → n α} (h : CarriesAll (@carry))

include h

theorem stage (draft : Draft) : carry (Output.stage draft) = Output.stage draft := by
  refine h.bind (h.makeParent draft.1) fun made => ?_
  cases made with
  | ok _ => exact h.writeText_eq _ _
  | error error => exact h.pure_eq _

theorem stageAll (staged : List Path) (drafts : List Draft) :
    carry (Output.stageAll staged drafts) = Output.stageAll staged drafts := by
  induction drafts generalizing staged with
  | nil => exact h.pure_eq _
  | cons draft drafts ih =>
    refine h.bind (h.stage draft) fun made => ?_
    cases made with
    | ok _ => exact ih _
    | error error => exact h.bind (h.discard staged) fun _ => h.pure_eq _

theorem replaceAll (drafts : List Draft) :
    carry (Output.replaceAll drafts) = Output.replaceAll drafts := by
  refine h.bind (h.stageAll [] drafts) fun staged => ?_
  cases staged with
  | ok _ => exact h.placeAll _
  | error error => exact h.pure_eq _

theorem writeOrPreview (drafts : List Draft) (dryRun : Bool) :
    carry (Output.writeOrPreview drafts dryRun) = Output.writeOrPreview drafts dryRun := by
  rw [Output.writeOrPreview, Output.writeOrPreview]
  split
  · exact h.pure_eq _
  · refine h.bind (h.replaceAll drafts) fun replaced => ?_
    cases replaced <;> exact h.pure_eq _

/-- **Writing drafts together** is the same on both disks. -/
theorem writeAll (drafts : List Draft) (options : WriteOptions) :
    carry (Output.writeAll drafts options) = Output.writeAll drafts options := by
  rw [Output.writeAll, Output.writeAll]
  split
  · exact h.writeOrPreview drafts options.dryRun
  · refine h.bind (h.firstThere? _) fun found => ?_
    cases found with
    | some existing => exact h.pure_eq _
    | none => exact h.writeOrPreview drafts options.dryRun

/-- **Writing the base class** is the same on both disks. -/
theorem ensureBase (dir : Path) : carry (Output.ensureBase dir) = Output.ensureBase dir := by
  refine h.bind (h.isThere_eq _) fun found => ?_
  cases found with
  | true => exact h.pure_eq _
  | false =>
    refine h.bind (h.makeFirst dir.ancestors) fun made => ?_
    cases made with
    | error error => exact h.pure_eq _
    | ok _ =>
      refine h.bind (h.writeText_eq _ _) fun written => ?_
      cases written <;> exact h.pure_eq _

end CarriesAll

end Disk

end Playscript
