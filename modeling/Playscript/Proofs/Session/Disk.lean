import Playscript.Proofs.Disk
import Playscript.Session

/-!
# What a session does to its tree

A session works on a file tree and keeps beside it what was told. What only
works on files tells nothing; so in a session it does to the tree what it does
to a tree alone (`Session.onTree`), and what is known of writing outputs on
trees is known of it in sessions.
-/

namespace Playscript

namespace Session

theorem onTree_of_eq {α : Type} {op : StateM FileTree α} {session : Session} {value : α}
    {after : FileTree} (h : op session.tree = (value, after)) :
    onTree op session = (value, { session with tree := after }) := by
  rw [onTree, h]

/-- **A session has its tree for a disk.** -/
theorem carriesAll_onTree : Disk.CarriesAll (@onTree) where
  pure_eq _ := rfl
  bind_eq _ _ := rfl
  isThere_eq _ := rfl
  isDirectory_eq _ := rfl
  makeDirectory_eq _ := rfl
  moveFile_eq _ _ := rfl
  removeFile_eq _ := rfl
  writeText_eq _ _ := rfl

end Session

namespace Output

open Session

/-- Drafts are written together in a session as on its tree. -/
theorem onTree_writeAll (drafts : List Draft) (options : WriteOptions) :
    onTree (writeAll drafts options) = writeAll drafts options :=
  carriesAll_onTree.writeAll drafts options

/-- The base class is written in a session as on its tree. -/
theorem onTree_ensureBase (dir : Path) : onTree (ensureBase dir) = ensureBase dir :=
  carriesAll_onTree.ensureBase dir

end Output

end Playscript
