import Playscript.Console
import Playscript.FileTree

/-!
# Sessions

A run of the program in memory: the file tree it works on, and what it has
told so far.
-/

namespace Playscript

/-- **The state of a run in memory.** -/
structure Session where
  /-- The file tree. -/
  tree : FileTree
  /-- What has been told, in order. -/
  told : List Notice

namespace Session

/-- Does something to the file tree. -/
def onTree {α : Type} (act : StateM FileTree α) : StateM Session α := fun session =>
  let (value, tree) := act session.tree
  (value, { session with tree })

/-- The disk of a session is its file tree. -/
instance : Disk (StateM Session) where
  isThere path := onTree (Disk.isThere path)
  isFile path := onTree (Disk.isFile path)
  isDirectory path := onTree (Disk.isDirectory path)
  names path := onTree (Disk.names path)
  readText path := onTree (Disk.readText path)
  writeText path text := onTree (Disk.writeText path text)
  makeDirectory path := onTree (Disk.makeDirectory path)
  moveFile source target := onTree (Disk.moveFile source target)
  removeFile path := onTree (Disk.removeFile path)

/-- What is told is kept. -/
instance : Console (StateM Session) where
  tell notice := modify fun session => { session with told := session.told ++ [notice] }

end Session

end Playscript
