import Playscript.FileTree

/-!
# Volumes

A volume is a file tree with limited room. A write for which there is too
little ends before its text does, and what it has made by then stays: there
is a file, and it holds the beginning of the text.

How much room there is does not follow from the tree, since others write to
the disk as well and take their files away again. So a volume has the room
for each of the writes that are to come, whatever it may be. Nothing else
that is done with a tree takes room.
-/

namespace Playscript

/-- **A file tree with limited room.** -/
structure Volume where
  /-- The file tree. -/
  tree : FileTree
  /-- How many bytes there is room for at each of the writes to come. Behind
  the last of them there is room for all. -/
  rooms : List Nat

namespace Volume

/-- Does something to the file tree. -/
def onTree {α : Type} (act : StateM FileTree α) : StateM Volume α := fun volume =>
  let (value, tree) := act volume.tree
  (value, { volume with tree })

/-- Writes a text as far as there is room. -/
def writeText (path : Path) (text : String) : StateM Volume (Except DiskError Unit) :=
  fun volume =>
    match volume.rooms with
    | [] => onTree (Disk.writeText path text) volume
    | room :: rooms =>
      onTree (FileTree.writeWithin room path text) { volume with rooms }

/-- **A volume is a disk.** -/
instance : Disk (StateM Volume) where
  isThere path := onTree (Disk.isThere path)
  isFile path := onTree (Disk.isFile path)
  isDirectory path := onTree (Disk.isDirectory path)
  names path := onTree (Disk.names path)
  readText path := onTree (Disk.readText path)
  writeText := writeText
  makeDirectory path := onTree (Disk.makeDirectory path)
  moveFile source target := onTree (Disk.moveFile source target)
  removeFile path := onTree (Disk.removeFile path)

end Volume

end Playscript
