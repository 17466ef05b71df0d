import Mathdown.Cache
import Mathdown.Cache.Entry
import Mathdown.Digest.Sha256
import Mathdown.FileTree

/-!
A cache in a directory. Each entry is a file, named by the digest of its key, in a directory of
its own first two digits. A file beside them holds the version of the cache; opening the cache with
another version empties it. What cannot be read or written is passed over.
-/

namespace Mathdown.Cache

structure Directory where
  tree : FileTree
  root : FileTree.Place
  /-- The file name of a key. -/
  nameOf : String → String := Sha256.hex

namespace Directory

def versionPlace (root : FileTree.Place) : FileTree.Place := root ++ ["VERSION"]

/-- Makes the directory anew, with a version and no entries. -/
def renew (tree : FileTree) (root : FileTree.Place) (version : String) : FileTree :=
  let cleared := (tree.removeAll root).toOption.getD tree
  match cleared.createAll root with
  | .error _ => cleared
  | .ok made => (made.write (versionPlace root) version.toUTF8).toOption.getD made

/-- Opens a cache. Entries of another version are removed. -/
def openAt (tree : FileTree) (root : FileTree.Place) (version : String) : Directory :=
  match tree.readText (versionPlace root) with
  | .ok stored => if stored = version then ⟨tree, root, Sha256.hex⟩
    else ⟨renew tree root version, root, Sha256.hex⟩
  | .error _ => ⟨renew tree root version, root, Sha256.hex⟩

def shelf (d : Directory) (key : String) : FileTree.Place :=
  d.root ++ [String.ofList ((d.nameOf key).toList.take 2)]

/-- The place of an entry. -/
def place (d : Directory) (key : String) : FileTree.Place := d.shelf key ++ [d.nameOf key]

def get? (d : Directory) (key : String) : Option String :=
  match d.tree.read (d.place key) with
  | .ok bytes => Entry.decode? key bytes
  | .error _ => none

/-- The tree after an entry has been written, as far as that goes. -/
def treeAfter (d : Directory) (key html : String) : FileTree :=
  match d.tree.createAll (d.shelf key) with
  | .error _ => d.tree
  | .ok made =>
    if key.utf8ByteSize < Entry.maxKey then
      (made.write (d.place key) (Entry.encode key html)).toOption.getD made
    else made

def set (d : Directory) (key html : String) : Directory :=
  { d with tree := d.treeAfter key html }

end Directory

instance : Cache Directory where
  get? := Directory.get?
  set := Directory.set

/-- A cache of any kind. -/
inductive Store where
  | memory (m : Memory)
  | null (n : Null)
  | directory (d : Directory)

namespace Store

def get? : Store → String → Option String
  | .memory m, key => Cache.get? m key
  | .null n, key => Cache.get? n key
  | .directory d, key => Cache.get? d key

def set : Store → String → String → Store
  | .memory m, key, html => .memory (Cache.set m key html)
  | .null n, key, html => .null (Cache.set n key html)
  | .directory d, key, html => .directory (Cache.set d key html)

end Store

instance : Cache Store where
  get? := Store.get?
  set := Store.set

end Mathdown.Cache
