import Escaping.Failure

/-!
The files that settings are read from. Of the files of a machine nothing is known but what opening
each path gives; they are named by octets, and a path is a text that stands for some. A tree of
files is one such machine, on which paths lead from directory to directory.
-/

namespace Escaping

/-- The files of a machine, by what opening each path for reading gives. -/
structure FileSystem where
  read : Octets → Except OpenFault Octets

namespace FileSystem

/-- The octets that a code point of a path stands for. The surrogates U+DC80 to U+DCFF stand for
single octets that are part of no UTF-8 form; no other surrogate stands for any. -/
def octetsOfPoint? (point : CodePoint) : Option Octets :=
  if !point.isSurrogate then some (Utf8.ofCodePoint point)
  else if 0xdc80 ≤ point.val ∧ point.val ≤ 0xdcff then some [.ofNat (point.val - 0xdc00)]
  else none

def octetsOfPath? (path : Text) : Option Octets := (path.mapM octetsOfPoint?).map List.flatten

end FileSystem

inductive FileEntry where
  | file (contents : Octets)
  | directory
deriving DecidableEq

/-- The files and directories of a machine, each under the names that lead to it from the top. -/
abbrev FileTree := List (List Octets × FileEntry)

namespace FileTree

def slash : UInt8 := 0x2f

/-- The longest name of a file, in octets, and the longest path with its end mark. -/
def maxNameLength : Nat := 255

def maxPathLength : Nat := 4096

/-- The names along a path; a slash at the end gives an empty last one. -/
def names : Octets → List Octets
  | [] => [[]]
  | head :: tail =>
      if head = slash then [] :: names tail
      else match names tail with
        | [] => [[head]]
        | name :: rest => (head :: name) :: rest

/-- A single dot, which leads nowhere else, and two of them, which lead out of a directory. -/
def dot : Octets := [0x2e]

def dots : Octets := [0x2e, 0x2e]

def staysInPlace (name : Octets) : Bool := name.isEmpty || name = dot

/-- The names that lead to the place of a path; those that lead nowhere else do not count. -/
def placeOf (path : Octets) : List Octets := (names path).filter (!staysInPlace ·)

/-- The tree of files under their paths from the top. -/
def ofPaths (files : List (Text × FileEntry)) : FileTree :=
  files.filterMap fun (path, entry) =>
    (FileSystem.octetsOfPath? path).map fun octets => (placeOf octets, entry)

/-- The entry under some names; what leads to an entry is a directory. -/
def entry? (tree : FileTree) (place : List Octets) : Option FileEntry :=
  (tree.lookup place).or
    (if tree.any fun (each, _) => place.isPrefixOf each then some .directory else none)

/-- Follows names from a place in a tree. Nothing leads out of the top. After a file no other name
may follow, not even an empty one, and a directory cannot be read. -/
def follow (tree : FileTree) (place : List Octets) : List Octets → Except OpenFault Octets
  | [] => .error .directory
  | name :: rest =>
      if staysInPlace name then follow tree place rest
      else if name = dots then follow tree place.dropLast rest
      else if maxNameLength < name.length then .error .nameTooLong
      else match tree.entry? (place ++ [name]) with
        | none => .error .missing
        | some (.file contents) => if rest.isEmpty then .ok contents else .error .notADirectory
        | some .directory => follow tree (place ++ [name]) rest

/-- Opens a path for reading. An absolute path starts at the top of the tree, and any other in the
directory that is worked in. -/
def read (tree : FileTree) (directory : List Octets) (path : Octets) : Except OpenFault Octets :=
  if path.isEmpty then .error .missing
  else if maxPathLength ≤ path.length then .error .nameTooLong
  else if path.head? = some slash then follow tree [] (names path)
  else follow tree directory (names path)

/-- The machine that holds the files of a tree, for work in one of its directories. -/
def system (tree : FileTree) (directory : List Octets) : FileSystem := ⟨tree.read directory⟩

/-- Where no directory is named, work is done at the top. -/
instance : Coe FileTree FileSystem := ⟨fun tree => tree.system []⟩

end FileTree

end Escaping
