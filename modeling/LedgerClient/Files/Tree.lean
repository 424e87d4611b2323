import LedgerClient.Bytes.Utf8
import LedgerClient.Files.Path
import LedgerClient.Value.Record

/-!
A tree of files below a working directory, and what reading from it comes to.
-/

namespace LedgerClient.Files

inductive Node where
  | directory
  | file (content : Bytes)

structure Tree where
  nodes : List (List String × Node)

inductive Fault where
  | missing
  /-- A directory, or a part below a file. -/
  | unreadable

namespace Tree

/-- A tree from a record of paths. A file stands there as text or as bytes. -/
def ofRecord (ms : Members) : Tree :=
  ⟨ms.map fun m => ((Path.ofText m.1).parts, match m.2 with
    | .bytes bs => .file bs
    | .text "dir" => .directory
    | v => .file (Utf8.encode ((v.text?).getD "")))⟩

/-- The node at a place. Whatever lies above a node is a directory. -/
def at? (t : Tree) (place : List String) : Option Node :=
  match t.nodes.lookup place with
  | some n => some n
  | none =>
    if place.isEmpty || t.nodes.any (fun n => place.isPrefixOf n.1) then some .directory else none

/-- Reading from outside the working directory, of which no more is known than that the root and
the directories above are there. -/
def aboveAll (parts : List String) : Except Fault Bytes :=
  .error (if parts.all (· == "..") then .unreadable else .missing)

/-- Follows parts from a place downwards. -/
def walk (t : Tree) (place : List String) : List String → Except Fault Bytes
  | [] => match t.at? place with
    | some (.file content) => .ok content
    | some .directory => .error .unreadable
    | none => .error .missing
  | part :: rest => match t.at? place with
    | some (.file _) => .error .unreadable
    | none => .error .missing
    | some .directory =>
      if part == ".." then
        if place.isEmpty then aboveAll rest else t.walk place.dropLast rest
      else t.walk (place ++ [part]) rest

def read (t : Tree) (p : Path) : Except Fault Bytes :=
  if p.slashes = 0 then t.walk [] p.parts else aboveAll p.parts

end Tree

end LedgerClient.Files
