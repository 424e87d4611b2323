import LedgerClient.Bytes.Utf8
import LedgerClient.Error.Basic
import LedgerClient.Hash.Keyed

/-!
Hierarchical derivation of keys. Only hardened children exist, so every component of a path is
marked by an apostrophe.
-/

namespace LedgerClient.Seed

def standardPath : String := "m/44'/397'/0'"

def hardened : Nat := Nat.pow 2 31

def pathFault (what part path : String) : Error :=
  .plain .derivation (what ++ " '" ++ part ++ "' in " ++ path)

def component (path : String) (part : List Char) : Except Error Nat :=
  let shown := String.ofList part
  if part.getLast? ≠ some '\'' then .error (pathFault "Non-hardened path component" shown path)
  else match Text.wholeNumber? (String.ofList part.dropLast) with
    | none => .error (.client .derivation
        ("Invalid path component '" ++ shown ++ "' in " ++ path) [] (some (.badValue "")))
    | some n =>
      if 0 ≤ n ∧ n < hardened then .ok (n.toNat + hardened)
      else .error (pathFault "Path component out of range" shown path)

/-- The child indexes of a path. -/
def parsePath (path : String) : Except Error (List Nat) :=
  match Text.splitOn (· == '/') (Text.trim path.toList) with
  | ['m'] :: parts => parts.mapM (component path)
  | _ => .error (.plain .derivation ("HD path must start with 'm': " ++ path))

/-- One step down: the first half of the digest is the key, the second the chain code. -/
def child (node : Bytes) (index : Nat) : Bytes :=
  Keyed.digest (node.drop 32) (0 :: node.take 32 ++ Bytes.ofNatBE 4 index)

def root (seed : Bytes) : Bytes := Keyed.digest (Utf8.encode "ed25519 seed") seed

def derive (seed : Bytes) (path : String) : Except Error Bytes := do
  return ((← parsePath path).foldl child (root seed)).take 32

end LedgerClient.Seed
