import PhantomTracker.Foundation.FiniteMap

/-!
Contract: path names, and a tree of directories and files.

Owns: the names in the text of a path with its dots resolved, the calls that make,
remove and list the entries of a tree, the one entry that each of them changes, and what
is left after a list of files has been removed.

Does not own: symbolic links, permissions, or what the files hold.
-/

namespace PhantomTracker.Foundation

universe u

abbrev FileName := List UInt8

/-! ## Paths -/

/-- The character that separates the names in a path. -/
def slash : UInt8 := 47

/-- The names below a directory and the next component of a path: `.` and an empty
component stay there, and `..` leaves it. -/
def enter (names : List FileName) (component : FileName) : List FileName :=
  if component = [] ∨ component = [46] then names
  else if component = [46, 46] then names.dropLast
  else names ++ [component]

/-- The names that the text of an absolute path leads to. -/
def resolve (text : List UInt8) : List FileName := (text.splitOn slash).foldl enter []

/-- A path with one more component. -/
theorem resolve_child (text : List UInt8) {component : FileName} (plain : slash ∉ component) :
    resolve (text ++ slash :: component) = enter (resolve text) component := by
  unfold resolve
  rw [List.splitOn_append_cons_self, List.foldl_append, List.splitOn_eq_singleton plain]
  rfl

/-- A component that is the name of an entry. -/
structure Proper (name : FileName) : Prop where
  plain : slash ∉ name
  nonempty : name ≠ []
  notDot : name ≠ [46]
  notDots : name ≠ [46, 46]

instance (name : FileName) : Decidable (Proper name) :=
  decidable_of_iff (slash ∉ name ∧ name ≠ [] ∧ name ≠ [46] ∧ name ≠ [46, 46])
    ⟨fun ⟨plain, nonempty, notDot, notDots⟩ => ⟨plain, nonempty, notDot, notDots⟩,
      fun ⟨plain, nonempty, notDot, notDots⟩ => ⟨plain, nonempty, notDot, notDots⟩⟩

theorem Proper.enter {name : FileName} (proper : Proper name) (names : List FileName) :
    enter names name = names ++ [name] := by
  unfold Foundation.enter
  rw [if_neg (not_or.mpr ⟨proper.nonempty, proper.notDot⟩), if_neg proper.notDots]

/-! ## The tree -/

inductive PathNode (φ : Type u) where
  | directory
  | file (object : φ)
deriving DecidableEq

/-- The entries below a root, by the names that lead to them. -/
abbrev PathTree (φ : Type u) := FiniteMap (List FileName) (PathNode φ)

namespace PathTree

variable {φ : Type u}

def isDirectory (tree : PathTree φ) (path : List FileName) : Bool :=
  match path, tree.lookup path with
  | [], _ => true
  | _, some .directory => true
  | _, _ => false

def isFile (tree : PathTree φ) (path : List FileName) : Bool :=
  match tree.lookup path with
  | some (.file _) => true
  | _ => false

/-- There is an entry, or the path is the root. -/
def occupied (tree : PathTree φ) (path : List FileName) : Bool :=
  path.isEmpty || (tree.lookup path).isSome

inductive PathError where
  | eexist
  | enoent
deriving DecidableEq, Repr

def mkdir (tree : PathTree φ) (path : List FileName) : Except PathError (PathTree φ) :=
  if tree.occupied path then .error .eexist
  else if tree.isDirectory path.dropLast then .ok (tree.insert path .directory)
  else .error .enoent

/-- A new file, where there is no entry and the directory exists. -/
def create (tree : PathTree φ) (path : List FileName) (object : φ) : Option (PathTree φ) :=
  if tree.occupied path || !tree.isDirectory path.dropLast then none
  else some (tree.insert path (.file object))

/-- The tree after `unlink`, which fails for everything but a file. -/
def unlink (tree : PathTree φ) (path : List FileName) : PathTree φ :=
  if tree.isFile path then tree.erase path else tree

/-- The names in a directory. -/
def children (tree : PathTree φ) (path : List FileName) : List FileName :=
  tree.keys.filterMap fun key => if key.dropLast = path then key.getLast? else none

/-- The tree after `rmdir`, which fails for the root, for a file and for a directory that
is not empty. -/
def rmdir (tree : PathTree φ) (path : List FileName) : PathTree φ :=
  if path ≠ [] ∧ tree.isDirectory path = true ∧ tree.children path = [] then tree.erase path
  else tree

variable {tree next : PathTree φ} {path other : List FileName}

theorem isFile_iff : tree.isFile path = true ↔ ∃ object, tree.lookup path = some (.file object) := by
  unfold isFile
  constructor
  · intro holds
    split at holds
    · exact ⟨_, ‹_›⟩
    · cases holds
  · rintro ⟨object, found⟩
    rw [found]

theorem isDirectory_iff (below : path ≠ []) :
    tree.isDirectory path = true ↔ tree.lookup path = some .directory := by
  cases path with
  | nil => exact absurd rfl below
  | cons name rest =>
      simp only [isDirectory]
      constructor
      · intro holds
        split at holds
        · contradiction
        · assumption
        · cases holds
      · intro found
        rw [found]

theorem mem_children {name : FileName} :
    name ∈ tree.children path ↔ (tree.lookup (path ++ [name])).isSome = true := by
  unfold children
  rw [List.mem_filterMap, AList.lookup_isSome]
  constructor
  · rintro ⟨key, member, isName⟩
    split_ifs at isName with inside
    have whole : key = path ++ [name] := by
      rw [← inside]
      exact (List.dropLast_append_getLast? name isName).symm
    rwa [← whole]
  · intro member
    exact ⟨path ++ [name], member, by simp⟩

/-! ## What a call changes -/

theorem mkdir_ok (made : tree.mkdir path = .ok next) :
    (path ≠ [] ∧ tree.lookup path = none) ∧ next.lookup path = some .directory := by
  unfold mkdir at made
  split_ifs at made with taken
  obtain rfl := Except.ok.inj made
  simp only [occupied, Bool.or_eq_true, List.isEmpty_iff, not_or, Option.isSome_iff_ne_none,
    not_not] at taken
  exact ⟨taken, AList.lookup_insert tree⟩

theorem lookup_mkdir (made : tree.mkdir path = .ok next) (different : other ≠ path) :
    next.lookup other = tree.lookup other := by
  unfold mkdir at made
  split_ifs at made
  obtain rfl := Except.ok.inj made
  exact AList.lookup_insert_ne different

theorem create_self {object : φ} (made : tree.create path object = some next) :
    next.lookup path = some (.file object) := by
  unfold create at made
  split_ifs at made
  obtain rfl := Option.some.inj made
  exact AList.lookup_insert tree

theorem lookup_create {object : φ} (made : tree.create path object = some next)
    (different : other ≠ path) : next.lookup other = tree.lookup other := by
  unfold create at made
  split_ifs at made
  obtain rfl := Option.some.inj made
  exact AList.lookup_insert_ne different

theorem lookup_unlink (tree : PathTree φ) (path other : List FileName) :
    (tree.unlink path).lookup other =
      if other = path ∧ tree.isFile path = true then none else tree.lookup other := by
  unfold unlink
  by_cases file : tree.isFile path = true
  · rw [if_pos file]
    by_cases same : other = path
    · subst same
      rw [if_pos ⟨rfl, file⟩, AList.lookup_erase]
    · rw [if_neg fun both => same both.1, AList.lookup_erase_ne same]
  · rw [if_neg file, if_neg fun both => file both.2]

theorem lookup_rmdir (different : other ≠ path) :
    (tree.rmdir path).lookup other = tree.lookup other := by
  unfold rmdir
  split_ifs
  · exact AList.lookup_erase_ne different
  · rfl

theorem lookup_of_rmdir {node : PathNode φ}
    (found : (tree.rmdir path).lookup other = some node) : tree.lookup other = some node := by
  unfold rmdir at found
  split_ifs at found
  · by_cases same : other = path
    · rw [same, AList.lookup_erase] at found
      cases found
    · rwa [AList.lookup_erase_ne same] at found
  · exact found

/-- The tree after the files under a list of paths have been removed. -/
def unlinkAll (tree : PathTree φ) (paths : List (List FileName)) : PathTree φ :=
  paths.foldl unlink tree

theorem lookup_unlinkAll (tree : PathTree φ) (paths : List (List FileName))
    (other : List FileName) :
    (tree.unlinkAll paths).lookup other =
      if other ∈ paths ∧ tree.isFile other = true then none else tree.lookup other := by
  unfold unlinkAll
  induction paths generalizing tree with
  | nil => simp
  | cons path rest inductionHypothesis =>
      rw [List.foldl_cons, inductionHypothesis]
      by_cases same : other = path
      · subst same
        by_cases file : tree.isFile other = true
        · have gone : (tree.unlink other).lookup other = none := by
            rw [lookup_unlink, if_pos ⟨rfl, file⟩]
          rw [gone, ite_self, if_pos ⟨List.mem_cons_self, file⟩]
        · have still : tree.unlink other = tree := if_neg file
          rw [still, if_neg fun both => file both.2, if_neg fun both => file both.2]
      · have kept : (tree.unlink path).lookup other = tree.lookup other := by
          rw [lookup_unlink, if_neg fun both => same both.1]
        have still : (tree.unlink path).isFile other = tree.isFile other := by
          unfold isFile
          rw [kept]
        rw [still, kept]
        simp only [List.mem_cons, same, false_or]

end PathTree

end PhantomTracker.Foundation
