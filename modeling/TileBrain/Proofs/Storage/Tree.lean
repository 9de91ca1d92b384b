import TileBrain.Proofs.Reported
import TileBrain.Storage.Tree

/-! # What a tree of files keeps

Writing makes the directories that are missing on the way and puts one file in its place. Whatever
else is there stays as it is: `FileTree.keeps_write` says so of every write, also of one that is
refused after it has made directories. `FileTree.resolve_write` adds that the path leads to what was
written, and `Keeps.resolve` that it still does after writes to other places.

Places tell files apart and paths do not, since a step up takes back the step before it.
-/

namespace TileBrain.FileTree

theorem node?_put {tree : FileTree} {place : Place} (named : place.names.isEmpty = false)
    (node : Node) (other : Place) :
    (tree.put place node).node? other = if place = other then some node else tree.node? other := by
  by_cases same : place = other
  · subst same
    simp [node?, put, named, Keyed.get?_put]
  · simp [node?, put, Keyed.get?_put, same]

/-- A way ends at what is there. -/
theorem node?_of_follow {tree : FileTree} {components : List String} {source target : Place}
    {node : Node} (leads : tree.follow source components = .ok (target, node)) :
    tree.node? target = some node := by
  induction components generalizing source with
  | nil =>
    unfold follow at leads
    split at leads
    next found =>
      cases leads
      exact found
    next => cases leads
  | cons component rest ih =>
    unfold follow at leads
    split at leads
    next => cases leads
    next => cases leads
    next =>
      split at leads
      next => exact ih leads
      next =>
        split at leads
        next => cases leads
        next => exact ih leads

/-- Where all directories stay, so does a way through them to something that stays. -/
theorem follow_of_keeps {tree after : FileTree}
    (keeps : ∀ place, tree.node? place = some .directory → after.node? place = some .directory)
    {components : List String} {source target : Place} {node : Node}
    (leads : tree.follow source components = .ok (target, node))
    (kept : after.node? target = some node) :
    after.follow source components = .ok (target, node) := by
  induction components generalizing source with
  | nil =>
    unfold follow at leads ⊢
    split at leads
    next =>
      cases leads
      rw [kept]
    next => cases leads
  | cons component rest ih =>
    unfold follow at leads ⊢
    split at leads
    next => cases leads
    next => cases leads
    next found =>
      rw [keeps source found]
      dsimp only
      split at leads
      next upward => rw [if_pos upward, ih leads]
      next named =>
        split at leads
        next => cases leads
        next short => rw [if_neg named, if_neg short, ih leads]

/-- The last step of a way, from a directory to something in it. -/
private theorem follow_append {tree : FileTree} {source directory : Place}
    {components : List String} {name : String} {node : Node}
    (leads : tree.follow source components = .ok (directory, .directory))
    (proper : name ≠ RelativePath.upward) (short : ¬longestName < name.utf8ByteSize)
    (found : tree.node? (directory.child name) = some node) :
    tree.follow source (components ++ [name]) = .ok (directory.child name, node) := by
  induction components generalizing source with
  | nil =>
    unfold follow at leads
    split at leads
    next there =>
      cases leads
      simp [follow, there, proper, short, found]
    next => cases leads
  | cons component rest ih =>
    rw [List.cons_append]
    unfold follow at leads ⊢
    split at leads
    next => cases leads
    next => cases leads
    next =>
      split at leads
      next upward => simpa only [upward, if_true] using ih leads
      next named =>
        split at leads
        next => cases leads
        next fits => simpa only [named, if_false, fits] using ih leads

/-- A destination is a proper name in a directory. -/
theorem destination?_eq_some {tree : FileTree} {path : RelativePath} {place : Place}
    (found : tree.destination? path = .ok (some place)) :
    checkText path = .ok () ∧ ∃ components name directory,
      path.components = components ++ [name] ∧
      tree.follow .start components = .ok (directory, .directory) ∧
      name ≠ RelativePath.upward ∧ ¬longestName < name.utf8ByteSize ∧
      place = directory.child name := by
  unfold destination? at found
  cases checked : checkText path with
  | error fault => simp [checked, bind, Except.bind] at found
  | ok _ =>
    refine ⟨rfl, ?_⟩
    simp only [checked, bind, Except.bind] at found
    split at found
    next => cases found
    next name last =>
      cases leads : tree.follow .start path.components.dropLast with
      | error fault => simp [leads] at found
      | ok reached =>
        obtain ⟨directory, node⟩ := reached
        simp only [leads] at found
        cases node with
        | file octets => cases found
        | directory =>
          simp only at found
          split at found
          next => cases found
          next proper =>
            split at found
            next => cases found
            next short =>
              cases found
              obtain ⟨before, ends⟩ := List.getLast?_eq_some_iff.mp last
              refine ⟨before, name, directory, ends, ?_, proper, short, rfl⟩
              simpa [ends] using leads

/-- A file is written where no directory is, at the place that the path then leads to. -/
theorem resolve_writeFile {tree written : FileTree} {path : RelativePath} {octets : List UInt8}
    {place : Place} (wrote : tree.writeFile path octets = .ok (written, place)) :
    place.names.isEmpty = false ∧ tree.node? place ≠ some .directory ∧
      written = tree.put place (.file octets) ∧
      written.resolve path = .ok (place, .file octets) := by
  unfold writeFile at wrote
  cases found : tree.destination? path with
  | error fault => simp [found, bind, Except.bind] at wrote
  | ok destination =>
    cases destination with
    | none => simp [found, bind, Except.bind, throw, throwThe, MonadExceptOf.throw] at wrote
    | some there =>
      simp only [found, bind, Except.bind] at wrote
      split at wrote
      next => cases wrote
      next vacant =>
        cases wrote
        obtain ⟨checked, components, name, directory, path_eq, leads, proper, short, rfl⟩ :=
          destination?_eq_some found
        have named : (directory.child name).names.isEmpty = false := by simp [Place.child]
        have here : (tree.put (directory.child name) (.file octets)).node? (directory.child name) =
            some (.file octets) := by
          rw [node?_put named, if_pos rfl]
        have kept : ∀ place, tree.node? place = some .directory →
            (tree.put (directory.child name) (.file octets)).node? place = some .directory := by
          intro place isDirectory
          have apart : directory.child name ≠ place := fun same => vacant (same ▸ isDirectory)
          rw [node?_put named, if_neg apart, isDirectory]
        have reached := follow_append
          (follow_of_keeps kept leads (kept directory (node?_of_follow leads))) proper short here
        refine ⟨named, vacant, rfl, ?_⟩
        simp [resolve, checked, path_eq, reached, bind, Except.bind]

theorem read_of_resolve {tree : FileTree} {path : RelativePath} {place : Place}
    {octets : List UInt8} (leads : tree.resolve path = .ok (place, .file octets)) :
    tree.read path = .ok octets := by
  simp [read, leads, bind, Except.bind, pure, Except.pure]

/-- Whatever is there stays as it is, except perhaps for a file at one place. -/
structure Keeps (tree after : FileTree) (spared : Option Place) : Prop where
  directories : ∀ place, tree.node? place = some .directory →
    after.node? place = some .directory
  files : ∀ place octets, tree.node? place = some (.file octets) → spared ≠ some place →
    after.node? place = some (.file octets)

section Keeps

variable {tree middle after : FileTree} {spared : Option Place} {path : RelativePath}

theorem keeps_refl (tree : FileTree) : tree.Keeps tree none :=
  ⟨fun _ found => found, fun _ _ found _ => found⟩

theorem Keeps.trans (first : tree.Keeps middle none) (second : middle.Keeps after spared) :
    tree.Keeps after spared where
  directories place found := second.directories place (first.directories place found)
  files place octets found apart :=
    second.files place octets (first.files place octets found nofun) apart

/-- A file that is there is found where it was, unless its place is the spared one. -/
theorem Keeps.resolve (keeps : tree.Keeps after spared) {place : Place} {octets : List UInt8}
    (leads : tree.resolve path = .ok (place, .file octets)) (apart : spared ≠ some place) :
    after.resolve path = .ok (place, .file octets) := by
  obtain ⟨_, checked, leads⟩ := exists_of_bind_eq_ok leads
  have kept := keeps.files place octets (node?_of_follow leads) apart
  have reached := follow_of_keeps keeps.directories leads kept
  simp [FileTree.resolve, checked, reached, bind, Except.bind]

theorem keeps_makeDirectory (made : tree.makeDirectory path = .ok after) :
    tree.Keeps after none := by
  obtain ⟨destination, _, made⟩ := exists_of_bind_eq_ok made
  cases destination with
  | none => exact nomatch made
  | some place =>
    dsimp only at made
    split at made
    next => exact nomatch made
    next vacant =>
      obtain rfl := Except.ok.inj made
      have named : place.names.isEmpty = false := by
        rw [Bool.eq_false_iff]
        intro start
        rw [node?, if_pos start] at vacant
        exact nomatch vacant
      have elsewhere {other : Place} {node : Node} (found : tree.node? other = some node) :
          (tree.put place .directory).node? other = some node := by
        have apart : place ≠ other := by
          rintro rfl
          exact nomatch vacant.symm.trans found
        rw [node?_put named, if_neg apart, found]
      exact ⟨fun _ => elsewhere, fun _ _ found _ => elsewhere found⟩

theorem keeps_ensureDirectory (tree : FileTree) (path : RelativePath) :
    tree.Keeps (tree.ensureDirectory path).1 none := by
  unfold ensureDirectory
  split
  next made => exact keeps_makeDirectory made
  next => exact keeps_refl tree

/-- Directories are only added, from the outermost one that is missing on. -/
theorem keeps_ensureDirectoriesUpward (tree : FileTree) (components : List String) :
    tree.Keeps (tree.ensureDirectoriesUpward components).1 none := by
  induction components with
  | nil => exact tree.keeps_ensureDirectory _
  | cons last before ih =>
    unfold ensureDirectoriesUpward
    dsimp only
    split
    next =>
      split
      next outer made =>
        rw [made] at ih
        exact ih.trans (outer.keeps_ensureDirectory _)
      next outer fault made =>
        rw [made] at ih
        exact ih
    next => exact tree.keeps_ensureDirectory _

theorem keeps_ensureParent (tree : FileTree) (path : RelativePath) :
    tree.Keeps (tree.ensureParent path).1 none :=
  tree.keeps_ensureDirectoriesUpward _

theorem keeps_writeFile {octets : List UInt8} {place : Place}
    (wrote : tree.writeFile path octets = .ok (after, place)) : tree.Keeps after (some place) := by
  obtain ⟨named, vacant, rfl, _⟩ := resolve_writeFile wrote
  constructor
  · intro other found
    have apart : place ≠ other := fun same => vacant (same ▸ found)
    rw [node?_put named, if_neg apart, found]
  · intro other octets found notSpared
    have apart : place ≠ other := fun same => notSpared (congrArg some same)
    rw [node?_put named, if_neg apart, found]

/-- A write changes no file but the one at the place that it answers. One that is refused changes
none. -/
theorem keeps_write (tree : FileTree) (path : RelativePath) (octets : List UInt8) :
    tree.Keeps (tree.write path octets).1 (tree.write path octets).2.toOption := by
  have parents := tree.keeps_ensureParent path
  unfold write
  split
  next made =>
    rw [made] at parents
    exact parents
  next made =>
    rw [made] at parents
    split
    next wrote => exact parents.trans (keeps_writeFile wrote)
    next => exact parents

/-- The path leads to what was written. -/
theorem resolve_write {octets : List UInt8} {place : Place}
    (wrote : tree.write path octets = (after, .ok place)) :
    after.resolve path = .ok (place, .file octets) := by
  unfold write at wrote
  split at wrote
  next => exact nomatch wrote
  next =>
    split at wrote
    next isWritten =>
      cases wrote
      exact (resolve_writeFile isWritten).2.2.2
    next => exact nomatch wrote

end Keeps

end TileBrain.FileTree
