import VoxType.Library.Effects

/-!
# Files that fail

A disk is a map from paths to contents. Every step may fail; a write that
fails may have written a part. What goes wrong is read off a list of faults,
one for each step, and nothing goes wrong after its end.
-/

namespace Files

set_option autoImplicit false

abbrev Tree : Type := String → Option (List UInt8)

inductive Fault
  | none
  | fails (written : Nat) (message : String)
  deriving DecidableEq, Repr

structure Disk where
  tree : Tree
  faults : List Fault

/-- The fault of a step to come. -/
def Disk.fault (disk : Disk) (position : Nat) : Fault := disk.faults.getD position .none

theorem Disk.fault_tail (tree : Tree) (disk : Disk) (position : Nat) :
    (Disk.mk tree disk.faults.tail).fault position = disk.fault (position + 1) := by
  rw [Disk.fault, Disk.fault, List.getD_eq_getElem?_getD, List.getD_eq_getElem?_getD,
    List.getElem?_tail]

abbrev FileCall (α : Type) : Type := Effects.Call Disk String Empty α

def step {α : Type} (act : Tree → Fault → Except String α × Tree) : FileCall α where
  run disk :=
    let done := act disk.tree (disk.faults.headD .none)
    ⟨done.1, ⟨done.2, disk.faults.tail⟩, []⟩

def missing : String := "No such file or directory"

def read (path : String) : FileCall (List UInt8) :=
  step fun tree fault =>
    match fault, tree path with
    | .fails _ message, _ => (.error message, tree)
    | .none, some contents => (.ok contents, tree)
    | .none, none => (.error missing, tree)

def size (path : String) : FileCall Nat :=
  step fun tree fault =>
    match fault, tree path with
    | .fails _ message, _ => (.error message, tree)
    | .none, some contents => (.ok contents.length, tree)
    | .none, none => (.error missing, tree)

/-- The file is made, or emptied if it is there. -/
def create (path : String) : FileCall Unit :=
  step fun tree fault =>
    match fault with
    | .fails _ message => (.error message, tree)
    | .none => (.ok (), Function.update tree path (some []))

def appended (tree : Tree) (path : String) (bytes : List UInt8) : Tree :=
  Function.update tree path ((tree path).map (· ++ bytes))

/-- Bytes at the end of an open file. -/
def writeAll (path : String) (bytes : List UInt8) : FileCall Unit :=
  step fun tree fault =>
    match fault with
    | .fails written message => (.error message, appended tree path (bytes.take written))
    | .none => (.ok (), appended tree path bytes)

def write (path : String) (bytes : List UInt8) : FileCall Unit := do
  create path
  writeAll path bytes

def remove (path : String) : FileCall Unit :=
  step fun tree fault =>
    match fault, tree path with
    | .fails _ message, _ => (.error message, tree)
    | .none, some _ => (.ok (), Function.update tree path none)
    | .none, none => (.error missing, tree)

/-- A removal whose answer nobody looks at, with a fault of its own. -/
def discard (path : String) (fault : Fault) : FileCall Unit where
  run disk :=
    ⟨.ok (), { disk with tree := ((remove path).run ⟨disk.tree, [fault]⟩).state.tree }, []⟩

section Frame

/-- No file but this one is changed. -/
def Only (path : String) (disk : Disk) (_ : List Empty) (disk' : Disk) : Prop :=
  ∀ other, other ≠ path → disk'.tree other = disk.tree other

/-- No file is changed. -/
def Same (disk : Disk) (_ : List Empty) (disk' : Disk) : Prop := disk'.tree = disk.tree

theorem only_composes (path : String) : Effects.Call.Composes (Only path) where
  refl _ _ _ := rfl
  trans h h' other hOther := (h' other hOther).trans (h other hOther)

theorem Same.only {disk disk' : Disk} {trace : List Empty} (h : Same disk trace disk')
    (path : String) : Only path disk trace disk' := fun other _ => congrFun h other

theorem read_same (path : String) : Effects.Call.Within Same (read path) := by
  intro disk
  rw [Same, read, step]
  dsimp only
  split <;> rfl

theorem size_same (path : String) : Effects.Call.Within Same (size path) := by
  intro disk
  rw [Same, size, step]
  dsimp only
  split <;> rfl

theorem create_only (path : String) : Effects.Call.Within (Only path) (create path) := by
  intro disk other hOther
  rw [create, step]
  dsimp only
  split
  · rfl
  · exact Function.update_of_ne hOther _ _

theorem writeAll_only (path : String) (bytes : List UInt8) :
    Effects.Call.Within (Only path) (writeAll path bytes) := by
  intro disk other hOther
  rw [writeAll, step]
  dsimp only
  split <;> exact Function.update_of_ne hOther _ _

theorem write_only (path : String) (bytes : List UInt8) :
    Effects.Call.Within (Only path) (write path bytes) :=
  .bind (only_composes path) (create_only path) fun _ => writeAll_only path bytes

theorem remove_only (path : String) : Effects.Call.Within (Only path) (remove path) := by
  intro disk other hOther
  rw [remove, step]
  dsimp only
  split
  · rfl
  · exact Function.update_of_ne hOther _ _
  · rfl

/-- A removal that does not fail leaves no file, whether there was one or not. -/
theorem remove_gone (path : String) (disk : Disk) (h : disk.faults.headD .none = .none) :
    ((remove path).run disk).state.tree = Function.update disk.tree path none := by
  rw [remove, step]
  cases hThere : disk.tree path with
  | none =>
    simp only [h, hThere]
    rw [← hThere, Function.update_eq_self]
  | some contents => simp only [h, hThere]

theorem remove_failed (path : String) (disk : Disk) (h : disk.faults.headD .none ≠ .none) :
    ((remove path).run disk).state.tree = disk.tree := by
  rw [remove, step]
  dsimp only
  split
  · rfl
  · rename_i hNone _
    exact absurd hNone h
  · rfl

theorem discard_only (path : String) (fault : Fault) :
    Effects.Call.Within (Only path) (discard path fault) :=
  fun disk => remove_only path ⟨disk.tree, [fault]⟩

theorem discard_gone (path : String) (disk : Disk) :
    ((discard path .none).run disk).state.tree path = none :=
  (congrFun (remove_gone path ⟨disk.tree, [.none]⟩ rfl) path).trans (Function.update_self _ _ _)

theorem discard_failed (path : String) {fault : Fault} (h : fault ≠ .none) (disk : Disk) :
    ((discard path fault).run disk).state.tree = disk.tree :=
  remove_failed path ⟨disk.tree, [fault]⟩ h

end Frame

section Sound

variable {path : String} {tree : Tree} {contents : List UInt8}

theorem read_run (h : tree path = some contents) :
    (read path).run ⟨tree, []⟩ = ⟨.ok contents, ⟨tree, []⟩, []⟩ := by
  simp only [read, step, List.headD_nil, h, List.tail_nil]

theorem size_run (h : tree path = some contents) :
    (size path).run ⟨tree, []⟩ = ⟨.ok contents.length, ⟨tree, []⟩, []⟩ := by
  simp only [size, step, List.headD_nil, h, List.tail_nil]

theorem write_run (bytes : List UInt8) :
    (write path bytes).run ⟨tree, []⟩ =
      ⟨.ok (), ⟨Function.update tree path (some bytes), []⟩, []⟩ := by
  have hCreate : (create path).run ⟨tree, []⟩ =
      ⟨.ok (), ⟨Function.update tree path (some []), []⟩, []⟩ := rfl
  rw [write, Effects.Call.bind_ok hCreate]
  simp [writeAll, step, appended]

end Sound

end Files
