import VoxType.Library.Files

/-!
# Programs over files

A program is taken one file operation at a time, so that several of them may
share a disk in any order. The rules follow the one file a program makes: what
holds at its end, as long as no write and no removal fails.
-/

namespace Files

set_option autoImplicit false

inductive Act
  | read (path : String)
  | create (path : String)
  | write (path : String) (bytes : List UInt8)
  | remove (path : String)
  deriving DecidableEq, Repr

def Act.call : Act → FileCall (List UInt8)
  | read path => Files.read path
  | create path => do
    Files.create path
    pure []
  | write path bytes => do
    writeAll path bytes
    pure []
  | remove path => do
    Files.remove path
    pure []

/-- The file that an operation makes, changes or removes. -/
def Act.target : Act → Option String
  | read _ => none
  | create path | write path _ | remove path => some path

inductive Program (α : Type)
  | done (result : Except String α)
  | act (first : Act) (next : Except String (List UInt8) → Program α)

namespace Program

variable {α β : Type}

def bind : Program α → (α → Program β) → Program β
  | done (.ok value), f => f value
  | done (.error error), _ => done (.error error)
  | act first next, f => .act first fun answer => (next answer).bind f

instance : Monad Program where
  pure value := done (.ok value)
  bind := Program.bind

def perform (first : Act) : Program (List UInt8) := .act first done

/-- The result as a value. -/
def attempt : Program α → Program (Except String α)
  | done result => done (.ok result)
  | act first next => .act first fun answer => (next answer).attempt

def isDone : Program α → Bool
  | done _ => true
  | act _ _ => false

/-- One operation on the disk as it is now. -/
def step (fault : Fault) (tree : Tree) : Program α → Program α × Tree
  | done result => (done result, tree)
  | act first next =>
    let o := first.call.run ⟨tree, [fault]⟩
    (next o.result, o.state.tree)

/-- The whole program, with the disk to itself. -/
def run : Program α → FileCall α
  | done result => .ofExcept result
  | act first next => first.call.attempt >>= fun answer => (next answer).run

section Run

open Effects (Call)

variable (f : α → Program β) (disk : Disk)

theorem run_perform (first : Act) : (perform first).run.run disk = first.call.run disk := by
  change (Call.attempt first.call >>= fun answer => (done answer).run).run disk = _
  rw [Call.attempt_bind]
  change (Call.run (.ofExcept _) _).after _ = _
  rw [Call.ofExcept_run, Call.after_mk, List.append_nil]

theorem run_act (first : Act) (next : Except String (List UInt8) → Program α) :
    (act first next).run.run disk =
      ((next (first.call.run disk).result).run.run (first.call.run disk).state).after
        (first.call.run disk).trace := by
  change (Call.attempt first.call >>= fun answer => (next answer).run).run disk = _
  rw [Call.attempt_bind]

theorem run_bind_ok {program : Program α} {value : α} {disk' : Disk} {trace : List Empty}
    (h : program.run.run disk = ⟨.ok value, disk', trace⟩) :
    (program >>= f).run.run disk = ((f value).run.run disk').after trace := by
  change (program.bind f).run.run disk = _
  induction program generalizing disk trace with
  | done result =>
    cases h
    rfl
  | act first next ih =>
    rw [run_act] at h
    rw [Program.bind, run_act]
    generalize hNext : (next _).run.run _ = o at h
    obtain ⟨result, state, rest⟩ := o
    rw [Call.after_mk] at h
    cases h
    rw [ih _ _ hNext, Call.after_after]

theorem run_bind_error {program : Program α} {error : String} {disk' : Disk} {trace : List Empty}
    (h : program.run.run disk = ⟨.error error, disk', trace⟩) :
    (program >>= f).run.run disk = ⟨.error error, disk', trace⟩ := by
  change (program.bind f).run.run disk = _
  induction program generalizing disk trace with
  | done result =>
    cases h
    rfl
  | act first next ih =>
    rw [run_act] at h
    rw [Program.bind, run_act]
    generalize hNext : (next _).run.run _ = o at h
    obtain ⟨result, state, rest⟩ := o
    rw [Call.after_mk] at h
    cases h
    rw [ih _ _ hNext, Call.after_mk]

theorem run_attempt (program : Program α) :
    program.attempt.run.run disk = ⟨.ok (program.run.run disk).result, (program.run.run disk).state,
      (program.run.run disk).trace⟩ := by
  induction program generalizing disk with
  | done result => rfl
  | act first next ih =>
    rw [Program.attempt, run_act, run_act, ih]
    rfl

variable {disk} {path : String} {bytes contents : List UInt8}

theorem fault_head (disk : Disk) : disk.faults.headD .none = disk.fault 0 := by
  rw [Disk.fault, List.headD_eq_head?_getD, List.head?_eq_getElem?, List.getD_eq_getElem?_getD]

theorem run_read_ok (hFault : disk.fault 0 = .none) (hThere : disk.tree path = some contents) :
    (perform (.read path)).run.run disk = ⟨.ok contents, ⟨disk.tree, disk.faults.tail⟩, []⟩ := by
  rw [run_perform, Act.call, Files.read, Files.step]
  simp only [fault_head, hFault, hThere]

theorem run_read_error (h : disk.fault 0 ≠ .none ∨ disk.tree path = none) :
    ∃ message, (perform (.read path)).run.run disk =
      ⟨.error message, ⟨disk.tree, disk.faults.tail⟩, []⟩ := by
  rw [run_perform, Act.call, Files.read, Files.step]
  simp only [fault_head]
  cases hFault : disk.fault 0 with
  | fails written message => exact ⟨message, rfl⟩
  | none =>
    rcases h with h | h
    · exact absurd hFault h
    · rw [h]
      exact ⟨missing, rfl⟩

theorem run_create_ok (hFault : disk.fault 0 = .none) :
    (perform (.create path)).run.run disk =
      ⟨.ok [], ⟨Function.update disk.tree path (some []), disk.faults.tail⟩, []⟩ := by
  have hCreate : (Files.create path).run disk =
      ⟨.ok (), ⟨Function.update disk.tree path (some []), disk.faults.tail⟩, []⟩ := by
    rw [Files.create, Files.step]
    simp only [fault_head, hFault]
  rw [run_perform, Act.call, Call.bind_ok hCreate, Call.pure_run, Call.after_nil]

theorem run_create_error (path : String) (hFault : disk.fault 0 ≠ .none) :
    ∃ message, (perform (.create path)).run.run disk =
      ⟨.error message, ⟨disk.tree, disk.faults.tail⟩, []⟩ := by
  cases hHead : disk.fault 0 with
  | none => exact absurd hHead hFault
  | fails written message =>
    have hCreate : (Files.create path).run disk =
        ⟨.error message, ⟨disk.tree, disk.faults.tail⟩, []⟩ := by
      rw [Files.create, Files.step]
      simp only [fault_head, hHead]
    rw [run_perform, Act.call, Call.bind_error hCreate]
    exact ⟨message, rfl⟩

theorem run_write_ok (hFault : disk.fault 0 = .none) :
    (perform (.write path bytes)).run.run disk =
      ⟨.ok [], ⟨appended disk.tree path bytes, disk.faults.tail⟩, []⟩ := by
  have hWrite : (Files.writeAll path bytes).run disk =
      ⟨.ok (), ⟨appended disk.tree path bytes, disk.faults.tail⟩, []⟩ := by
    rw [Files.writeAll, Files.step]
    simp only [fault_head, hFault]
  rw [run_perform, Act.call, Call.bind_ok hWrite, Call.pure_run, Call.after_nil]

theorem run_write_error (path : String) (bytes : List UInt8) (hFault : disk.fault 0 ≠ .none) :
    ∃ message part, (perform (.write path bytes)).run.run disk =
      ⟨.error message, ⟨appended disk.tree path part, disk.faults.tail⟩, []⟩ := by
  cases hHead : disk.fault 0 with
  | none => exact absurd hHead hFault
  | fails written message =>
    have hWrite : (Files.writeAll path bytes).run disk =
        ⟨.error message, ⟨appended disk.tree path (bytes.take written), disk.faults.tail⟩, []⟩ := by
      rw [Files.writeAll, Files.step]
      simp only [fault_head, hHead]
    rw [run_perform, Act.call, Call.bind_error hWrite]
    exact ⟨message, _, rfl⟩

theorem run_remove (path : String) (disk : Disk) : ∃ result tree,
    (perform (.remove path)).run.run disk = ⟨result, ⟨tree, disk.faults.tail⟩, []⟩ ∧
      (disk.fault 0 = .none → tree = Function.update disk.tree path none) ∧
      (disk.fault 0 ≠ .none → tree = disk.tree) := by
  obtain ⟨result, tree, hRemove⟩ : ∃ result tree,
      (Files.remove path).run disk = ⟨result, ⟨tree, disk.faults.tail⟩, []⟩ := ⟨_, _, rfl⟩
  have hGone := remove_gone path disk
  have hFailed := remove_failed path disk
  rw [hRemove, fault_head] at hGone hFailed
  rw [run_perform, Act.call]
  cases result with
  | ok _ =>
    rw [Call.bind_ok hRemove, Call.pure_run, Call.after_nil]
    exact ⟨.ok [], tree, rfl, hGone, hFailed⟩
  | error message =>
    rw [Call.bind_error hRemove]
    exact ⟨.error message, tree, rfl, hGone, hFailed⟩

end Run

/-- The next operation is a write or a removal, and it fails. -/
def CutShort (fault : Fault) : Program α → Prop
  | act (.write _ _) _ | act (.remove _) _ => fault ≠ .none
  | _ => False

/-- Whatever it is answered, the program makes, changes and removes no file but `path`, and its
result is as told. -/
def Touches (path : String) : Program α → (Except String α → Prop) → Prop
  | done result, post => post result
  | act first next, post => (∀ target ∈ first.target, target = path) ∧
      ∀ answer, Touches path (next answer) post

/-- What holds at the end of a program whose writes succeed and whose removals leave no file; `held`
is whether the one file that it makes may be there. -/
def Ends (path : String) : Bool → Program α → (Bool → Except String α → Prop) → Prop
  | held, done result, post => post held result
  | held, act (.read _) next, post => ∀ answer, Ends path held (next answer) post
  | held, act (.create made) next, post => made = path ∧ Ends path true (next (.ok [])) post ∧
      ∀ error, Ends path held (next (.error error)) post
  | held, act (.write written _) next, post => (written = path ∧ held = true) ∧
      Ends path held (next (.ok [])) post
  | _, act (.remove gone) next, post => gone = path ∧ ∀ answer, Ends path false (next answer) post

section Rules

variable {path : String} {held : Bool}

theorem Touches.mono {post post' : Except String α → Prop} {program : Program α}
    (h : Touches path program post) (hPost : ∀ result, post result → post' result) :
    Touches path program post' := by
  induction program with
  | done result => exact hPost _ h
  | act first next ih => exact ⟨h.1, fun answer => ih answer (h.2 answer)⟩

theorem Touches.bind {program : Program α} {f : α → Program β} {last : Except String β → Prop}
    (h : Touches path program fun result =>
      match result with
      | .ok value => Touches path (f value) last
      | .error error => last (.error error)) :
    Touches path (program >>= f) last := by
  change Touches path (program.bind f) last
  induction program with
  | done result =>
    cases result with
    | ok value => exact h
    | error error => exact h
  | act first next ih => exact ⟨h.1, fun answer => ih answer (h.2 answer)⟩

theorem Touches.attempt {program : Program α} {last : Except String (Except String α) → Prop}
    (h : Touches path program fun result => last (.ok result)) :
    Touches path program.attempt last := by
  induction program with
  | done result => exact h
  | act first next ih => exact ⟨h.1, fun answer => ih answer (h.2 answer)⟩

theorem Ends.mono {post post' : Bool → Except String α → Prop} {program : Program α}
    (h : Ends path held program post) (hPost : ∀ held result, post held result → post' held result) :
    Ends path held program post' := by
  induction program generalizing held with
  | done result => exact hPost _ _ h
  | act first next ih =>
    cases first with
    | read other => exact fun answer => ih answer (h answer)
    | create made => exact ⟨h.1, ih _ h.2.1, fun error => ih _ (h.2.2 error)⟩
    | write written bytes => exact ⟨h.1, ih _ h.2⟩
    | remove gone => exact ⟨h.1, fun answer => ih answer (h.2 answer)⟩

theorem Ends.bind {program : Program α} {f : α → Program β}
    {last : Bool → Except String β → Prop}
    (h : Ends path held program fun held result =>
      match result with
      | .ok value => Ends path held (f value) last
      | .error error => last held (.error error)) :
    Ends path held (program >>= f) last := by
  change Ends path held (program.bind f) last
  induction program generalizing held with
  | done result =>
    cases result with
    | ok value => exact h
    | error error => exact h
  | act first next ih =>
    cases first with
    | read other => exact fun answer => ih answer (h answer)
    | create made => exact ⟨h.1, ih _ h.2.1, fun error => ih _ (h.2.2 error)⟩
    | write written bytes => exact ⟨h.1, ih _ h.2⟩
    | remove gone => exact ⟨h.1, fun answer => ih answer (h.2 answer)⟩

theorem Ends.attempt {program : Program α} {last : Bool → Except String (Except String α) → Prop}
    (h : Ends path held program fun held result => last held (.ok result)) :
    Ends path held program.attempt last := by
  induction program generalizing held with
  | done result => exact h
  | act first next ih =>
    cases first with
    | read other => exact fun answer => ih answer (h answer)
    | create made => exact ⟨h.1, ih _ h.2.1, fun error => ih _ (h.2.2 error)⟩
    | write written bytes => exact ⟨h.1, ih _ h.2⟩
    | remove gone => exact ⟨h.1, fun answer => ih answer (h.2 answer)⟩

end Rules

/-- The program removes the file before it ends. -/
def Releases (path : String) (held : Bool) (program : Program α) : Prop :=
  Ends path held program fun held _ => held = false

section Steps

variable {path : String} {held : Bool} {program : Program α} {fault : Fault} {tree : Tree}

theorem act_only (first : Act) (fault : Fault) (tree : Tree) {other : String}
    (hOther : ∀ target ∈ first.target, other ≠ target) :
    (first.call.run ⟨tree, [fault]⟩).state.tree other = tree other := by
  cases first with
  | read path => exact congrFun (read_same path ⟨tree, [fault]⟩) other
  | create path =>
    exact Effects.Call.Within.bind (only_composes path) (create_only path)
      (fun _ => .pure (only_composes path) _) ⟨tree, [fault]⟩ other (hOther path rfl)
  | write path bytes =>
    exact Effects.Call.Within.bind (only_composes path) (writeAll_only path bytes)
      (fun _ => .pure (only_composes path) _) ⟨tree, [fault]⟩ other (hOther path rfl)
  | remove path =>
    exact Effects.Call.Within.bind (only_composes path) (remove_only path)
      (fun _ => .pure (only_composes path) _) ⟨tree, [fault]⟩ other (hOther path rfl)

theorem Touches.step {post : Except String α → Prop} (h : Touches path program post)
    (fault : Fault) (tree : Tree) :
    Touches path (program.step fault tree).1 post ∧
      ∀ other, other ≠ path → (program.step fault tree).2 other = tree other := by
  cases program with
  | done result => exact ⟨h, fun _ _ => rfl⟩
  | act first next =>
    refine ⟨h.2 _, ?_⟩
    intro other hOther
    refine act_only first fault tree ?_
    intro target hTarget
    rw [h.1 target hTarget]
    exact hOther

theorem act_remove (path : String) (disk : Disk) :
    ((Act.remove path).call.run disk).state = ((Files.remove path).run disk).state := by
  rw [Act.call]
  generalize hRemove : (Files.remove path).run disk = o
  obtain ⟨result, state, trace⟩ := o
  cases result with
  | ok _ => rw [Effects.Call.bind_ok hRemove, Effects.Call.pure_run, Effects.Call.after_mk]
  | error message => rw [Effects.Call.bind_error hRemove]

/-- After a step that is not cut short the file is gone, or the program holds it, or it is as it was
and was not held. -/
theorem Releases.step (h : Releases path held program) (hFault : ¬ program.CutShort fault)
    (tree : Tree) :
    ∃ held', Releases path held' (program.step fault tree).1 ∧
      ((program.step fault tree).2 path = none ∨ held' = true ∨
        ((program.step fault tree).2 path = tree path ∧ held = false)) := by
  have kept : ∀ {tree' : Tree}, tree' = tree →
      tree' path = none ∨ held = true ∨ (tree' path = tree path ∧ held = false) := by
    rintro tree' rfl
    cases held with
    | true => exact .inr (.inl rfl)
    | false => exact .inr (.inr ⟨rfl, rfl⟩)
  cases program with
  | done result => exact ⟨held, h, kept rfl⟩
  | act first next =>
    cases first with
    | read file => exact ⟨held, h _, kept (read_same file ⟨tree, [fault]⟩)⟩
    | create made =>
      obtain ⟨rfl, hMade, hFailed⟩ := h
      cases fault with
      | fails written message => exact ⟨held, hFailed message, kept rfl⟩
      | none => exact ⟨true, hMade, .inr (.inl rfl)⟩
    | write written bytes =>
      obtain ⟨⟨rfl, hHeld⟩, hWritten⟩ := h
      obtain rfl : fault = .none := not_not.mp hFault
      exact ⟨held, hWritten, .inr (.inl hHeld)⟩
    | remove gone =>
      obtain ⟨rfl, hGone⟩ := h
      obtain rfl : fault = .none := not_not.mp hFault
      refine ⟨false, hGone _, .inl ?_⟩
      have hTree := remove_gone gone ⟨tree, [.none]⟩ rfl
      rw [← act_remove] at hTree
      exact (congrFun hTree gone).trans (Function.update_self _ _ _)

end Steps

end Program

end Files
