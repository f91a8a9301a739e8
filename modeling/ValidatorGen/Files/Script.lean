/-
Scripts: what a program does with files and the clock, as data. A script is run on a tree
of files, which says what becomes of the files; the outermost layer performs the same
script on the files of the system.
-/
import ValidatorGen.Files.Tree

namespace ValidatorGen

/-- A script that ends in a value of type `α`, or fails for a reason of type `ε`. -/
inductive Script (ε α : Type)
  | done (result : Except ε α)
  /-- Looks at the clock: milliseconds since the start of 1970. -/
  | clock (next : Nat → Script ε α)
  | read (path : Path) (next : Except FileFault String → Script ε α)
  | makeDirs (path : Path) (next : Except FileFault Unit → Script ε α)
  | write (path : Path) (text : String) (next : Except FileFault Unit → Script ε α)
  | append (path : Path) (text : String) (next : Except FileFault Unit → Script ε α)

namespace Script

/-- Goes on with the value of a script, unless it failed. -/
def andThen (s : Script ε α) (f : α → Script ε β) : Script ε β :=
  match s with
  | .done (.error e) => .done (.error e)
  | .done (.ok a) => f a
  | .clock next => .clock fun n => (next n).andThen f
  | .read path next => .read path fun r => (next r).andThen f
  | .makeDirs path next => .makeDirs path fun r => (next r).andThen f
  | .write path text next => .write path text fun r => (next r).andThen f
  | .append path text next => .append path text fun r => (next r).andThen f

instance : Monad (Script ε) where
  pure a := .done (.ok a)
  bind := andThen

/-- Fails. -/
def fail (e : ε) : Script ε α := .done (.error e)

/-- Fails if there is a reason to. -/
def ofExcept (result : Except ε α) : Script ε α := .done result

/-- Looks at the clock. -/
def now : Script ε Nat := .clock pure

/-- Reads a file. -/
def readText (path : Path) : Script ε (Except FileFault String) := .read path pure

/-- Goes on if an operation on files did what it should. -/
def need (reason : FileFault → ε) (result : Except FileFault α) : Script ε α :=
  ofExcept (result.mapError reason)

/-- Runs a script on a tree of files, with a clock that stands still. -/
def run (time : Nat) : Script ε α → FileTree → Except ε α × FileTree
  | .done result, t => (result, t)
  | .clock next, t => (next time).run time t
  | .read path next, t => (next (t.readText path)).run time t
  | .makeDirs path next, t =>
    (next (t.makeDirs path).2).run time (t.makeDirs path).1
  | .write path text next, t =>
    match t.write path text with
    | .error fault => (next (.error fault)).run time t
    | .ok t => (next (.ok ())).run time t
  | .append path text next, t =>
    match t.append path text with
    | .error fault => (next (.error fault)).run time t
    | .ok t => (next (.ok ())).run time t

/-- The script goes on from where its first part ends. -/
theorem run_bind (time : Nat) (s : Script ε α) (f : α → Script ε β) (t : FileTree) :
    (s >>= f).run time t =
      match s.run time t with
      | (.error e, t) => (.error e, t)
      | (.ok a, t) => (f a).run time t := by
  show (s.andThen f).run time t = _
  induction s generalizing t with
  | done result => cases result <;> rfl
  | clock next ih => exact ih time t
  | read path next ih => exact ih _ t
  | makeDirs path next ih => exact ih _ _
  | write path text next ih =>
    simp only [andThen, run]
    split <;> exact ih _ _
  | append path text next ih =>
    simp only [andThen, run]
    split <;> exact ih _ _

theorem andThen_pure (s : Script ε α) : s.andThen pure = s := by
  induction s with
  | done result => cases result <;> rfl
  | _ => simp only [andThen]; congr 1; funext r; simp_all

theorem andThen_assoc (s : Script ε α) (f : α → Script ε β) (g : β → Script ε γ) :
    (s.andThen f).andThen g = s.andThen fun a => (f a).andThen g := by
  induction s with
  | done result => cases result <;> rfl
  | _ => simp only [andThen]; congr 1; funext r; simp_all

instance : LawfulMonad (Script ε) :=
  LawfulMonad.mk' (Script ε) andThen_pure (fun _ _ => rfl) andThen_assoc

end Script

end ValidatorGen
