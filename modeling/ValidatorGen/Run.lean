/-
Runs: a computation that reports as it goes, asks extensions, and ends in a value or in an
error. What it reported and asked is kept in order, also when it fails.
-/
import ValidatorGen.Diagnostics
import ValidatorGen.Error
import ValidatorGen.Model.Basic

namespace ValidatorGen

/-- What an extension is asked about. -/
inductive Call
  /-- A column that was normalized, of the table of the given name. -/
  | column (table : String) (c : Column)
  /-- A table whose columns were all asked about. -/
  | table (t : Table)
  /-- The model of a column, of the table of the given name. -/
  | columnModel (table : String) (m : ColumnModel)
  /-- The model of a table whose columns were all asked about. -/
  | tableModel (m : TableModel)

/-- What happens in a run. -/
inductive Event
  | reported (d : Diagnostic)
  | asked (call : Call)

/-- A run: what happened, and what came of it. -/
structure Run (α : Type) where
  events : List Event
  result : Except Error α

namespace Run

/-- The run in which nothing happens. -/
def done (a : α) : Run α := ⟨[], .ok a⟩

/-- The run that fails at once. -/
def fail (e : Error) : Run α := ⟨[], .error e⟩

/-- The run that ends with the given result at once. -/
def ofExcept (result : Except Error α) : Run α := ⟨[], result⟩

/-- Goes on with the value of a run, unless it failed. -/
def andThen (x : Run α) (f : α → Run β) : Run β :=
  match x.result with
  | .error e => ⟨x.events, .error e⟩
  | .ok a => ⟨x.events ++ (f a).events, (f a).result⟩

instance : Monad Run where
  pure := done
  bind := andThen

/-- Reports one thing. -/
def report (level : Level) (event message : String) : Run Unit :=
  ⟨[.reported ⟨level, event, message⟩], .ok ()⟩

/-- Reports several things. -/
def reportAll (list : List Diagnostic) : Run Unit := ⟨list.map .reported, .ok ()⟩

/-- Asks an extension, and takes its answer. -/
def ask (call : Call) (answer : Except Error α) : Run α := ⟨[.asked call], answer⟩

/-- What was reported, in order. -/
def diagnostics (x : Run α) : List Diagnostic :=
  x.events.filterMap fun | .reported d => some d | .asked _ => none

/-- What extensions were asked, in order. -/
def calls (x : Run α) : List Call :=
  x.events.filterMap fun | .reported _ => none | .asked c => some c

@[simp] theorem pure_eq (a : α) : (pure a : Run α) = ⟨[], .ok a⟩ := rfl

@[simp] theorem bind_ok (events : List Event) (a : α) (f : α → Run β) :
    (⟨events, .ok a⟩ : Run α) >>= f = ⟨events ++ (f a).events, (f a).result⟩ := rfl

@[simp] theorem bind_error (events : List Event) (e : Error) (f : α → Run β) :
    (⟨events, .error e⟩ : Run α) >>= f = ⟨events, .error e⟩ := rfl

theorem id_map_run (x : Run α) : id <$> x = x := by
  rcases x with ⟨events, _ | _⟩ <;> simp [Functor.map, andThen, done]

theorem bind_assoc_run (x : Run α) (f : α → Run β) (g : β → Run γ) :
    x >>= f >>= g = x >>= fun a => f a >>= g := by
  rcases x with ⟨events, _ | a⟩
  · rfl
  · simp only [bind_ok]
    cases h : f a with
    | mk more result => cases result <;> simp

instance : LawfulMonad Run :=
  LawfulMonad.mk' Run id_map_run (fun _ _ => rfl) bind_assoc_run

end Run

end ValidatorGen
