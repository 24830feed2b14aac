import FrameLog.OpenLog

/-!
# Scripts

A script works on a disk, prints lines, and may fail half way. What it printed and changed
before a failure stays.
-/

set_option autoImplicit false

namespace FrameLog

structure Execution (Value : Type) where
  answer : Except Failure Value
  disk : Disk
  printed : List String := []

def Script (Value : Type) : Type := Disk → Execution Value

namespace Script

def bind {Value Result : Type} (first : Script Value) (next : Value → Script Result) :
    Script Result := fun disk =>
  let execution := first disk
  match execution.answer with
  | .error failure => ⟨.error failure, execution.disk, execution.printed⟩
  | .ok value =>
      let rest := next value execution.disk
      { rest with printed := execution.printed ++ rest.printed }

instance : Monad Script where
  pure value := fun disk => ⟨.ok value, disk, []⟩
  bind := bind

/-! ## Steps -/

def print (line : String) : Script Unit := fun disk => ⟨.ok (), disk, [line]⟩

def inspect {Value : Type} (look : Disk → Except Failure Value) : Script Value := fun disk =>
  ⟨look disk, disk, []⟩

def openLog (path : String) (settings : Settings) : Script OpenLog := fun disk =>
  let opening := disk.openLog path settings none
  ⟨opening.answer, opening.disk, []⟩

def request {Value : Type} (log : OpenLog) (request : Handle → Bytes → Served Value) :
    Script (Value × OpenLog) := fun disk =>
  let outcome := log.apply disk request
  ⟨outcome.answer.map fun value => (value, outcome.log), outcome.disk, []⟩

def append (log : OpenLog) (payload : Bytes) (synced : Bool) : Script (Nat × OpenLog) :=
  request log fun handle file =>
    if synced then handle.appendAndSync none file payload else handle.append none file payload

def close (log : OpenLog) : Script Unit := do
  let _ ← request log Handle.close
  pure ()

/-- Removes a file after the script has run, however it ended, if the file is there. -/
def thenRemoving {Value : Type} (path : String) (script : Script Value) : Script Value :=
  fun disk =>
    let execution := script disk
    match execution.disk.removeFile path with
    | .error _ => execution
    | .ok disk => { execution with disk }

/-- Runs on a disk of its own, of which nothing is kept. -/
def onBlankDisk {Value : Type} (script : Script Value) : Script Value := fun disk =>
  { script (Disk.emptyAt []) with disk }

/-! ## What was printed and changed -/

theorem bind_of_error {Value Result : Type} {first : Script Value}
    {next : Value → Script Result} {disk : Disk} {failure : Failure}
    (failed : (first disk).answer = .error failure) :
    (first >>= next) disk = ⟨.error failure, (first disk).disk, (first disk).printed⟩ := by
  change bind first next disk = _
  simp only [bind, failed]

theorem bind_of_ok {Value Result : Type} {first : Script Value}
    {next : Value → Script Result} {disk : Disk} {value : Value}
    (succeeded : (first disk).answer = .ok value) :
    (first >>= next) disk =
      { next value (first disk).disk with
        printed := (first disk).printed ++ (next value (first disk).disk).printed } := by
  change bind first next disk = _
  simp only [bind, succeeded]

theorem bind_assoc {Value Between Result : Type} (first : Script Value)
    (second : Value → Script Between) (third : Between → Script Result) :
    (first >>= second) >>= third = first >>= fun value => second value >>= third := by
  funext disk
  change bind (bind first second) third disk =
    bind first (fun value => bind (second value) third) disk
  simp only [bind]
  cases (first disk).answer with
  | error failure => rfl
  | ok value =>
      cases answered : (second value (first disk).disk).answer with
      | error failure => simp only [answered]
      | ok between => simp only [answered, List.append_assoc]

end Script

end FrameLog
