import FrameLog.Command
import FrameLog.Text.Decimal

/-!
# Command lines

An option of the whole program may stand in front of the command's name or behind it, once
in each place. An option that wants a value finds it behind an equals sign, or in the next
word unless that word looks like an option itself.

The first word that cannot be taken ends the reading, and so does a question about the
program itself; what follows is not looked at. That words are missing shows only at the end.
-/

set_option autoImplicit false

namespace FrameLog

inductive Ending where
  | misuse
  | version
  | help
  deriving DecidableEq, Repr

namespace Arguments

inductive CommandName where
  | demo
  | append
  | get
  | dump
  | truncate
  | verify
  | stats
  /-- Asks about the commands named behind it. -/
  | help
  deriving DecidableEq, Repr

def CommandName.ofString? : String → Option CommandName
  | "demo" => some demo
  | "append" => some append
  | "get" => some get
  | "dump" => some dump
  | "truncate" => some truncate
  | "verify" => some verify
  | "stats" => some stats
  | "help" => some help
  | _ => none

/-! ## Operands -/

def index? (word : String) : Option UInt64 :=
  match Text.natural? word with
  | none => none
  | some value => if value < UInt64.size then some (.ofNat value) else none

/-- Whether the operands of a command can begin with these words. A path is never empty. -/
def CommandName.begins : CommandName → List String → Bool
  | _, [] => true
  | .demo, _ => false
  | .help, [word] => (ofString? word).isSome
  | .help, _ => false
  | _, "" :: _ => false
  | .append, _ => true
  | .get, [_] | .truncate, [_] => true
  | .get, [_, word] | .truncate, [_, word] => (index? word).isSome
  | .dump, [_] | .verify, [_] | .stats, [_] => true
  | _, _ => false

/-! ## Options -/

inductive Setting where
  | maxPayloadSize
  | maxSegmentSize
  | directory
  deriving DecidableEq, Repr

inductive Flag where
  | synced
  | version
  | help
  deriving DecidableEq, Repr

inductive Switch where
  | setting (setting : Setting)
  | flag (flag : Flag)
  deriving DecidableEq, Repr

def long? : Option CommandName → String → Option Switch
  | _, "max-entry-size" => some (.setting .maxPayloadSize)
  | _, "max-segment-size" => some (.setting .maxSegmentSize)
  | _, "help" => some (.flag .help)
  | none, "version" => some (.flag .version)
  | some .demo, "dir" => some (.setting .directory)
  | some .append, "sync" => some (.flag .synced)
  | _, _ => none

def short? : Option CommandName → Char → Option Switch
  | _, 'h' => some (.flag .help)
  | none, 'V' => some (.flag .version)
  | some .demo, 'd' => some (.setting .directory)
  | some .append, 's' => some (.flag .synced)
  | _, _ => none

/-! ## Reading word by word -/

structure Reading where
  command : Option CommandName := none
  /-- Given in front of the command's name. -/
  outer : Limits := {}
  /-- Given behind it. -/
  inner : Limits := {}
  directory : Option String := none
  synced : Bool := false
  /-- The words behind the command's name that belong to no option. -/
  operands : List String := []
  /-- The setting whose value has to be the next word. -/
  pending : Option Setting := none
  literal : Bool := false
  deriving DecidableEq, Repr

namespace Reading

def limits (reading : Reading) : Limits :=
  if reading.command.isSome then reading.inner else reading.outer

def setLimits (reading : Reading) (limits : Limits) : Reading :=
  if reading.command.isSome then { reading with inner := limits }
  else { reading with outer := limits }

/-- A word that belongs to no option. The first one names the command. -/
def takeWord (reading : Reading) (word : String) : Except Ending Reading :=
  match reading.command with
  | some command =>
      let operands := reading.operands ++ [word]
      if command.begins operands then .ok { reading with operands } else .error .misuse
  | none =>
      if reading.literal then .error .misuse
      else match CommandName.ofString? word with
        | none => .error .misuse
        | some command =>
            .ok { reading with command := some command, literal := command = .help }

/-- A value for a setting, which must not have one in this place yet. -/
def assign (reading : Reading) (text : String) : Setting → Except Ending Reading
  | .maxPayloadSize =>
      match reading.limits.maxPayloadSize, Text.integer? text with
      | none, some (.ofNat value) =>
          if value < UInt32.size then
            .ok (reading.setLimits { reading.limits with maxPayloadSize := some (.ofNat value) })
          else .error .misuse
      | _, _ => .error .misuse
  | .maxSegmentSize =>
      match reading.limits.maxSegmentSize, Text.natural? text with
      | none, some value =>
          if value < UInt64.size then
            .ok (reading.setLimits { reading.limits with maxSegmentSize := some (.ofNat value) })
          else .error .misuse
      | _, _ => .error .misuse
  | .directory =>
      if reading.directory.isSome || text.isEmpty then .error .misuse
      else .ok { reading with directory := some text }

def raise (reading : Reading) : Flag → Except Ending Reading
  | .help => .error .help
  | .version => .error .version
  | .synced => if reading.synced then .error .misuse else .ok { reading with synced := true }

def takeLong (reading : Reading) (text : List Char) : Except Ending Reading :=
  let name := String.ofList (text.takeWhile (· ≠ '='))
  match long? reading.command name, text.dropWhile (· ≠ '=') with
  | some (.setting setting), [] => .ok { reading with pending := some setting }
  | some (.setting setting), _ :: value => reading.assign (String.ofList value) setting
  | some (.flag flag), [] => reading.raise flag
  | some (.flag _), _ :: _ => .error .misuse
  | none, _ => .error .misuse

/-- The text behind a single dash: flags, and at last a setting with its value. -/
def takeShort (reading : Reading) : List Char → Except Ending Reading
  | [] => .ok reading
  | name :: rest =>
      match short? reading.command name with
      | none => .error .misuse
      | some (.flag flag) =>
          match reading.raise flag with
          | .error ending => .error ending
          | .ok reading => reading.takeShort rest
      | some (.setting setting) =>
          match rest with
          | [] => .ok { reading with pending := some setting }
          | '=' :: value => reading.assign (String.ofList value) setting
          | value => reading.assign (String.ofList value) setting

def take (reading : Reading) (word : String) : Except Ending Reading :=
  if reading.literal then reading.takeWord word
  else match reading.pending, word.toList with
    | some _, '-' :: _ :: _ => .error .misuse
    | some setting, _ => { reading with pending := none }.assign word setting
    | none, ['-', '-'] => .ok { reading with literal := true }
    | none, '-' :: '-' :: text => reading.takeLong text
    | none, '-' :: first :: text => reading.takeShort (first :: text)
    | none, _ => reading.takeWord word

/-! ## What the words say together -/

def command? (reading : Reading) : Option Command :=
  match reading.command, reading.operands with
  | some .demo, [] => some (.demo reading.directory)
  | some .append, path :: first :: rest => some (.append path (first :: rest) reading.synced)
  | some .get, [path, word] => (index? word).map (.get path)
  | some .dump, [path] => some (.dump path)
  | some .truncate, [path, word] => (index? word).map (.truncate path)
  | some .verify, [path] => some (.verify path)
  | some .stats, [path] => some (.stats path)
  | _, _ => none

def finish (reading : Reading) : Except Ending Invocation :=
  if reading.command = some .help then .error .help
  else if reading.pending.isSome then .error .misuse
  else match reading.command? with
    | none => .error .misuse
    | some command => .ok ⟨command, reading.inner.orElse reading.outer⟩

end Reading

end Arguments

def Invocation.usage : String :=
  "\n".intercalate [
    "usage: raftwal-cli [--max-entry-size N] [--max-segment-size N] COMMAND",
    "  demo [--dir DIRECTORY]",
    "  append PATH ITEM... [--sync]",
    "  get PATH INDEX",
    "  dump PATH",
    "  truncate PATH INDEX",
    "  verify PATH",
    "  stats PATH"]

def Invocation.ofArguments (arguments : List String) : Except Ending Invocation :=
  match arguments.foldlM Arguments.Reading.take {} with
  | .error ending => .error ending
  | .ok reading => reading.finish

end FrameLog
