import FrameLog.Command.Execution
import FrameLog.PlainLog

/-!
# Commands on a list of texts

What the commands show and leave behind when a log is a list of texts that may not exist
yet. The limits are those of a command line that sets none on the size of the file.
-/

set_option autoImplicit false

namespace FrameLog

namespace Command

def shown (lines : List String) : Option Failure → Shown
  | none => .ofLines lines 0
  | some failure => .ofLines (lines ++ [Shown.failureLine failure]) 1

def octetCount (text : String) : Nat := (Utf8.encode text).length

def fileSize (texts : List String) : Nat :=
  texts.foldl (fun size text => size + FrameHeader.size + octetCount text) FileHeader.size

/-- The longest payloads are refused, and nothing behind the first of them is appended. -/
def accepted (limit : UInt32) (items : List String) : List String :=
  items.takeWhile fun item => octetCount item ≤ limit.toNat

def refused? (limit : UInt32) (items : List String) : Option Failure :=
  (items.find? fun item => limit.toNat < octetCount item).map fun item =>
    .payloadTooLarge (octetCount item) limit

def numbered (label : String) (first : Nat) (texts : List String) : List String :=
  (texts.zipIdx first).map fun (text, index) => s!"{label}[{index}] {text}"

/-- What a command shows and leaves of the texts. The demonstration has a log of its own. -/
def predict? (limit : UInt32) (texts : Option (List String)) :
    Command → Option (Shown × Option (List String))
  | .demo _ => none
  | .append _ items _ =>
      let before := texts.getD []
      let taken := accepted limit items
      some (shown (numbered "appended " (before.length + 1) taken) (refused? limit items),
        some (before ++ taken))
  | .get _ index =>
      let before := texts.getD []
      let answer :=
        if index = 0 then shown [] (some (.indexOutOfRange 0 before.length))
        else match before[index.toNat - 1]? with
          | some text => shown [s!"[{index.toNat}] {text}"] none
          | none => shown [] (some (.indexOutOfRange index.toNat before.length))
      some (answer, some before)
  | .dump _ =>
      match texts with
      | none => some (shown [] (some (.io .notFound)), none)
      | some texts => some (shown (numbered "" 1 texts) none, some texts)
  | .truncate _ index =>
      let before := texts.getD []
      if 1 ≤ index.toNat ∧ index.toNat ≤ before.length then
        some (shown [s!"last index is now {index.toNat - 1}"] none,
          some (before.take (index.toNat - 1)))
      else
        some (shown [] (some (.invalidTruncation index.toNat before.length)), some before)
  | .verify _ =>
      match texts with
      | none => some (shown [] (some (.io .notFound)), none)
      | some texts =>
          some (shown
            [s!"valid entries:   {texts.length}", s!"last index:      {texts.length}",
              s!"valid bytes:     {fileSize texts}", "corrupt frames:  0",
              "needs truncate:  false"] none, some texts)
  | .stats _ =>
      let before := texts.getD []
      some (shown
        [s!"last index:      {before.length}", s!"write offset:    {fileSize before}",
          s!"recovered:       {before.length}", "truncated:       false",
          "corruptions:     0"] none, some before)

end Command

end FrameLog
