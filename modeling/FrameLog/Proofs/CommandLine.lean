import FrameLog.Proofs.PlainRefinement
import FrameLog.Proofs.TextLogs

/-!
# The command line as a list of texts

Every command opens, recovers and closes the log anew. What it prints, how it ends and what
it leaves depend on nothing but the texts that were stored so far, or on there being no log
yet.

Main statement: the prediction of a sequence of commands holds for the programs, one after
the other on one disk.
-/

set_option autoImplicit false

namespace FrameLog

/-! ## What a script leaves -/

def failure? {Value : Type} : Except Failure Value → Option Failure
  | .ok _ => none
  | .error failure => some failure

/-- The script has printed these lines and left these texts, and it failed for this reason
or not at all. -/
structure Execution.Leaves {Value : Type} (execution : Execution Value) (blank : Disk)
    (path : String) (limit : UInt32) (lines : List String) (failure : Option Failure)
    (texts : Option (List String)) : Prop where
  printed : execution.printed = lines
  failed : failure? execution.answer = failure
  stores : Disk.Stores blank path limit execution.disk texts

section

variable {blank disk after : Disk} {path : String} {limit : UInt32} {lines later : List String}
  {texts : Option (List String)} {Value Result : Type} {first : Script Value}
  {next : Value → Script Result}

theorem Execution.leaves_bind_of_ok {value : Value} {failure : Option Failure}
    (ran : first disk = ⟨.ok value, after, lines⟩)
    (rest : (next value after).Leaves blank path limit later failure texts) :
    ((first >>= next) disk).Leaves blank path limit (lines ++ later) failure texts := by
  rw [Script.bind_of_ok (congrArg Execution.answer ran), ran]
  exact ⟨congrArg (lines ++ ·) rest.printed, rest.failed, rest.stores⟩

theorem Execution.leaves_bind_of_error {failure : Failure}
    (ran : first disk = ⟨.error failure, after, lines⟩)
    (stores : Disk.Stores blank path limit after texts) :
    ((first >>= next) disk).Leaves blank path limit lines (some failure) texts := by
  rw [Script.bind_of_error (congrArg Execution.answer ran), ran]
  exact ⟨rfl, rfl, stores⟩

theorem Execution.leaves_print {next : Script Result} {failure : Option Failure} (line : String)
    (rest : (next disk).Leaves blank path limit later failure texts) :
    ((Script.print line >>= fun _ => next) disk).Leaves blank path limit (line :: later) failure
      texts :=
  have ran : Script.print line disk = ⟨.ok (), disk, [line]⟩ := rfl
  leaves_bind_of_ok ran rest

theorem Execution.Leaves.shown {execution : Execution Unit} {failure : Option Failure}
    (leaves : execution.Leaves blank path limit lines failure texts) :
    Shown.ofExecution execution = Command.shown lines failure := by
  rcases execution with ⟨answer, disk, printed⟩
  obtain ⟨rfl, rfl, _⟩ := leaves
  cases answer with
  | ok => rfl
  | error failure => rfl

end

/-! ## Appending -/

inductive Accepts (limit : UInt32) : List String → List String → Option Failure → Prop where
  | nil : Accepts limit [] [] none
  | taken {item : String} {items front : List String} {failure : Option Failure} :
      Command.octetCount item ≤ limit.toNat → Accepts limit items front failure →
      Accepts limit (item :: items) (item :: front) failure
  | refused {item : String} {items : List String} : limit.toNat < Command.octetCount item →
      Accepts limit (item :: items) []
        (some (.payloadTooLarge (Command.octetCount item) limit))

theorem accepts (limit : UInt32) (items : List String) :
    Accepts limit items (Command.accepted limit items) (Command.refused? limit items) := by
  induction items with
  | nil => exact .nil
  | cons item items ih =>
      by_cases within : Command.octetCount item ≤ limit.toNat
      · have front : Command.accepted limit (item :: items) =
            item :: Command.accepted limit items :=
          List.takeWhile_cons_of_pos (decide_eq_true within)
        have failure : Command.refused? limit (item :: items) = Command.refused? limit items := by
          rw [Command.refused?, Command.refused?,
            List.find?_cons_of_neg (by simpa using within)]
        rw [front, failure]
        exact .taken within ih
      · have exceeds := Nat.lt_of_not_le within
        have front : Command.accepted limit (item :: items) = [] :=
          List.takeWhile_cons_of_neg (by simpa using within)
        have failure : Command.refused? limit (item :: items) =
            some (.payloadTooLarge (Command.octetCount item) limit) := by
          rw [Command.refused?, List.find?_cons_of_pos (by simpa using exceeds)]
          rfl
        rw [front, failure]
        exact .refused exceeds

section

variable {log : OpenLog} {blank disk : Disk} {path : String} {limit : UInt32}
  {texts : List String}

theorem OpenLog.Keeps.leaves_close (keeps : log.Keeps disk path limit texts) (blank : Disk) :
    (Script.close log disk).Leaves blank path limit [] none (some texts) := by
  rw [keeps.close]
  exact ⟨rfl, rfl, .log keeps.holds⟩

theorem OpenLog.Keeps.leaves_appendItems {items front : List String} {failure : Option Failure}
    (accepts : Accepts limit items front failure) (keeps : log.Keeps disk path limit texts)
    (blank : Disk) (synced : Bool) :
    ((Script.appendItems log synced items >>= Script.close) disk).Leaves blank path limit
      (Command.numbered "appended " (texts.length + 1) front) failure (some (texts ++ front)) := by
  induction accepts generalizing log disk texts with
  | nil =>
      rw [List.append_nil]
      exact keeps.leaves_close blank
  | @taken item items front failure within accepts ih =>
      obtain ⟨later, after, appended, kept⟩ := keeps.append_within within synced
      have behind := ih kept
      rw [List.length_append, List.append_assoc] at behind
      rw [Script.appendItems, Script.bind_assoc]
      refine Execution.leaves_bind_of_ok appended ?_
      rw [Script.bind_assoc]
      exact Execution.leaves_print _ behind
  | refused exceeds =>
      rw [Script.appendItems, Script.bind_assoc, List.append_nil]
      exact Execution.leaves_bind_of_error (keeps.append_oversized exceeds synced)
        (.log keeps.holds)

end

/-! ## Printing -/

theorem Script.printItems_ok (items : List Indexed) (disk : Disk) :
    printItems (items.map .ok) disk =
      ⟨.ok (), disk, items.map fun item => shownRecord item.index item.record.payload⟩ := by
  induction items with
  | nil => rfl
  | cons item items ih =>
      have ran : print (shownRecord item.index item.record.payload) disk = ⟨.ok (), disk, _⟩ := rfl
      rw [List.map_cons, printItems, bind_of_ok (congrArg Execution.answer ran), ran, ih]
      rfl

theorem map_shownRecord_numbered (first : Nat) (texts : List String) :
    (numbered first (textRecords texts)).map
        (fun item => shownRecord item.index item.record.payload) =
      Command.numbered "" first texts := by
  induction texts generalizing first with
  | nil => rfl
  | cons text texts ih =>
      have shown (label : String) (empty : label = "") :
          shownRecord first (Utf8.encode text) = s!"{label}[{first}] {text}" := by
        rw [shownRecord, Utf8.decode_encode, empty]
        rfl
      exact List.cons_eq_cons.mpr ⟨shown "" rfl, ih (first + 1)⟩

theorem framesSize_textRecords (texts : List String) :
    FileHeader.size + framesSize (textRecords texts) = Command.fileSize texts := by
  have plain := PlainLog.fileSize_eq ⟨texts.map Utf8.encode, false⟩
  rw [PlainLog.records, List.map_map] at plain
  rw [PlainLog.fileSize, List.foldl_map] at plain
  exact plain.symm

theorem Script.printReport_intact (texts : List String) (disk : Disk) :
    printReport (.intact (textRecords texts)) disk =
      ⟨.ok (), disk, [s!"valid entries:   {texts.length}", s!"last index:      {texts.length}",
        s!"valid bytes:     {Command.fileSize texts}", "corrupt frames:  0",
        "needs truncate:  false"]⟩ := by
  have sound : s!"corrupt frames:  {0}" = "corrupt frames:  0" := rfl
  have whole : s!"needs truncate:  {false}" = "needs truncate:  false" := rfl
  rw [← framesSize_textRecords, ← length_textRecords, ← sound, ← whole]
  rfl

theorem Script.printStats_restored (path : String) (settings : Settings) (texts : List String)
    (disk : Disk) :
    printStats (.restored path settings (textRecords texts) (.intact (textRecords texts))) disk =
      ⟨.ok (), disk, [s!"last index:      {texts.length}",
        s!"write offset:    {Command.fileSize texts}", s!"recovered:       {texts.length}",
        "truncated:       false", "corruptions:     0"]⟩ := by
  have whole : s!"truncated:       {false}" = "truncated:       false" := rfl
  have sound : s!"corruptions:     {0}" = "corruptions:     0" := rfl
  calc
    printStats (.restored path settings (textRecords texts) (.intact (textRecords texts))) disk =
        ⟨.ok (), disk,
          [s!"last index:      {(frameOffsets FileHeader.size (textRecords texts)).length}",
            s!"write offset:    {FileHeader.size + framesSize (textRecords texts)}",
            s!"recovered:       {(textRecords texts).length}", s!"truncated:       {false}",
            s!"corruptions:     {0}"]⟩ := rfl
    _ = _ := by
      rw [length_frameOffsets, length_textRecords, framesSize_textRecords, whole, sound]

/-! ## One command -/

section

variable {blank disk : Disk} {path : String} {settings : Settings} {texts : Option (List String)}

def Command.RunsAs (command : Command) (settings : Settings) (blank disk : Disk) (path : String)
    (texts : Option (List String)) : Prop :=
  ∃ lines failure after,
    command.predict? settings.maxPayloadSize texts = some (shown lines failure, after) ∧
      (command.script settings disk).Leaves blank path settings.maxPayloadSize lines failure after

theorem Command.append_runsAs (vacant : blank.Vacant path) (coherent : settings.Coherent)
    (stores : Disk.Stores blank path settings.maxPayloadSize disk texts) (items : List String)
    (synced : Bool) :
    (Command.append path items synced).RunsAs settings blank disk path texts := by
  obtain ⟨number, after, opened, keeps⟩ := stores.openLog vacant coherent
  refine ⟨_, _, _, rfl, ?_⟩
  exact Execution.leaves_bind_of_ok opened
    (keeps.leaves_appendItems (accepts settings.maxPayloadSize items) blank synced)

theorem Command.get_runsAs (vacant : blank.Vacant path) (coherent : settings.Coherent)
    (stores : Disk.Stores blank path settings.maxPayloadSize disk texts) (index : UInt64) :
    (Command.get path index).RunsAs settings blank disk path texts := by
  obtain ⟨number, after, opened, keeps⟩ := stores.openLog vacant coherent
  have missing : ¬ (1 ≤ index.toNat ∧ index.toNat ≤ (texts.getD []).length) →
      ((Command.get path index).script settings disk).Leaves blank path settings.maxPayloadSize []
        (some (.indexOutOfRange index.toNat (texts.getD []).length)) (some (texts.getD [])) := by
    intro absent
    exact Execution.leaves_bind_of_ok opened
      (Execution.leaves_bind_of_error (keeps.get_missing absent) (.log keeps.holds))
  by_cases zero : index = 0
  · subst zero
    exact ⟨_, _, _, rfl, missing fun present => absurd present.1 (by decide)⟩
  · have positive : 1 ≤ index.toNat :=
      Nat.one_le_iff_ne_zero.mpr fun none => zero (UInt64.toNat_inj.mp none)
    cases found : (texts.getD [])[index.toNat - 1]? with
    | none =>
        have beyond := List.getElem?_eq_none_iff.mp found
        refine ⟨_, _, _, ?_, missing (by omega)⟩
        simp only [predict?, if_neg zero, found]
    | some text =>
        refine ⟨[s!"[{index.toNat}] {text}"], none, some (texts.getD []), ?_, ?_⟩
        · simp only [predict?, if_neg zero, found]
        · have line : shownRecord index.toNat (Utf8.encode text) =
              s!"[{index.toNat}] {text}" := by rw [shownRecord, Utf8.decode_encode]
          rw [← line]
          exact Execution.leaves_bind_of_ok opened
            (Execution.leaves_bind_of_ok (keeps.get_present positive found)
              (Execution.leaves_print _ (keeps.leaves_close blank)))

theorem Command.dump_runsAs (vacant : blank.Vacant path)
    (stores : Disk.Stores blank path settings.maxPayloadSize disk texts) :
    (Command.dump path).RunsAs settings blank disk path texts := by
  cases stores with
  | absent =>
      have refused : Script.inspect (fun disk => disk.readStream path settings.maxPayloadSize)
          blank = ⟨.error (.io .notFound), blank, []⟩ := by
        simp only [Script.inspect, Disk.readStream, Disk.startCursor, vacant.lookupFile, Except.map]
      exact ⟨_, _, _, rfl, Execution.leaves_bind_of_error refused .absent⟩
  | @log _ number texts holds =>
      have read : Script.inspect (fun disk => disk.readStream path settings.maxPayloadSize) disk =
          ⟨.ok ((FrameLog.numbered 1 (textRecords texts)).map .ok), disk, []⟩ := by
        simp only [Script.inspect, holds.readStream]
      have printed := Script.printItems_ok (FrameLog.numbered 1 (textRecords texts)) disk
      rw [map_shownRecord_numbered] at printed
      refine ⟨_, _, _, rfl, Execution.leaves_bind_of_ok read ?_⟩
      rw [printed]
      exact ⟨rfl, rfl, .log holds⟩

theorem Command.truncate_runsAs (vacant : blank.Vacant path) (coherent : settings.Coherent)
    (stores : Disk.Stores blank path settings.maxPayloadSize disk texts) (index : UInt64) :
    (Command.truncate path index).RunsAs settings blank disk path texts := by
  obtain ⟨number, after, opened, keeps⟩ := stores.openLog vacant coherent
  by_cases present : 1 ≤ index.toNat ∧ index.toNat ≤ (texts.getD []).length
  · obtain ⟨later, final, truncated, kept⟩ := keeps.truncate_present present.1 present.2
    have last : later.handle.lastIndex = index.toNat - 1 := by
      rw [kept.lastIndex_eq, List.length_take]
      omega
    have line : s!"last index is now {later.handle.lastIndex}" =
        s!"last index is now {index.toNat - 1}" := by rw [last]
    refine ⟨[s!"last index is now {index.toNat - 1}"], none, _, if_pos present, ?_⟩
    rw [← line]
    exact Execution.leaves_bind_of_ok opened
      (Execution.leaves_bind_of_ok truncated
        (Execution.leaves_print _ (kept.leaves_close blank)))
  · refine ⟨_, _, _, if_neg present, ?_⟩
    exact Execution.leaves_bind_of_ok opened
      (Execution.leaves_bind_of_error (keeps.truncate_missing present) (.log keeps.holds))

theorem Command.verify_runsAs (vacant : blank.Vacant path)
    (stores : Disk.Stores blank path settings.maxPayloadSize disk texts) :
    (Command.verify path).RunsAs settings blank disk path texts := by
  cases stores with
  | absent =>
      have refused : Script.inspect (fun disk => disk.verify path settings) blank =
          ⟨.error (.io .notFound), blank, []⟩ := by
        simp only [Script.inspect, Disk.verify, vacant.lookupFile]
      exact ⟨_, _, _, rfl, Execution.leaves_bind_of_error refused .absent⟩
  | @log _ number texts holds =>
      have checked : Script.inspect (fun disk => disk.verify path settings) disk =
          ⟨.ok (.intact (textRecords texts)), disk, []⟩ := by
        simp only [Script.inspect, holds.verify rfl]
      refine ⟨_, _, _, rfl, Execution.leaves_bind_of_ok checked ?_⟩
      rw [Script.printReport_intact]
      exact ⟨rfl, rfl, .log holds⟩

theorem Command.stats_runsAs (vacant : blank.Vacant path) (coherent : settings.Coherent)
    (stores : Disk.Stores blank path settings.maxPayloadSize disk texts) :
    (Command.stats path).RunsAs settings blank disk path texts := by
  obtain ⟨number, after, opened, keeps⟩ := stores.openLog vacant coherent
  have printed := Script.printStats_restored path settings (texts.getD []) after
  exact ⟨_, _, _, rfl, Execution.leaves_bind_of_ok opened
    (Execution.leaves_bind_of_ok printed (keeps.leaves_close blank))⟩

theorem Command.runsAs (vacant : blank.Vacant path) (coherent : settings.Coherent)
    (stores : Disk.Stores blank path settings.maxPayloadSize disk texts) {command : Command}
    (concerns : command.path? = some path) (kept : ∀ directory, command ≠ .demo directory) :
    command.RunsAs settings blank disk path texts := by
  cases command with
  | demo directory => exact absurd rfl (kept directory)
  | append path items synced =>
      cases concerns
      exact append_runsAs vacant coherent stores items synced
  | get path index =>
      cases concerns
      exact get_runsAs vacant coherent stores index
  | dump path =>
      cases concerns
      exact dump_runsAs vacant stores
  | truncate path index =>
      cases concerns
      exact truncate_runsAs vacant coherent stores index
  | verify path =>
      cases concerns
      exact verify_runsAs vacant stores
  | stats path =>
      cases concerns
      exact stats_runsAs vacant coherent stores

end

/-! ## Sequences of commands -/

/-- What commands show, one after the other, and what the last one leaves of the texts. -/
def Command.predictAll? (limit : UInt32) (texts : Option (List String)) :
    List Command → Option (List Shown × Option (List String))
  | [] => some ([], texts)
  | command :: commands =>
      match predict? limit texts command with
      | none => none
      | some (shown, texts) =>
          (predictAll? limit texts commands).map fun (later, texts) => (shown :: later, texts)

/-- Runs the program on each line of words, one process after the other. -/
def Disk.runPrograms (disk : Disk) : List (List String) → List Shown × Disk
  | [] => ([], disk)
  | arguments :: lines =>
      let (shown, disk) := disk.runProgram arguments
      let (later, disk) := disk.runPrograms lines
      (shown :: later, disk)

/-- The invocation is about the log that is kept at this path, under this limit and none on
the size of the file. -/
structure Invocation.Concerns (invocation : Invocation) (path : String) (limit : UInt32) : Prop
    where
  path : invocation.command.path? = some path
  kept : ∀ directory, invocation.command ≠ .demo directory
  limit : invocation.limits.settings.maxPayloadSize = limit
  unset : invocation.limits.maxSegmentSize = none

section

variable {blank disk : Disk} {path : String} {limit : UInt32} {texts : Option (List String)}

theorem Disk.runProgram_predicted (vacant : blank.Vacant path)
    (stores : Disk.Stores blank path limit disk texts) {arguments : List String}
    {invocation : Invocation} (parsed : Invocation.ofArguments arguments = .ok invocation)
    (concerns : invocation.Concerns path limit) :
    ∃ after,
      Command.predict? limit texts invocation.command =
          some ((disk.runProgram arguments).1, after) ∧
        Disk.Stores blank path limit (disk.runProgram arguments).2 after := by
  have coherent := Limits.settings_coherent concerns.unset
  have limited := concerns.limit
  subst limited
  obtain ⟨lines, failure, after, predicted, leaves⟩ :=
    Command.runsAs vacant coherent stores concerns.path concerns.kept
  refine ⟨after, ?_, ?_⟩
  · rw [predicted, Disk.runProgram, parsed, ← leaves.shown]
    rfl
  · rw [Disk.runProgram, parsed]
    exact leaves.stores

theorem Disk.runPrograms_predicted (vacant : blank.Vacant path)
    (stores : Disk.Stores blank path limit disk texts) {lines : List (List String)}
    {invocations : List Invocation}
    (parsed : lines.map Invocation.ofArguments = invocations.map .ok)
    (concern : ∀ invocation ∈ invocations, invocation.Concerns path limit) :
    ∃ after,
      Command.predictAll? limit texts (invocations.map Invocation.command) =
          some ((disk.runPrograms lines).1, after) ∧
        Disk.Stores blank path limit (disk.runPrograms lines).2 after := by
  induction lines generalizing disk texts invocations with
  | nil =>
      cases invocations with
      | nil => exact ⟨texts, rfl, stores⟩
      | cons invocation invocations => cases parsed
  | cons arguments lines ih =>
      cases invocations with
      | nil => cases parsed
      | cons invocation invocations =>
          obtain ⟨first, others⟩ := List.cons.inj parsed
          obtain ⟨between, predicted, stored⟩ :=
            Disk.runProgram_predicted vacant stores first (concern _ List.mem_cons_self)
          obtain ⟨after, behind, final⟩ :=
            ih stored others fun later member => concern later (List.mem_cons_of_mem _ member)
          refine ⟨after, ?_, final⟩
          simp only [List.map_cons, Command.predictAll?, predicted, behind, Option.map_some]
          rfl

end

/-- Whatever commands are run on a path where no log is yet, under one limit on payloads and
none on the size of the file, their output and their exit codes are those of a list of texts
that may not exist yet. In the end the file is the log of these texts, or the disk is as it
was if no command has created it. -/
theorem command_line_refines_texts (disk : Disk) (path : String) (vacant : disk.Vacant path)
    (limit : UInt32) (lines : List (List String)) (invocations : List Invocation)
    (parsed : lines.map Invocation.ofArguments = invocations.map .ok)
    (concern : ∀ invocation ∈ invocations, invocation.Concerns path limit) :
    ∃ texts,
      Command.predictAll? limit none (invocations.map Invocation.command) =
          some ((disk.runPrograms lines).1, texts) ∧
        Disk.Stores disk path limit (disk.runPrograms lines).2 texts :=
  Disk.runPrograms_predicted vacant .absent parsed concern

/-- The second of three items is over the limit of two octets, and the first one is dropped
again. -/
theorem command_line_refines_texts_of_three_items :
    let disk : Disk := {}
    let lines :=
      [["--max-entry-size=2", "verify", "one.wal"],
        ["append", "one.wal", "ab", "abc", "d", "--sync", "--max-entry-size", "2"],
        ["truncate", "--max-entry-size", "2", "one.wal", "1"]]
    let limits : Limits := { maxPayloadSize := some 2 }
    let commands : List Command :=
      [.verify "one.wal", .append "one.wal" ["ab", "abc", "d"] true, .truncate "one.wal" 1]
    disk.Vacant "one.wal" ∧
      lines.map Invocation.ofArguments = commands.map (fun command => .ok ⟨command, limits⟩) ∧
      ∃ texts, Command.predictAll? 2 none commands = some ((disk.runPrograms lines).1, texts) ∧
        Disk.Stores disk "one.wal" 2 (disk.runPrograms lines).2 texts := by
  intro disk lines limits commands
  have vacant : disk.Vacant "one.wal" :=
    ⟨⟨false, ["one.wal"], false⟩, rfl, rfl, ["one.wal"], rfl, rfl⟩
  have parsed : lines.map Invocation.ofArguments =
      (commands.map (Invocation.mk · limits)).map .ok := rfl
  refine ⟨vacant, parsed, command_line_refines_texts disk "one.wal" vacant 2 lines _ parsed ?_⟩
  intro invocation member
  obtain ⟨command, among, rfl⟩ := List.mem_map.mp member
  simp only [commands, List.mem_cons, List.not_mem_nil, or_false] at among
  rcases among with rfl | rfl | rfl
  · exact ⟨rfl, fun _ => Command.noConfusion, rfl, rfl⟩
  · exact ⟨rfl, fun _ => Command.noConfusion, rfl, rfl⟩
  · exact ⟨rfl, fun _ => Command.noConfusion, rfl, rfl⟩

end FrameLog
