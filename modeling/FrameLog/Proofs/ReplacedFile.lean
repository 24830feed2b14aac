import FrameLog.Proofs.UndisturbedRun

/-!
# Files that were replaced behind a handle

Something else may give the file of an open log any contents whatever. The handle goes on
reading where its records were put, and a read sees nothing but the frame that it finds there.

Main statement: every record whose frame is still in its place is served as before, whatever
else has changed. In particular, of a file that was cut the records in front of the cut are
served, and the others are refused without a checksum ever being compared.
-/

set_option autoImplicit false

namespace FrameLog

/-- A frame that stands in its place as a whole is all that is read there. -/
theorem readFrameAt_of_window {limit : UInt32} {contents : Bytes} {offset : Nat}
    {record : Record} (acceptable : record.Acceptable limit)
    (standing : contents.window offset record.frameSize = record.encode) :
    readFrameAt limit contents offset = .ok record := by
  have begins : record.encode <+: contents.drop offset := by
    rw [← standing]
    exact List.take_prefix _ _
  exact readFrame_eq_ok_iff_begins.mpr ⟨acceptable, begins⟩

theorem Fault.exists_corruption {fault : Fault} (matching : fault.isMismatch = false)
    (offset : Nat) : ∃ detail, fault.failure offset = .corrupted detail := by
  cases fault with
  | absent | partialHeader | oversized | torn => exact ⟨_, rfl⟩
  | mismatch => cases matching

namespace Handle

/-- How a record with this payload is read through the handle, whatever has become of the
file in which it stood. -/
structure KeepsApart (handle : Handle) (file : Bytes) (index : Nat) (payload : Bytes)
    (offset : Nat) : Prop where
  located : handle.positions.offsetOf? index = some offset
  present : offset + (FrameHeader.size + payload.length) ≤ file.length
  unchanged : ∀ replaced : Bytes,
    replaced.window offset (FrameHeader.size + payload.length) =
      file.window offset (FrameHeader.size + payload.length) →
    handle.get replaced index = ⟨.ok payload, handle, replaced, []⟩
  inFront : ∀ cut, offset + (FrameHeader.size + payload.length) ≤ cut →
    handle.get (file.take cut) index = ⟨.ok payload, handle, file.take cut, []⟩
  cutOff : ∀ cut, cut < offset + (FrameHeader.size + payload.length) →
    ∃ detail, handle.get (file.take cut) index =
      .refused handle (file.take cut) (.corrupted detail)

namespace Mirrors

variable {handle : Handle} {file dangling : Bytes} {records : List Record} {record : Record}
  {before : Nat}

theorem window_frame (mirrors : handle.Mirrors file records dangling)
    (found : records[before]? = some record) :
    file.window (FileHeader.size + framesSize (records.take before)) record.frameSize =
      record.encode := by
  obtain ⟨behind, parts⟩ := drop_frameOffset_of_getElem? mirrors.behind_header found
  rw [Bytes.window, parts, List.take_left' record.length_encode]

theorem keepsApart (mirrors : handle.Mirrors file records dangling)
    (opened : handle.closed = false) (found : records[before]? = some record) :
    handle.KeepsApart file (before + 1) record.payload
      (FileHeader.size + framesSize (records.take before)) := by
  obtain ⟨listed, _⟩ := List.getElem?_eq_some_iff.mp found
  have acceptable := mirrors.acceptable record (List.mem_of_getElem? found)
  have located := mirrors.offsetOf?_eq (Nat.le_add_left 1 before) listed
  obtain ⟨behind, parts⟩ := drop_frameOffset_of_getElem? mirrors.behind_header found
  rw [Nat.add_sub_cancel] at located
  have occupied := record.frameSize_pos
  refine ⟨located, ?_, ?_, ?_, ?_⟩
  · have length := congrArg List.length parts
    rw [List.length_drop, List.length_append, Record.length_encode] at length
    rw [← Record.frameSize]
    omega
  · intro replaced same
    have standing := same.trans (mirrors.window_frame found)
    rw [get_of_some opened located]
    exact readPayload_of_ok (readFrameAt_of_window acceptable standing)
  · intro cut whole
    have read := readFrame_take_of_whole acceptable (Nat.le_sub_of_add_le' whole) behind
    rw [← parts, ← List.drop_take] at read
    rw [get_of_some opened located]
    exact readPayload_of_ok read
  · intro cut broken
    have shorter : cut - (FileHeader.size + framesSize (records.take before)) <
        record.frameSize := by
      rw [← Record.frameSize] at broken
      omega
    obtain ⟨fault, read, matching⟩ := readFrame_take_of_broken acceptable.within shorter behind
    rw [← parts, ← List.drop_take] at read
    obtain ⟨detail, corrupted⟩ := fault.exists_corruption matching _
    rw [get_of_some opened located, readPayload_of_matching read matching, corrupted]
    exact ⟨detail, rfl⟩

end Mirrors

end Handle

/-- After any run on whatever file the log was opened on, the handle serves each of the
records that were found and acknowledged, from any file in which the record's frame stands
where it stood. Cutting the file off leaves exactly the records whose frames end in front of
the cut; the others are found missing or torn, and nothing is counted. -/
theorem damage_stays_in_its_record (path : String) (settings : Settings)
    (openingCeiling : Option Nat) (file : Bytes) (handle : Handle)
    (opened : (Handle.attach path settings openingCeiling file).answer = .ok handle)
    (steps : List (Option Nat × Request)) :
    let attached := Handle.attach path settings openingCeiling file
    let run := handle.runAlone attached.file steps
    run.handle.closed = false →
    ∃ found, handle.positions.offsets.map (readFrameAt settings.maxPayloadSize attached.file) =
        found.map .ok ∧
      let payloads := (acknowledged found steps run.answers).map Record.payload
      payloads.length = run.handle.lastIndex ∧
      ∀ index payload, 1 ≤ index → payloads[index - 1]? = some payload →
        ∃ offset, run.handle.KeepsApart run.file index payload offset := by
  intro attached run stillOpen
  obtain ⟨same, _, found, dangling, mirrors, _⟩ := Handle.attach_eq_ok opened
  obtain ⟨_, behind, mirrored, _⟩ := mirrors.runAlone_acknowledged steps
  have readBack := mirrors.map_readFrameAt
  rw [same] at readBack
  refine ⟨found, readBack, ?_, ?_⟩
  · rw [List.length_map]
    exact mirrored.length_eq.symm
  · intro index payload positive listed
    obtain ⟨before, rfl⟩ := Nat.exists_eq_add_of_le' positive
    rw [Nat.add_sub_cancel, List.getElem?_map] at listed
    obtain ⟨record, standing, rfl⟩ := Option.map_eq_some_iff.mp listed
    exact ⟨_, mirrored.keepsApart stillOpen standing⟩

/-- The frame of an empty record is left standing between octets that are no frames, and the
file is cut right behind it, and within it. -/
theorem damage_stays_in_its_record_around_empty_payload :
    let records : List Record := [⟨7, [1, 2], frameChecksum 7 [1, 2]⟩]
    let replaced := List.replicate 19 255 ++ ((Record.ofPayload []).encode ++ [1])
    let attached := Handle.attach "log.wal" {} none (logFile records)
    ∃ handle, attached.answer = .ok handle ∧
      let run := handle.runAlone attached.file [(none, .append []), (none, .append [3])]
      run.handle.closed = false ∧
      run.handle.get replaced 2 = ⟨.ok [], run.handle, replaced, []⟩ ∧
      run.handle.get (run.file.take 28) 2 = ⟨.ok [], run.handle, run.file.take 28, []⟩ ∧
      ∃ detail, run.handle.get (run.file.take 27) 2 =
        .refused run.handle (run.file.take 27) (.corrupted detail) := by
  intro records replaced attached
  have acceptable : ∀ record ∈ records, record.Acceptable ({} : Settings).maxPayloadSize := by
    intro record member
    rw [List.mem_singleton.mp member]
    exact ⟨by decide, Record.sound_of_frameChecksum 7 [1, 2]⟩
  obtain ⟨opened, whole⟩ := Handle.attach_whole "log.wal" none acceptable
  refine ⟨_, opened, ?_⟩
  intro run
  have stillOpen : run.handle.closed = false := by decide +kernel
  obtain ⟨found, readBack, _, apart⟩ :=
    damage_stays_in_its_record _ _ _ _ _ opened [(none, .append []), (none, .append [3])]
      stillOpen
  have mirrors := Handle.mirrors_restored_whole "log.wal" (.intact records) acceptable
  rw [whole] at readBack
  obtain rfl : records = found :=
    (List.map_inj_right fun _ _ same => Except.ok.inj same).mp
      (mirrors.map_readFrameAt.symm.trans readBack)
  obtain ⟨offset, keeps⟩ := apart 2 [] (by decide) (by decide +kernel)
  obtain rfl : 19 = offset := Option.some.inj keeps.located
  exact ⟨stillOpen, keeps.unchanged replaced (by decide +kernel), keeps.inFront 28 (by decide),
    keeps.cutOff 27 (by decide)⟩

end FrameLog
