import FrameLog.Handle.Run
import FrameLog.Proofs.Bookkeeping

/-!
# Reading each record and reading all of them

A handle reads back where its positions tell it to, from a file that may hold anything by now.
It serves nothing but the payload of a verified frame, and reading all records is asking for
one after the other until one is refused.

Main statement: whatever was requested and whatever became of the file, all records are read
if each of them can be, and otherwise the first that cannot be read decides the failure. Such
a request counts a mismatch once if that is its answer, and changes nothing else.
-/

set_option autoImplicit false

namespace FrameLog

/-! ## Asking for one thing after the other -/

/-- What a list of answers comes to: all the values, or the first failure. -/
inductive Collected {Value : Type} :
    List (Except Failure Value) → Except Failure (List Value) → Prop where
  | all (values : List Value) : Collected (values.map .ok) (.ok values)
  | refused (values : List Value) (failure : Failure) (later : List (Except Failure Value)) :
      Collected (values.map .ok ++ .error failure :: later) (.error failure)

namespace Collected

variable {Value : Type} {answers : List (Except Failure Value)}
  {outcome : Except Failure (List Value)}

theorem cons_error (failure : Failure) (later : List (Except Failure Value)) :
    Collected (.error failure :: later) (.error failure) :=
  .refused [] failure later

theorem cons_ok (collected : Collected answers outcome) (value : Value) :
    Collected (.ok value :: answers) (outcome.map (value :: ·)) := by
  cases collected with
  | all values => exact .all (value :: values)
  | refused values failure later => exact .refused (value :: values) failure later

theorem eq_ok_iff (collected : Collected answers outcome) {values : List Value} :
    outcome = .ok values ↔ answers = values.map .ok := by
  cases collected with
  | all found =>
      rw [Except.ok.injEq, List.map_inj_right fun _ _ same => Except.ok.inj same]
  | refused found failure later =>
      apply iff_of_false
      · intro claimed
        cases claimed
      · intro same
        have member : .error failure ∈ values.map (.ok : Value → Except Failure Value) := by
          rw [← same]
          exact List.mem_append_right _ List.mem_cons_self
        obtain ⟨value, _, impossible⟩ := List.mem_map.mp member
        cases impossible

theorem exists_ok_iff (collected : Collected answers outcome) :
    (∃ values, outcome = .ok values) ↔ ∀ answer ∈ answers, ∃ value, answer = .ok value := by
  cases collected with
  | all found =>
      refine iff_of_true ⟨found, rfl⟩ ?_
      intro answer member
      obtain ⟨value, _, same⟩ := List.mem_map.mp member
      exact ⟨value, same.symm⟩
  | refused found failure later =>
      apply iff_of_false
      · rintro ⟨values, ⟨⟩⟩
      · intro readable
        obtain ⟨value, impossible⟩ :=
          readable (.error failure) (List.mem_append_right _ List.mem_cons_self)
        cases impossible

theorem eq_error_iff (collected : Collected answers outcome) {failure : Failure} :
    outcome = .error failure ↔
      ∃ before : Nat, answers[before]? = some (.error failure) ∧
        ∀ earlier < before, ∃ value, answers[earlier]? = some (.ok value) := by
  cases collected with
  | all found =>
      apply iff_of_false
      · intro claimed
        cases claimed
      · rintro ⟨before, standing, _⟩
        rw [List.getElem?_map] at standing
        obtain ⟨value, _, impossible⟩ := Option.map_eq_some_iff.mp standing
        cases impossible
  | refused found cause later =>
      have readable : ∀ earlier < found.length, ∃ value,
          (found.map .ok ++ .error cause :: later : List (Except Failure Value))[earlier]? =
            some (.ok value) := by
        intro earlier below
        refine ⟨found[earlier], ?_⟩
        rw [List.getElem?_append_left (by rwa [List.length_map]), List.getElem?_map,
          List.getElem?_eq_getElem below]
        rfl
      have stops : (found.map .ok ++ .error cause :: later :
          List (Except Failure Value))[found.length]? = some (.error cause) := by
        rw [List.getElem?_append_right (by rw [List.length_map]), List.length_map, Nat.sub_self]
        rfl
      constructor
      · intro claimed
        cases claimed
        exact ⟨found.length, stops, readable⟩
      · rintro ⟨before, standing, earlierReadable⟩
        rcases Nat.lt_trichotomy before found.length with below | same | above
        · obtain ⟨value, answered⟩ := readable before below
          cases answered.symm.trans standing
        · rw [same] at standing
          cases stops.symm.trans standing
          rfl
        · obtain ⟨value, answered⟩ := earlierReadable found.length above
          cases answered.symm.trans stops

end Collected

namespace Handle

/-! ## What reading leaves behind -/

/-- What a handle is left as by a read that was answered so: a mismatch is counted once. -/
def afterReading {Value : Type} (handle : Handle) : Except Failure Value → Handle
  | .error (.checksumMismatch ..) =>
      { handle with counters := handle.counters.countCorruption }
  | _ => handle

structure OnlyReads {Value : Type} (handle : Handle) (file : Bytes) (served : Served Value) :
    Prop where
  counted : served.handle = handle.afterReading served.answer
  untouched : served.file = file

section

variable {handle : Handle} {file : Bytes}

theorem ReadEffect.onlyReads {Value : Type} {served : Served Value}
    (effect : handle.ReadEffect file served) : handle.OnlyReads file served := by
  cases effect with
  | found | mismatched => exact ⟨rfl, rfl⟩
  | @refused failure matching =>
      cases failure with
      | checksumMismatch => cases matching
      | _ => exact ⟨rfl, rfl⟩

theorem onlyReads_get (opened : handle.closed = false) (file : Bytes) (index : Nat) :
    handle.OnlyReads file (handle.get file index) :=
  (readEffect_get opened file index).onlyReads

theorem onlyReads_readAll (opened : handle.closed = false) (file : Bytes) :
    handle.OnlyReads file (handle.readAll file) :=
  (readEffect_readAll opened file).onlyReads

/-! ## What reading answers -/

/-- Nothing is served but the payload of a frame that stands there and is verified. -/
theorem readPayload_eq_ok_iff {offset : Nat} {payload : Bytes} :
    (handle.readPayload file offset).answer = .ok payload ↔
      ∃ record : Record, record.Acceptable handle.settings.maxPayloadSize ∧
        record.encode <+: file.drop offset ∧ record.payload = payload := by
  constructor
  · intro answered
    cases read : readFrameAt handle.settings.maxPayloadSize file offset with
    | error fault =>
        rw [readPayload_of_error read] at answered
        cases answered
    | ok record =>
        rw [readPayload_of_ok read] at answered
        cases answered
        obtain ⟨acceptable, begins⟩ := readFrame_eq_ok_iff_begins.mp read
        exact ⟨record, acceptable, begins, rfl⟩
  · rintro ⟨record, acceptable, begins, rfl⟩
    have read : readFrameAt handle.settings.maxPayloadSize file offset = .ok record :=
      readFrame_eq_ok_iff_begins.mpr ⟨acceptable, begins⟩
    rw [readPayload_of_ok read]

theorem collected_readPayloads (handle : Handle) (file : Bytes) (offsets : List Nat) :
    Collected (offsets.map fun offset => (handle.readPayload file offset).answer)
      (handle.readPayloads file offsets).answer := by
  induction offsets with
  | nil => exact .all []
  | cons offset offsets ih =>
      rw [List.map_cons, readPayloads]
      cases (handle.readPayload file offset).answer with
      | error failure => exact .cons_error failure _
      | ok payload => exact ih.cons_ok payload

theorem get_of_getElem? (opened : handle.closed = false) (file : Bytes) {before offset : Nat}
    (standing : handle.positions.offsets[before]? = some offset) :
    handle.get file (before + 1) = handle.readPayload file offset := by
  apply get_of_some opened
  exact Positions.offsetOf?_eq_some_iff.mpr ⟨Nat.succ_ne_zero before, standing⟩

theorem map_get_indices (opened : handle.closed = false) (file : Bytes) :
    (List.range' 1 handle.lastIndex).map (fun index => (handle.get file index).answer) =
      handle.positions.offsets.map fun offset => (handle.readPayload file offset).answer := by
  apply List.ext_getElem
  · rw [List.length_map, List.length_map, List.length_range']
    rfl
  · intro before _ present
    rw [List.length_map] at present
    have standing := List.getElem?_eq_getElem present
    rw [List.getElem_map, List.getElem_map, List.getElem_range', Nat.one_mul, Nat.add_comm,
      get_of_getElem? opened file standing]

/-- Reading all records is asking for each of them in turn. -/
theorem collected_readAll (opened : handle.closed = false) (file : Bytes) :
    Collected
      ((List.range' 1 handle.lastIndex).map fun index => (handle.get file index).answer)
      (handle.readAll file).answer := by
  rw [map_get_indices opened, readAll_of_opened opened]
  exact handle.collected_readPayloads file _

theorem getElem?_map_indices {Result : Type} (answer : Nat → Result) {count before : Nat}
    (present : before < count) :
    ((List.range' 1 count).map answer)[before]? = some (answer (before + 1)) := by
  rw [List.getElem?_map, List.getElem?_range' present, Nat.one_mul, Nat.add_comm]
  rfl

end

structure ReadsBack (handle : Handle) (limit : UInt32) (file : Bytes) : Prop where
  /-- A record is served exactly if a verified frame stands where it was put. -/
  verified : ∀ index, 1 ≤ index → index ≤ handle.lastIndex →
    ∃ offset, handle.positions.offsetOf? index = some offset ∧
      ∀ payload, (handle.get file index).answer = .ok payload ↔
        ∃ record : Record, record.Acceptable limit ∧ record.encode <+: file.drop offset ∧
          record.payload = payload
  together : (∃ payloads, (handle.readAll file).answer = .ok payloads) ↔
    ∀ index, 1 ≤ index → index ≤ handle.lastIndex →
      ∃ payload, (handle.get file index).answer = .ok payload
  inOrder : ∀ payloads, (handle.readAll file).answer = .ok payloads →
    (List.range' 1 handle.lastIndex).map (fun index => (handle.get file index).answer) =
      payloads.map .ok
  firstRefused : ∀ failure, (handle.readAll file).answer = .error failure ↔
    ∃ index, 1 ≤ index ∧ index ≤ handle.lastIndex ∧
      (handle.get file index).answer = .error failure ∧
      ∀ earlier, 1 ≤ earlier → earlier < index →
        ∃ payload, (handle.get file earlier).answer = .ok payload
  getOnlyReads : ∀ index, handle.OnlyReads file (handle.get file index)
  readAllOnlyReads : handle.OnlyReads file (handle.readAll file)

theorem readAll_eq_error_iff {handle : Handle} (opened : handle.closed = false) (file : Bytes)
    (failure : Failure) :
    (handle.readAll file).answer = .error failure ↔
      ∃ index, 1 ≤ index ∧ index ≤ handle.lastIndex ∧
        (handle.get file index).answer = .error failure ∧
        ∀ earlier, 1 ≤ earlier → earlier < index →
          ∃ payload, (handle.get file earlier).answer = .ok payload := by
  rw [(collected_readAll opened file).eq_error_iff]
  constructor
  · rintro ⟨before, standing, readable⟩
    obtain ⟨listed, _⟩ := List.getElem?_eq_some_iff.mp standing
    rw [List.length_map, List.length_range'] at listed
    rw [getElem?_map_indices _ listed] at standing
    refine ⟨before + 1, Nat.le_add_left 1 before, listed, Option.some.inj standing, ?_⟩
    intro earlier positive below
    obtain ⟨former, rfl⟩ := Nat.exists_eq_add_of_le' positive
    have less : former < before := Nat.lt_of_succ_lt_succ below
    obtain ⟨payload, answered⟩ := readable former less
    rw [getElem?_map_indices _ (Nat.lt_trans less listed)] at answered
    exact ⟨payload, Option.some.inj answered⟩
  · rintro ⟨index, positive, present, refused, readable⟩
    obtain ⟨before, rfl⟩ := Nat.exists_eq_add_of_le' positive
    have listed : before < handle.lastIndex := present
    refine ⟨before, (getElem?_map_indices _ listed).trans (congrArg some refused), ?_⟩
    intro earlier below
    obtain ⟨payload, answered⟩ :=
      readable (earlier + 1) (Nat.le_add_left 1 earlier) (Nat.succ_lt_succ below)
    exact ⟨payload,
      (getElem?_map_indices _ (Nat.lt_trans below listed)).trans (congrArg some answered)⟩

theorem readsBack {handle : Handle} (opened : handle.closed = false) (file : Bytes) :
    handle.ReadsBack handle.settings.maxPayloadSize file where
  verified := by
    intro index positive present
    obtain ⟨before, rfl⟩ := Nat.exists_eq_add_of_le' positive
    have listed : before < handle.positions.offsets.length := present
    have standing := List.getElem?_eq_getElem listed
    have found := Positions.offsetOf?_eq_some_iff.mpr ⟨Nat.succ_ne_zero before, standing⟩
    refine ⟨_, found, ?_⟩
    intro payload
    rw [get_of_some opened found]
    exact readPayload_eq_ok_iff
  together := by
    rw [(collected_readAll opened file).exists_ok_iff, List.forall_mem_map]
    simp only [List.mem_range'_1, and_imp, Nat.add_comm 1, Nat.lt_succ_iff]
  inOrder := fun _ => (collected_readAll opened file).eq_ok_iff.mp
  firstRefused := readAll_eq_error_iff opened file
  getOnlyReads := onlyReads_get opened file
  readAllOnlyReads := onlyReads_readAll opened file

theorem settings_run (handle : Handle) (file : Bytes) (occurrences : List Occurrence) :
    (handle.run file occurrences).handle.settings = handle.settings := by
  induction occurrences generalizing handle file with
  | nil => rfl
  | cons occurrence later ih =>
      cases occurrence with
      | overwritten contents => exact ih handle contents
      | request ceiling request syncFailure =>
          have moves := handle.moves_serve ceiling file request syncFailure
          exact (ih _ _).trans moves.settings

end Handle

/-- After any run on whatever file the log was opened on, and whatever else was done to the
file meanwhile, the open log reads back what is verified in its place, and reads all records
exactly as it reads each of them. -/
theorem readAll_is_get_of_each_record (path : String) (settings : Settings)
    (openingCeiling : Option Nat) (file : Bytes) (handle : Handle)
    (opened : (Handle.attach path settings openingCeiling file).answer = .ok handle)
    (occurrences : List Occurrence) :
    let run := handle.run (Handle.attach path settings openingCeiling file).file occurrences
    run.handle.closed = false → run.handle.ReadsBack settings.maxPayloadSize run.file := by
  intro run stillOpen
  obtain ⟨same, _⟩ := Handle.attach_eq_ok opened
  have kept : run.handle.settings = settings := (handle.settings_run _ _).trans same
  have readsBack := Handle.readsBack stillOpen run.file
  rwa [kept] at readsBack

/-- A longer frame was put over the first of two. It is verified, so it is served for the
first record, and of the second nothing is left but two octets. -/
theorem readAll_is_get_of_each_record_under_longer_frame :
    let attached := Handle.attach "log.wal" {} none []
    ∃ handle, attached.answer = .ok handle ∧
      let run := handle.run attached.file
        [.request none (.append [1, 2]), .request none (.append [3]),
          .overwritten (logFile [.ofPayload [9, 9, 9, 9]])]
      run.handle.closed = false ∧
      (run.handle.get run.file 1).answer = .ok [9, 9, 9, 9] ∧
      (run.handle.readAll run.file).answer = .error (.corrupted (.partialFrameHeader 19 2)) ∧
      (run.handle.readAll run.file).handle = run.handle := by
  intro attached
  refine ⟨_, rfl, ?_⟩
  intro run
  have stillOpen : run.handle.closed = false := by decide +kernel
  have readsBack := readAll_is_get_of_each_record "log.wal" {} none [] _ rfl
    [.request none (.append [1, 2]), .request none (.append [3]),
      .overwritten (logFile [.ofPayload [9, 9, 9, 9]])] stillOpen
  obtain ⟨offset, located, served⟩ := readsBack.verified 1 (by decide) (by decide +kernel)
  cases located
  have standing : (Record.ofPayload [9, 9, 9, 9]).encode <+: run.file.drop 8 := by
    decide +kernel
  have longer := (served [9, 9, 9, 9]).mpr
    ⟨_, Record.acceptable_ofPayload (by decide), standing, rfl⟩
  have missing : (run.handle.get run.file 2).answer =
      .error (.corrupted (.partialFrameHeader 19 2)) := rfl
  have refused : (run.handle.readAll run.file).answer =
      .error (.corrupted (.partialFrameHeader 19 2)) := by
    refine (readsBack.firstRefused _).mpr ⟨2, by decide, by decide +kernel, missing, ?_⟩
    intro earlier positive below
    obtain rfl : earlier = 1 := by omega
    exact ⟨_, longer⟩
  refine ⟨stillOpen, longer, refused, readsBack.readAllOnlyReads.counted.trans ?_⟩
  rw [refused]
  rfl

end FrameLog
