import FrameLog.Proofs.Contents
import FrameLog.Transfer.Loop

/-!
# Split transfers

However a system splits a transfer over its requests, and however often it interrupts one, the
loops come to what a single request for everything would have come to. Reading gets the
octets that stand there; writing lays the whole buffer over the contents, or the part that
was moved before a request was refused. Each request that is not interrupted uses up some of
what was asked for, so a loop ends unless it is interrupted for ever.

Main statement: for every system that interrupts only for some time, both loops end within a
number of requests that is known beforehand, and what they leave does not tell the system.
-/

set_option autoImplicit false

namespace FrameLog

namespace Transfer

variable {contents : Bytes} {offset : Nat} {responses : List Response}

/-! ## Reading -/

/-- As long as a reading loop goes on, every request that is not interrupted brings an octet. -/
theorem lt_of_readLoop?_eq_none {count : Nat} {arrived : Bytes}
    (unfinished : readLoop? contents offset count arrived responses = none) :
    arrived.length + responses.countP (!·.interrupts) < count := by
  fun_induction readLoop? contents offset count arrived responses with
  | case1 arrived wanting => exact wanting
  | case2 arrived _ later ih => exact ih unfinished
  | case3 | case5 | case6 => cases unfinished
  | case4 arrived _ most later more occupied ih =>
      have further := ih unfinished
      have progress : 0 < more.length := by
        rw [List.isEmpty_iff] at occupied
        exact List.length_pos_iff.mpr occupied
      rw [List.length_append] at further
      rw [List.countP_cons_of_pos (by rfl)]
      omega

/-- A reading loop that was refused nothing ends with all that stands there. -/
theorem readLoop?_eq_some {count : Nat} {arrived : Bytes} {result : Except IoCause Bytes}
    (obliging : ∀ response ∈ responses, response.refusal? = none)
    (leading : arrived <+: contents.drop offset) (within : arrived.length ≤ count)
    (finished : readLoop? contents offset count arrived responses = some result) :
    result = .ok (contents.window offset count) := by
  have whole := Bytes.append_window leading within
  fun_induction readLoop? contents offset count arrived responses with
  | case1 => cases finished
  | case2 arrived _ later ih =>
      exact ih (List.forall_mem_cons.mp obliging).2 leading within finished whole
  | case3 arrived wanting most later more nothing =>
      have positive := Response.refusal?_moved_eq_none_iff.mp (obliging _ List.mem_cons_self)
      have ended : contents.drop (offset + arrived.length) = [] := by
        rcases List.take_eq_nil_iff.mp (List.isEmpty_iff.mp nothing) with zero | ended
        · omega
        · exact ended
      cases finished
      rw [← whole, Bytes.window, ended, List.take_nil, List.append_nil]
  | case4 arrived wanting most later more occupied ih =>
      have bounded : more.length ≤ count - arrived.length := by
        rw [Bytes.length_window]
        omega
      have further : arrived ++ more <+: contents.drop offset := by
        have next : arrived ++ contents.drop (offset + arrived.length) = contents.drop offset := by
          obtain ⟨behind, parted⟩ := leading
          rw [← List.drop_drop, ← parted, List.drop_left]
        rw [← next]
        exact (List.prefix_append_right_inj arrived).mpr (List.take_prefix _ _)
      have inside : (arrived ++ more).length ≤ count := by
        rw [List.length_append]
        omega
      exact ih (List.forall_mem_cons.mp obliging).2 further inside finished
        (Bytes.append_window further inside)
  | case5 arrived _ cause later => cases obliging _ List.mem_cons_self
  | case6 _ arrived enough =>
      have reached : count - arrived.length = 0 := by omega
      cases finished
      rw [← whole, reached, Bytes.window, List.take_zero, List.append_nil]

/-! ## Writing -/

section

variable {buffer : Bytes}

/-- As long as a writing loop goes on, every request that is not interrupted takes an octet. -/
theorem lt_of_writeLoop?_eq_none
    (unfinished : writeLoop? contents offset buffer responses = none) :
    responses.countP (!·.interrupts) < buffer.length := by
  fun_induction writeLoop? contents offset buffer responses with
  | case1 | case4 | case6 => cases unfinished
  | case2 _ _ buffer occupied =>
      rw [List.isEmpty_iff] at occupied
      exact List.length_pos_iff.mpr occupied
  | case3 _ _ _ _ later ih => exact ih unfinished
  | case5 _ _ buffer occupied most later positive moved ih =>
      have further := ih unfinished
      rw [List.length_drop] at further
      rw [List.countP_cons_of_pos (by rfl)]
      omega

/-- A writing loop that was refused nothing ends with the whole buffer laid over the contents. -/
theorem writeLoop?_eq_some {written : Written}
    (obliging : ∀ response ∈ responses, response.refusal? = none)
    (finished : writeLoop? contents offset buffer responses = some written) :
    written = ⟨contents.overlay offset buffer, none⟩ := by
  fun_induction writeLoop? contents offset buffer responses with
  | case1 _ contents offset buffer nothing =>
      cases List.isEmpty_iff.mp nothing
      cases finished
      rfl
  | case2 => cases finished
  | case3 _ _ _ _ later ih => exact ih (List.forall_mem_cons.mp obliging).2 finished
  | case4 | case6 => cases obliging _ List.mem_cons_self
  | case5 contents offset buffer _ most later _ moved ih =>
      rw [ih (List.forall_mem_cons.mp obliging).2 finished, Bytes.overlay_overlay,
        List.take_append_drop]

/-- Behind requests that do not use the buffer up, a writing loop is at the start of the rest. -/
theorem writeLoop?_append {earlier : List Response}
    (obliging : ∀ response ∈ earlier, response.refusal? = none)
    (unfinished : transferred earlier < buffer.length) (later : List Response) :
    writeLoop? contents offset buffer (earlier ++ later) =
      writeLoop? (contents.overlay offset (buffer.take (transferred earlier)))
        (offset + transferred earlier) (buffer.drop (transferred earlier)) later := by
  induction earlier generalizing contents offset buffer with
  | nil => rfl
  | cons response earlier ih =>
      obtain ⟨willing, others⟩ := List.forall_mem_cons.mp obliging
      match response with
      | .error cause => cases willing
      | .ok .interrupted =>
          rw [transferred_interrupted] at unfinished ⊢
          rw [List.cons_append, writeLoop?_interrupted, ih others unfinished]
      | .ok (.moved most) =>
          rw [transferred_moved] at unfinished ⊢
          have occupied : buffer ≠ [] := List.ne_nil_of_length_pos (by omega)
          have whole : (buffer.take most).length = most := List.length_take_of_le (by omega)
          have left : transferred earlier < (buffer.drop most).length := by
            rw [List.length_drop]
            omega
          have laid := Bytes.overlay_overlay contents offset (buffer.take most)
            ((buffer.drop most).take (transferred earlier))
          rw [whole, ← List.take_add] at laid
          rw [List.cons_append,
            writeLoop?_moved occupied (Response.refusal?_moved_eq_none_iff.mp willing), whole,
            ih others left, laid, List.drop_drop, Nat.add_assoc]

theorem writeLoop?_refused_behind {earlier : List Response}
    (obliging : ∀ response ∈ earlier, response.refusal? = none)
    (unfinished : transferred earlier < buffer.length) {response : Response} {cause : IoCause}
    (refused : response.refusal? = some cause) (later : List Response) :
    writeLoop? contents offset buffer (earlier ++ response :: later) =
      some ⟨contents.overlay offset (buffer.take (transferred earlier)), some cause⟩ := by
  have left : buffer.drop (transferred earlier) ≠ [] := by
    rw [ne_eq, List.drop_eq_nil_iff]
    omega
  rw [writeLoop?_append obliging unfinished, writeLoop?_refused left refused]

end

/-! ## Answers that are listed -/

theorem forall_mem_map_ok {answers : List Answer} (willing : .moved 0 ∉ answers) :
    ∀ response ∈ answers.map Except.ok, Response.refusal? response = none := by
  intro response member
  obtain ⟨answer, among, rfl⟩ := List.mem_map.mp member
  match answer, among with
  | .interrupted, _ => rfl
  | .moved 0, among => exact absurd among willing
  | .moved (_ + 1), _ => rfl

/-- Reading on listed answers is the loop on them, with a system that moves all that is left
behind them. The last response is the one that finds the end. -/
theorem readLoop?_answers {count size : Nat} {arrived : Bytes} (within : arrived.length ≤ count)
    (enough : count ≤ size) (answers : List Answer) :
    readLoop? contents offset count arrived
        (answers.map .ok ++ [.ok (.moved size), .ok (.moved size)]) =
      some (.ok (arrived ++
        readFull answers contents (offset + arrived.length) (count - arrived.length))) := by
  induction answers generalizing arrived with
  | nil =>
      obtain ⟨more, arrives⟩ : ∃ more, contents.window (offset + arrived.length)
        (min size (count - arrived.length)) = more := ⟨_, rfl⟩
      have left : min size (count - arrived.length) = count - arrived.length := by omega
      rw [List.map_nil, List.nil_append, readFull_nil, ← left, arrives]
      by_cases nothing : more = []
      · rw [readLoop?_ended (arrives.trans nothing), nothing, List.append_nil]
      · have ended : contents.window (offset + (arrived ++ more).length)
            (min size (count - (arrived ++ more).length)) = [] := by
          rw [← List.length_eq_zero_iff, Bytes.length_window, List.length_append, ← arrives,
            Bytes.length_window]
          omega
        rw [readLoop?_moved arrives nothing, readLoop?_ended ended]
  | cons answer answers ih =>
      cases answer with
      | interrupted => exact (readLoop?_interrupted _).trans (ih within)
      | moved most =>
          obtain ⟨more, arrives⟩ : ∃ more, contents.window (offset + arrived.length)
            (min most (count - arrived.length)) = more := ⟨_, rfl⟩
          rw [List.map_cons, List.cons_append, readFull, arrives]
          by_cases nothing : more = []
          · rw [readLoop?_ended (arrives.trans nothing), nothing]
            simp
          · have inside : (arrived ++ more).length ≤ count := by
              rw [List.length_append, ← arrives, Bytes.length_window]
              omega
            rw [readLoop?_moved arrives nothing, ih inside,
              if_neg (mt List.isEmpty_iff.mp nothing), List.length_append, List.append_assoc,
              Nat.add_assoc, Nat.sub_sub]

def lastResponse (ending : Option IoCause) (size : Nat) : Response :=
  match ending with
  | none => .ok (.moved size)
  | some cause => .error cause

/-- Writing on listed answers is the loop on them and on the response that ends them. -/
theorem writeLoop?_answers {buffer : Bytes} {size : Nat} (enough : buffer.length ≤ size)
    (ending : Option IoCause) (answers : List Answer) :
    writeLoop? contents offset buffer (answers.map .ok ++ [lastResponse ending size]) =
      some (writeAll ending answers contents offset buffer) := by
  induction answers generalizing contents offset buffer with
  | nil =>
      cases buffer with
      | nil => exact writeLoop?_nil _
      | cons octet buffer =>
          cases ending with
          | none =>
              have positive : 0 < size := Nat.lt_of_lt_of_le (Nat.succ_pos _) enough
              rw [List.map_nil, List.nil_append, lastResponse,
                writeLoop?_moved (List.cons_ne_nil _ _) positive, List.take_of_length_le enough,
                List.drop_of_length_le enough, writeLoop?_nil]
              rfl
          | some cause => exact writeLoop?_refused (List.cons_ne_nil _ _) rfl _
  | cons answer answers ih =>
      cases answer with
      | interrupted => exact (writeLoop?_interrupted _).trans (ih enough)
      | moved most =>
          cases buffer with
          | nil => exact writeLoop?_nil _
          | cons octet buffer =>
              cases most with
              | zero => exact writeLoop?_refused (List.cons_ne_nil _ _) rfl _
              | succ most =>
                  have less : ((octet :: buffer).drop (most + 1)).length ≤ size := by
                    rw [List.length_drop]
                    omega
                  exact (writeLoop?_moved (List.cons_ne_nil _ _) (Nat.succ_pos most) _).trans
                    (ih less)

theorem readFull_of_willing {answers : List Answer} (willing : .moved 0 ∉ answers)
    (contents : Bytes) (offset count : Nat) :
    readFull answers contents offset count = contents.window offset count := by
  have started : ([] : Bytes).length ≤ count := Nat.zero_le count
  have ends : ∀ response ∈ ([.ok (.moved (count + 1)), .ok (.moved (count + 1))] : List Response),
      response.refusal? = none := by
    simp [Response.refusal?]
  have finished : readLoop? contents offset count [] (answers.map .ok ++
      [.ok (.moved (count + 1)), .ok (.moved (count + 1))]) =
        some (.ok (readFull answers contents offset count)) :=
    readLoop?_answers started (Nat.le_succ count) answers
  have obliging := List.forall_mem_append.mpr ⟨forall_mem_map_ok willing, ends⟩
  exact Except.ok.inj (readLoop?_eq_some obliging List.nil_prefix started finished)

theorem writeAll_of_willing {answers : List Answer} (willing : .moved 0 ∉ answers)
    (contents : Bytes) (offset : Nat) (buffer : Bytes) :
    writeAll none answers contents offset buffer = ⟨contents.overlay offset buffer, none⟩ := by
  have ends : ∀ response ∈ [lastResponse none (buffer.length + 1)],
      response.refusal? = none := by
    simp [Response.refusal?, lastResponse]
  have obliging := List.forall_mem_append.mpr ⟨forall_mem_map_ok willing, ends⟩
  exact writeLoop?_eq_some obliging
    (writeLoop?_answers (Nat.le_succ buffer.length) none answers)

theorem writeAll_of_ending {answers : List Answer} (willing : .moved 0 ∉ answers) {buffer : Bytes}
    (unfinished : transferred (answers.map .ok) < buffer.length) (cause : IoCause)
    (contents : Bytes) (offset : Nat) :
    writeAll (some cause) answers contents offset buffer =
      ⟨contents.overlay offset (buffer.take (transferred (answers.map .ok))), some cause⟩ := by
  have refused : (lastResponse (some cause) buffer.length).refusal? = some cause := rfl
  apply Option.some.inj
  rw [← writeLoop?_answers (Nat.le_refl buffer.length),
    writeLoop?_refused_behind (forall_mem_map_ok willing) unfinished refused]

/-! ## Systems -/

theorem firstResponses_succ (system : Nat → Response) (requests : Nat) :
    firstResponses system (requests + 1) =
      firstResponses system requests ++ [system requests] := by
  rw [firstResponses, List.range_succ, List.map_append]
  rfl

theorem forall_mem_firstResponses {system : Nat → Response} {requests : Nat}
    (obliging : ∀ request < requests, (system request).refusal? = none) :
    ∀ response ∈ firstResponses system requests, response.refusal? = none := by
  intro response member
  obtain ⟨request, before, rfl⟩ := List.mem_map.mp member
  exact obliging request (List.mem_range.mp before)

/-- Once a system interrupts no more, every request counts. -/
theorem le_countP_firstResponses {system : Nat → Response} {quiet : Nat}
    (settled : ∀ request, quiet ≤ request → (system request).interrupts = false)
    (requests : Nat) :
    requests ≤ (firstResponses system (quiet + requests)).countP (!·.interrupts) := by
  have later : ((List.range requests).map fun request => system (quiet + request)).countP
      (!·.interrupts) = requests := by
    rw [List.countP_map, List.countP_eq_length.mpr, List.length_range]
    intro request _
    simp [settled (quiet + request) (Nat.le_add_right quiet request)]
  rw [firstResponses, List.range_add, List.map_append, List.countP_append, List.map_map]
  exact Nat.le_trans (Nat.le_of_eq later.symm) (Nat.le_add_left _ _)

section

variable {system : Nat → Response} {quiet : Nat}

theorem readLoop?_of_settled (obliging : ∀ request, (system request).refusal? = none)
    (settled : ∀ request, quiet ≤ request → (system request).interrupts = false)
    (contents : Bytes) (offset count : Nat) :
    readLoop? contents offset count [] (firstResponses system (quiet + count)) =
      some (.ok (contents.window offset count)) := by
  cases finished : readLoop? contents offset count [] (firstResponses system (quiet + count)) with
  | none =>
      have few := lt_of_readLoop?_eq_none finished
      have enough := le_countP_firstResponses settled count
      omega
  | some result =>
      rw [readLoop?_eq_some (forall_mem_firstResponses fun request _ => obliging request)
        List.nil_prefix (Nat.zero_le count) finished]

theorem writeLoop?_of_settled (obliging : ∀ request, (system request).refusal? = none)
    (settled : ∀ request, quiet ≤ request → (system request).interrupts = false)
    (contents : Bytes) (offset : Nat) (buffer : Bytes) :
    writeLoop? contents offset buffer (firstResponses system (quiet + buffer.length)) =
      some ⟨contents.overlay offset buffer, none⟩ := by
  cases finished : writeLoop? contents offset buffer
      (firstResponses system (quiet + buffer.length)) with
  | none =>
      have few := lt_of_writeLoop?_eq_none finished
      have enough := le_countP_firstResponses settled buffer.length
      omega
  | some written =>
      rw [writeLoop?_eq_some (forall_mem_firstResponses fun request _ => obliging request) finished]

end

/-- For every system that moves something at every request or interrupts it, and interrupts only
for some time: both loops come to their end, and to the same end however it splits them.
A request that is refused ends a writing loop with what had been moved by then. -/
theorem splitting_leaves_no_trace (contents : Bytes) (offset count : Nat) (buffer : Bytes) :
    (contents.window offset count).length = min count (contents.length - offset) ∧
      (∀ written position, (contents.overlay offset written)[position]? =
        if written = [] ∨ offset + written.length ≤ position then contents[position]?
        else if position < offset then some (contents.getD position 0)
        else written[position - offset]?) ∧
      (∀ (system : Nat → Response) quiet, (∀ request, (system request).refusal? = none) →
        (∀ request, quiet ≤ request → (system request).interrupts = false) →
        readLoop? contents offset count [] (firstResponses system (quiet + count)) =
            some (.ok (contents.window offset count)) ∧
          writeLoop? contents offset buffer (firstResponses system (quiet + buffer.length)) =
            some ⟨contents.overlay offset buffer, none⟩) ∧
      (∀ (system : Nat → Response) failing cause,
        (∀ request < failing, (system request).refusal? = none) →
        (system failing).refusal? = some cause →
        transferred (firstResponses system failing) < buffer.length →
        writeLoop? contents offset buffer (firstResponses system (failing + 1)) =
          some ⟨contents.overlay offset
            (buffer.take (transferred (firstResponses system failing))), some cause⟩) ∧
      ∀ answers, .moved 0 ∉ answers →
        readFull answers contents offset count = contents.window offset count ∧
          writeAll none answers contents offset buffer =
            ⟨contents.overlay offset buffer, none⟩ ∧
          ∀ cause, transferred (answers.map .ok) < buffer.length →
            writeAll (some cause) answers contents offset buffer =
              ⟨contents.overlay offset (buffer.take (transferred (answers.map .ok))),
                some cause⟩ := by
  refine ⟨Bytes.length_window contents offset count, Bytes.getElem?_overlay contents offset,
    ?_, ?_, ?_⟩
  · intro system quiet obliging settled
    exact ⟨readLoop?_of_settled obliging settled contents offset count,
      writeLoop?_of_settled obliging settled contents offset buffer⟩
  · intro system failing cause obliging refused unfinished
    rw [firstResponses_succ]
    exact writeLoop?_refused_behind (forall_mem_firstResponses obliging) unfinished refused []
  · intro answers willing
    refine ⟨readFull_of_willing willing contents offset count,
      writeAll_of_willing willing contents offset buffer, ?_⟩
    intro cause unfinished
    exact writeAll_of_ending willing unfinished cause contents offset

/-- Octets in front of the end, then octets behind a gap, the last of them past what fits. -/
theorem splitting_leaves_no_trace_behind_gap :
    let system : Nat → Response := fun request =>
      if request = 1 then .ok .interrupted else .ok (.moved 2)
    let full : Nat → Response := fun request =>
      if request = 2 then .error .fileTooLarge else system request
    (∀ request, (system request).refusal? = none) ∧
      (∀ request, 2 ≤ request → (system request).interrupts = false) ∧
      (∀ request < 2, (full request).refusal? = none) ∧
      (full 2).refusal? = some .fileTooLarge ∧
      transferred (firstResponses full 2) < 3 ∧
      readLoop? [1, 2, 3] 1 4 [] (firstResponses system 6) = some (.ok [2, 3]) ∧
      writeLoop? [1, 2, 3] 5 [7, 8, 9] (firstResponses system 5) =
        some ⟨[1, 2, 3, 0, 0, 7, 8, 9], none⟩ ∧
      writeLoop? [1, 2, 3] 5 [7, 8, 9] (firstResponses full 3) =
        some ⟨[1, 2, 3, 0, 0, 7, 8], some .fileTooLarge⟩ ∧
      Answer.moved 0 ∉ [.moved 1, .interrupted] ∧
      readFull [.moved 1, .interrupted] [1, 2, 3] 1 4 = [2, 3] := by
  intro system full
  have obliging : ∀ request, (system request).refusal? = none := by
    intro request
    by_cases second : request = 1 <;> simp [system, second, Response.refusal?]
  have settled : ∀ request, 2 ≤ request → (system request).interrupts = false := by
    intro request later
    have other : request ≠ 1 := by omega
    simp [system, other, Response.interrupts]
  have willing : ∀ request < 2, (full request).refusal? = none := by
    intro request early
    have other : request ≠ 2 := by omega
    simpa [full, other] using obliging request
  obtain ⟨_, _, reads, _, listed⟩ := splitting_leaves_no_trace [1, 2, 3] 1 4 []
  obtain ⟨_, _, writes, stops, _⟩ := splitting_leaves_no_trace [1, 2, 3] 5 0 [7, 8, 9]
  exact ⟨obliging, settled, willing, rfl, by decide, (reads system 2 obliging settled).1,
    (writes system 2 obliging settled).2, stops full 2 _ willing rfl (by decide), by decide,
    (listed _ (by decide)).1⟩

end Transfer

end FrameLog
