import FrameLog.Proofs.Bookkeeping

/-!
# Exchanges

An exchange is a request with the handle that it met, the outcome of its sync and all that
serving it left. Whatever every effect passes on holds at the end of every run.
-/

set_option autoImplicit false

namespace FrameLog

structure Exchange where
  before : Handle
  request : Request
  /-- How the sync ended that the request asked for, if it asked for one. -/
  syncFailure : Option IoCause
  served : Served Reply

def Exchange.Effected (exchange : Exchange) : Prop :=
  exchange.before.Effect exchange.request exchange.syncFailure exchange.served

namespace Handle

def exchanges (handle : Handle) (file : Bytes) : List Occurrence → List Exchange
  | [] => []
  | .request ceiling request syncFailure :: later =>
      let served := handle.serve ceiling file request syncFailure
      ⟨handle, request, syncFailure, served⟩ :: served.handle.exchanges served.file later
  | .overwritten contents :: later => handle.exchanges contents later

theorem answers_run (handle : Handle) (file : Bytes) (occurrences : List Occurrence) :
    (handle.run file occurrences).answers =
      (handle.exchanges file occurrences).map (·.served.answer) := by
  induction occurrences generalizing handle file with
  | nil => rfl
  | cons occurrence later ih =>
      cases occurrence with
      | request ceiling request syncFailure => exact congrArg (List.cons _) (ih _ _)
      | overwritten contents => exact ih handle contents

theorem events_run (handle : Handle) (file : Bytes) (occurrences : List Occurrence) :
    (handle.run file occurrences).events =
      (handle.exchanges file occurrences).flatMap (·.served.events) := by
  induction occurrences generalizing handle file with
  | nil => rfl
  | cons occurrence later ih =>
      cases occurrence with
      | request ceiling request syncFailure => exact congrArg (List.append _) (ih _ _)
      | overwritten contents => exact ih handle contents

theorem syncFailure_exchanges {handle : Handle} {file : Bytes} {occurrences : List Occurrence}
    (hold : SyncsHold occurrences) :
    ∀ exchange ∈ handle.exchanges file occurrences, exchange.syncFailure = none := by
  induction occurrences generalizing handle file with
  | nil => exact fun _ member => by cases member
  | cons occurrence later ih =>
      have behind : SyncsHold later := fun ceiling request cause member =>
        hold ceiling request cause (List.mem_cons_of_mem _ member)
      cases occurrence with
      | overwritten contents => exact ih behind
      | request ceiling request syncFailure =>
          refine List.forall_mem_cons.mpr ⟨?_, ih behind⟩
          cases syncFailure with
          | none => rfl
          | some cause => exact absurd List.mem_cons_self (hold ceiling request cause)

/-- Whatever holds in front of a run and is passed on by every effect holds behind the run. -/
theorem run_of_effects {motive : List Exchange → Handle → Prop} {start : Handle}
    (begins : motive [] start)
    (continues : ∀ past handle request syncFailure served, motive past handle →
      handle.Effect request syncFailure served →
      motive (past ++ [⟨handle, request, syncFailure, served⟩]) served.handle)
    (file : Bytes) (occurrences : List Occurrence) :
    motive (start.exchanges file occurrences) (start.run file occurrences).handle := by
  have onwards : ∀ past handle file, motive past handle →
      motive (past ++ handle.exchanges file occurrences)
        (handle.run file occurrences).handle := by
    induction occurrences with
    | nil =>
        intro past handle file holds
        rwa [exchanges, List.append_nil]
    | cons occurrence later ih =>
        intro past handle file holds
        cases occurrence with
        | overwritten contents => exact ih past handle contents holds
        | request ceiling request syncFailure =>
            have passed := continues past handle request syncFailure _ holds
              (handle.effect_serve ceiling file request syncFailure)
            have behind := ih _ _ (handle.serve ceiling file request syncFailure).file passed
            rwa [List.append_assoc] at behind
  exact onwards [] start file begins

/-- Every exchange of a run meets a handle in order and under the settings it was opened with. -/
theorem orderly_exchanges {handle : Handle} (orderly : handle.Orderly) (file : Bytes)
    (occurrences : List Occurrence) :
    ∀ exchange ∈ handle.exchanges file occurrences,
      exchange.Effected ∧ exchange.before.Orderly ∧
        exchange.before.settings = handle.settings := by
  have holds := run_of_effects
    (motive := fun past now => (now.Orderly ∧ now.settings = handle.settings) ∧
      ∀ exchange ∈ past, exchange.Effected ∧ exchange.before.Orderly ∧
        exchange.before.settings = handle.settings)
    ⟨⟨orderly, rfl⟩, fun _ member => by cases member⟩ ?_ file occurrences
  · exact holds.2
  · rintro past now request syncFailure served ⟨⟨orderly, same⟩, sofar⟩ effect
    refine ⟨⟨effect.moves.orderly orderly, effect.moves.settings.trans same⟩, ?_⟩
    intro exchange member
    rcases List.mem_append.mp member with earlier | last
    · exact sofar exchange earlier
    · obtain rfl := List.mem_singleton.mp last
      exact ⟨effect, orderly, same⟩

end Handle

end FrameLog
