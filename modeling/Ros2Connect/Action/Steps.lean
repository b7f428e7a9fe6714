import Ros2Connect.Action.ActionPair

/-!
What each step of an action server and client can do, with what it found.
-/

namespace Ros2Connect

open Lib

namespace Action

variable {config : Config} {s t : State} {label : Label}

/-- The op-codes that end a call of `sendGoalAndWait` or `sendCancelAndWait`;
every other message is queued for `executeAccepted`. -/
def answersCall (opCode : ServiceActionOpCode) : Prop :=
  opCode = .actionToServerGoalReject ∨ opCode = .actionToServerGoalAccept ∨
    opCode = .actionToServerCancelAccept ∨ opCode = .actionToServerCancelReject

inductive Step (config : Config) (s : State) : Label → State → Prop where
  | insertHandle (g : GoalUUID) (hphase : (s.goals g).phase = .idle) :
      Step config s (.insertHandle g)
        { s with
          goals := Function.update s.goals g { s.goals g with phase := .inserted }
          serverHandles := s.serverHandles.insert g.gIDString g }
  | startHandling (g : GoalUUID) (hphase : (s.goals g).phase = .inserted) :
      Step config s (.startHandling g)
        { s with
          goals := Function.update s.goals g { s.goals g with
            phase := .armed, goalResponse := none, handlingGoal := true } }
  | sendGoal (g : GoalUUID) (data : Bytes) (hphase : (s.goals g).phase = .armed) :
      Step config s (.sendGoal g data)
        { s with
          goals := Function.update s.goals g { s.goals g with phase := .waiting }
          toClient := s.toClient ++
            [.arriving config.reception .actionToClientGoal g.bytes data] }
  | acceptGoal (g : GoalUUID) (m : Transfer) (hphase : (s.goals g).phase = .waiting)
      (hresponse : (s.goals g).goalResponse = some m)
      (hop : m.opCode = .actionToServerGoalAccept) :
      Step config s (.receiveGoalResponse g)
        { s with
          goals := Function.update s.goals g { s.goals g with
            phase := .returned true, handlingGoal := false } }
  | rejectGoal (g : GoalUUID) (hphase : (s.goals g).phase = .waiting) :
      Step config s (.receiveGoalResponse g)
        { s with
          goals := Function.update s.goals g { s.goals g with
            phase := .returned false, handlingGoal := false }
          serverToRemove := s.serverToRemove ++ [g] }
  | goalTimeout (g : GoalUUID) (hphase : (s.goals g).phase = .waiting) :
      Step config s (.goalTimeout g)
        { s with
          goals := Function.update s.goals g { s.goals g with
            phase := .returned false, handlingGoal := false }
          toClient := s.toClient ++
            [.arriving config.reception .actionToClientCancel g.bytes []]
          serverToRemove := s.serverToRemove ++ [g] }
  | acceptUnknown (g : GoalUUID) (hphase : (s.goals g).phase = .returned true)
      (haccepted : (s.goals g).accepted = none)
      (hknown : s.serverHandles g.gIDString = none) :
      Step config s (.handleAccepted g)
        { s with
          goals := Function.update s.goals g { s.goals g with accepted := some false }
          toClient := s.toClient ++
            [.arriving config.reception .actionToClientCancel g.bytes []] }
  | acceptJoinable (g owner : GoalUUID) (hphase : (s.goals g).phase = .returned true)
      (haccepted : (s.goals g).accepted = none)
      (howner : s.serverHandles g.gIDString = some owner)
      (hthread : (s.goals owner).thread ≠ .absent) :
      Step config s (.handleAccepted g)
        { s with
          goals := Function.update s.goals g { s.goals g with accepted := some false }
          toClient := s.toClient ++
            [.arriving config.reception .actionToClientCancel owner.bytes []]
          serverToRemove := s.serverToRemove ++ [owner] }
  | acceptStart (g owner : GoalUUID) (hphase : (s.goals g).phase = .returned true)
      (haccepted : (s.goals g).accepted = none)
      (howner : s.serverHandles g.gIDString = some owner)
      (hthread : (s.goals owner).thread = .absent) :
      Step config s (.handleAccepted g)
        (let called := Function.update s.goals g { s.goals g with accepted := some true }
        { s with
          goals := Function.update called owner { called owner with
            handlingWait := true, thread := .running } })
  | dropQueued (g : GoalUUID) (m : Transfer) (rest : List Transfer)
      (hthread : (s.goals g).thread = .running) (hqueue : (s.goals g).waitQueue = m :: rest)
      (hdrop : PluginCall.ofOpCode? m.opCode = none ∨ m.data = none) :
      Step config s (.executeAccepted g)
        { s with
          goals := Function.update s.goals g { s.goals g with waitQueue := rest } }
  | callFeedback (g : GoalUUID) (m : Transfer) (rest : List Transfer) (data : Bytes)
      (hthread : (s.goals g).thread = .running) (hqueue : (s.goals g).waitQueue = m :: rest)
      (hcall : PluginCall.ofOpCode? m.opCode = some .feedback) (hdata : m.data = some data) :
      Step config s (.executeAccepted g)
        { s with
          goals := Function.update s.goals g { s.goals g with waitQueue := rest }
          calls := Function.update s.calls g (s.calls g ++ [(.feedback, data)]) }
  | callResult (g : GoalUUID) (m : Transfer) (rest : List Transfer) (call : PluginCall)
      (data : Bytes) (hthread : (s.goals g).thread = .running)
      (hqueue : (s.goals g).waitQueue = m :: rest) (hresult : call ≠ .feedback)
      (hcall : m.data = none ∨
        PluginCall.ofOpCode? m.opCode = some call ∧ m.data = some data) :
      Step config s (.executeAccepted g)
        { s with
          goals := Function.update s.goals g { s.goals g with
            waitQueue := rest, handlingWait := false, thread := .finished }
          calls := Function.update s.calls g (s.calls g ++ [(call, data)])
          serverToRemove := s.serverToRemove ++ [g] }
  | findNone (g : GoalUUID) : Step config s (.findCancel g) s
  | findCancel (g owner : GoalUUID) (howner : s.serverHandles g.gIDString = some owner) :
      Step config s (.findCancel g)
        { s with
          goals := Function.update s.goals owner { s.goals owner with
            cancelsFound := (s.goals owner).cancelsFound + 1 } }
  | startCancel (g : GoalUUID) (hfound : (s.goals g).cancelsFound ≠ 0) :
      Step config s (.startCancel g)
        { s with
          goals := Function.update s.goals g { s.goals g with
            cancelResponse := none
            handlingCancel := true
            cancelsFound := (s.goals g).cancelsFound - 1
            cancelsArmed := (s.goals g).cancelsArmed + 1 } }
  | sendCancel (g : GoalUUID) (harmed : (s.goals g).cancelsArmed ≠ 0) :
      Step config s (.sendCancel g)
        { s with
          goals := Function.update s.goals g { s.goals g with
            cancelsArmed := (s.goals g).cancelsArmed - 1
            cancelsWaiting := (s.goals g).cancelsWaiting + 1 }
          toClient := s.toClient ++
            [.arriving config.reception .actionToClientCancel g.bytes []] }
  | endCancel (g : GoalUUID) (label : Label)
      (hlabel : label = .receiveCancelResponse g ∨ label = .cancelTimeout g) :
      Step config s label
        { s with
          goals := Function.update s.goals g { s.goals g with
            handlingCancel := false
            cancelsWaiting := (s.goals g).cancelsWaiting - 1 } }
  | endCancelRemoving (g : GoalUUID) (hwaiting : (s.goals g).cancelsWaiting ≠ 0)
      (hwait : (s.goals g).handlingWait = false) :
      Step config s (.receiveCancelResponse g)
        { s with
          goals := Function.update s.goals g { s.goals g with
            handlingCancel := false
            cancelsWaiting := (s.goals g).cancelsWaiting - 1 }
          serverToRemove := s.serverToRemove ++ [g] }
  | serverDrop (m : Transfer) (rest : List Transfer) (hlink : s.toServer = m :: rest)
      (hdrop : s.serverHandles (ServiceActionHandle.gIDString m.gID) = none ∨
        answersCall m.opCode) :
      Step config s .serverHandle { s with toServer := rest }
  | serverGoalResponse (m : Transfer) (rest : List Transfer) (g : GoalUUID)
      (hlink : s.toServer = m :: rest)
      (howner : s.serverHandles (ServiceActionHandle.gIDString m.gID) = some g)
      (hop : m.opCode = .actionToServerGoalReject ∨ m.opCode = .actionToServerGoalAccept) :
      Step config s .serverHandle
        { s with
          toServer := rest
          goals := Function.update s.goals g { s.goals g with goalResponse := some m } }
  | serverCancelResponse (m : Transfer) (rest : List Transfer) (g : GoalUUID)
      (hlink : s.toServer = m :: rest)
      (howner : s.serverHandles (ServiceActionHandle.gIDString m.gID) = some g)
      (hop : m.opCode = .actionToServerCancelAccept ∨
        m.opCode = .actionToServerCancelReject) :
      Step config s .serverHandle
        { s with
          toServer := rest
          goals := Function.update s.goals g { s.goals g with cancelResponse := some m } }
  | serverQueue (m : Transfer) (rest : List Transfer) (g : GoalUUID)
      (hlink : s.toServer = m :: rest)
      (howner : s.serverHandles (ServiceActionHandle.gIDString m.gID) = some g) :
      Step config s .serverHandle
        { s with
          toServer := rest
          goals := Function.update s.goals g { s.goals g with
            waitQueue := (s.goals g).waitQueue ++ [m] } }
  | serverRemove (g : GoalUUID) (rest : List GoalUUID) (hqueue : s.serverToRemove = g :: rest) :
      Step config s .serverRemove
        { s with
          serverToRemove := rest
          serverHandles := s.serverHandles.erase g.gIDString }
  | clientReject (m : Transfer) (rest : List Transfer) (hlink : s.toClient = m :: rest) :
      Step config s .clientHandle
        { s with
          toClient := rest
          toServer := s.toServer ++
            [.arriving config.reception .actionToServerGoalReject m.gID []] }
  | clientNew (m : Transfer) (rest : List Transfer) (g : GoalUUID)
      (hlink : s.toClient = m :: rest) (hop : m.opCode = .actionToClientGoal)
      (hgid : m.gID = g.bytes) :
      Step config s .clientHandle
        { s with
          toClient := rest
          executions := Function.update s.executions g
            ⟨.running, [m], false, false, false, false, false, 0, []⟩
          clientHandles := s.clientHandles.insert g.gIDString g }
  | clientCancel (m : Transfer) (rest : List Transfer) (g : GoalUUID)
      (hlink : s.toClient = m :: rest) (hop : m.opCode = .actionToClientCancel) :
      Step config s .clientHandle
        { s with
          toClient := rest
          executions := Function.update s.executions g { s.executions g with
            waitQueue := (s.executions g).waitQueue ++ [m] } }
  | clientDrop (m : Transfer) (rest : List Transfer) (hlink : s.toClient = m :: rest) :
      Step config s .clientHandle { s with toClient := rest }
  | finish (g : GoalUUID) (available : Bool) :
      Step config s (.executeHandle g available)
        { s with
          executions := Function.update s.executions g { s.executions g with
            thread := .finished }
          clientToRemove := s.clientToRemove ++ [g] }
  | dropMessage (g : GoalUUID) (available : Bool) (m : Transfer) (rest : List Transfer)
      (hqueue : (s.executions g).waitQueue = m :: rest) :
      Step config s (.executeHandle g available)
        { s with
          executions := Function.update s.executions g { s.executions g with
            waitQueue := rest } }
  | requeueCancel (g : GoalUUID) (available : Bool) (m : Transfer) (rest : List Transfer)
      (hqueue : (s.executions g).waitQueue = m :: rest)
      (hop : m.opCode = .actionToClientCancel) :
      Step config s (.executeHandle g available)
        { s with
          executions := Function.update s.executions g { s.executions g with
            waitQueue := rest ++ [m] } }
  | executeCancel (g : GoalUUID) (available : Bool) (m : Transfer) (rest : List Transfer)
      (hqueue : (s.executions g).waitQueue = m :: rest) :
      Step config s (.executeHandle g available)
        { s with
          executions := Function.update s.executions g { s.executions g with
            waitQueue := rest
            handlingCancel := true
            cancelsPending := (s.executions g).cancelsPending + 1 } }
  | asyncSendGoal (g : GoalUUID) (available : Bool) (m : Transfer) (rest : List Transfer)
      (hqueue : (s.executions g).waitQueue = m :: rest)
      (hop : m.opCode = .actionToClientGoal) :
      Step config s (.executeHandle g available)
        { s with
          executions := Function.update s.executions g { s.executions g with
            waitQueue := rest, handlingGoal := true, goalSent := true, goalPending := true } }
  | refuseGoal (g : GoalUUID) (available : Bool) (m : Transfer) (rest : List Transfer)
      (hqueue : (s.executions g).waitQueue = m :: rest)
      (hop : m.opCode = .actionToClientGoal) :
      Step config s (.executeHandle g available)
        { s with
          executions := Function.update s.executions g { s.executions g with
            waitQueue := rest, handlingGoal := false, done := true }
          toServer := s.toServer ++
            [.arriving config.reception .actionToServerGoalReject g.bytes []]
          verdicts := Function.update s.verdicts g (s.verdicts g ++ [.refused]) }
  | goalAccepted (g : GoalUUID) (hpending : (s.executions g).goalPending = true) :
      Step config s (.goalAccepted g)
        { s with
          executions := Function.update s.executions g { s.executions g with
            goalPending := false
            settling := (s.executions g).settling ++ [.goalAccepted] }
          toServer := s.toServer ++
            [.arriving config.reception .actionToServerGoalAccept g.bytes []]
          verdicts := Function.update s.verdicts g (s.verdicts g ++ [.accepted]) }
  | goalRejected (g : GoalUUID) (hpending : (s.executions g).goalPending = true) :
      Step config s (.goalRejected g)
        { s with
          executions := Function.update s.executions g { s.executions g with
            goalPending := false
            settling := (s.executions g).settling ++ [.goalRejected] }
          toServer := s.toServer ++
            [.arriving config.reception .actionToServerGoalAccept g.bytes []]
          verdicts := Function.update s.verdicts g (s.verdicts g ++ [.rejected]) }
  | answerCancel (g : GoalUUID) (label : Label) (opCode : ServiceActionOpCode)
      (settling : Settling)
      (hlabel : label = .cancelAccepted g ∨ label = .cancelRejected g)
      (hop : opCode = .actionToServerCancelAccept ∨ opCode = .actionToServerCancelReject) :
      Step config s label
        { s with
          executions := Function.update s.executions g { s.executions g with
            cancelsPending := (s.executions g).cancelsPending - 1
            settling := (s.executions g).settling ++ [settling] }
          toServer := s.toServer ++ [.arriving config.reception opCode g.bytes []] }
  | emit (g : GoalUUID) (emission : Emission) (data : Bytes) (settling : List Settling)
      (hsent : (s.executions g).goalSent = true) :
      Step config s (.emit g emission data)
        { s with
          executions := Function.update s.executions g { s.executions g with
            settling := (s.executions g).settling ++ settling }
          toServer := s.toServer ++
            [.arriving config.reception emission.opCode g.bytes data]
          emitted := Function.update s.emitted g (s.emitted g ++ [(emission, data)]) }
  | settle (g : GoalUUID) (settling : Settling) :
      Step config s (.settle g settling)
        { s with
          executions := Function.update s.executions g (settling.flags { s.executions g with
            settling := (s.executions g).settling.erase settling }) }
  | clientRemove (g : GoalUUID) (rest : List GoalUUID) :
      Step config s .clientRemove
        { s with
          clientToRemove := rest
          clientHandles := s.clientHandles.erase g.gIDString }

theorem Step.of_serverHandle (henabled : enabled s .serverHandle = true) :
    Step config s .serverHandle (serverHandle s) := by
  cases hlink : s.toServer with
  | nil => simp [enabled, hlink] at henabled
  | cons m rest =>
      simp only [serverHandle, hlink]
      split
      · rename_i hnone
        exact .serverDrop m rest hlink (Or.inl hnone)
      · rename_i g howner
        split
        · rename_i hop
          split
          · exact .serverGoalResponse m rest g hlink howner hop
          · exact .serverDrop m rest hlink (Or.inr (hop.imp_right Or.inl))
        · split
          · rename_i hop
            split
            · exact .serverCancelResponse m rest g hlink howner hop
            · exact .serverDrop m rest hlink (Or.inr (Or.inr (Or.inr hop)))
          · exact .serverQueue m rest g hlink howner

theorem Step.of_executeAccepted {g : GoalUUID}
    (henabled : enabled s (.executeAccepted g) = true) :
    Step config s (.executeAccepted g) (executeAccepted s g) := by
  simp only [enabled, Bool.and_eq_true, beq_iff_eq, Bool.not_eq_true'] at henabled
  obtain ⟨hthread, hqueue⟩ := henabled
  cases hmessages : (s.goals g).waitQueue with
  | nil => simp [hmessages] at hqueue
  | cons m rest =>
      simp only [executeAccepted, hmessages]
      split
      · rename_i hcall
        exact .dropQueued g m rest hthread hmessages (Or.inl hcall)
      · rename_i hdata
        exact .dropQueued g m rest hthread hmessages (Or.inr hdata)
      · rename_i hdata
        exact .callResult g m rest .abort [] hthread hmessages (by decide) (Or.inl hdata)
      · rename_i call data hcall hdata
        by_cases hfeedback : call = .feedback
        · subst hfeedback
          exact .callFeedback g m rest data hthread hmessages hcall hdata
        · simp only [callPlugin, if_neg hfeedback]
          exact .callResult g m rest call data hthread hmessages hfeedback
            (Or.inr ⟨hcall, hdata⟩)

theorem Step.of_clientHandle (henabled : enabled s .clientHandle = true) :
    Step config s .clientHandle (clientHandle config s) := by
  cases hlink : s.toClient with
  | nil => simp [enabled, hlink] at henabled
  | cons m rest =>
      simp only [clientHandle, hlink]
      split
      · rename_i hop
        split
        · exact .clientReject m rest hlink
        · split
          · rename_i size
            exact .clientNew m rest ⟨m.gID, size⟩ hlink hop rfl
          · exact .clientDrop m rest hlink
      · split
        · rename_i hop
          split
          · exact .clientReject m rest hlink
          · rename_i g howner
            exact .clientCancel m rest g hlink hop
        · exact .clientDrop m rest hlink

theorem Step.of_executeHandle {g : GoalUUID} {available : Bool}
    (henabled : enabled s (.executeHandle g available) = true) :
    Step config s (.executeHandle g available) (executeHandle config s g available) := by
  simp only [executeHandle]
  split
  · exact .finish g available
  · rename_i hdone
    split
    · rename_i hqueue
      simp [enabled, hqueue, hdone] at henabled
    · rename_i m rest hqueue
      split
      · rename_i hop
        split
        · exact .dropMessage g available m rest hqueue
        · unfold executeGoal
          split
          · exact .asyncSendGoal g available m rest hqueue hop
          · exact .refuseGoal g available m rest hqueue hop
      · split
        · rename_i hop
          split
          · exact .requeueCancel g available m rest hqueue hop
          · split
            · exact .dropMessage g available m rest hqueue
            · exact .executeCancel g available m rest hqueue
        · exact .dropMessage g available m rest hqueue

theorem Step.of_enabled (henabled : enabled s label = true) :
    Step config s label (next config s label) := by
  cases label with
  | insertHandle g => exact .insertHandle g (by simpa [enabled] using henabled)
  | startHandling g => exact .startHandling g (by simpa [enabled] using henabled)
  | sendGoal g data => exact .sendGoal g data (by simpa [enabled] using henabled)
  | receiveGoalResponse g =>
      simp only [enabled, Bool.and_eq_true, beq_iff_eq, Option.isSome_iff_exists] at henabled
      obtain ⟨hphase, m, hresponse⟩ := henabled
      simp only [next, receiveGoalResponse, hresponse]
      split
      · rename_i hop
        simpa [hresponse, State.setGoal] using
          @Step.acceptGoal config _ g m hphase hresponse hop
      · simpa [hresponse, State.setGoal, State.serverQueueRemoval] using
          @Step.rejectGoal config _ g hphase
  | goalTimeout g =>
      simp only [enabled, Bool.and_eq_true, beq_iff_eq] at henabled
      exact .goalTimeout g henabled.1
  | handleAccepted g =>
      simp only [enabled, Bool.and_eq_true, beq_iff_eq, Option.isNone_iff_eq_none] at henabled
      simp only [next, handleAccepted]
      split
      · rename_i hknown
        exact .acceptUnknown g henabled.1 henabled.2 hknown
      · rename_i owner howner
        split
        · rename_i hthread
          exact .acceptStart g owner henabled.1 henabled.2 howner hthread
        · rename_i hthread
          exact .acceptJoinable g owner henabled.1 henabled.2 howner hthread
  | executeAccepted g => exact .of_executeAccepted henabled
  | findCancel g =>
      simp only [next]
      split
      · exact .findNone g
      · rename_i owner howner
        exact .findCancel g owner howner
  | startCancel g => exact .startCancel g (by simpa [enabled] using henabled)
  | sendCancel g => exact .sendCancel g (by simpa [enabled] using henabled)
  | receiveCancelResponse g =>
      simp only [enabled, Bool.and_eq_true, bne_iff_ne] at henabled
      simp only [next, Action.endCancel]
      split
      · rename_i hremove
        exact .endCancelRemoving g henabled.1 hremove.2
      · exact .endCancel g _ (Or.inl rfl)
  | cancelTimeout g =>
      simpa [next, Action.endCancel, State.setGoal] using
        @Step.endCancel config s g _ (Or.inr rfl)
  | serverHandle => exact .of_serverHandle henabled
  | serverRemove =>
      cases hqueue : s.serverToRemove with
      | nil => simp [enabled, hqueue] at henabled
      | cons g rest =>
          simp only [next, hqueue]
          exact .serverRemove g rest hqueue
  | clientHandle => exact .of_clientHandle henabled
  | executeHandle g available => exact .of_executeHandle henabled
  | goalAccepted g => exact .goalAccepted g henabled
  | goalRejected g => exact .goalRejected g henabled
  | cancelAccepted g =>
      exact .answerCancel g _ .actionToServerCancelAccept .cancelAccepted (Or.inl rfl)
        (Or.inl rfl)
  | cancelRejected g =>
      exact .answerCancel g _ .actionToServerCancelReject .cancelRejected (Or.inr rfl)
        (Or.inr rfl)
  | emit g emission data => exact .emit g emission data _ henabled
  | settle g settling => exact .settle g settling
  | clientRemove =>
      cases hqueue : s.clientToRemove with
      | nil => simp [enabled, hqueue] at henabled
      | cons g rest =>
          simp only [next, hqueue]
          exact .clientRemove g rest

end Action

end Ros2Connect
