import Ros2Connect.Parameters.Accepted

/-!
`evalNrOfMultiThreadedExecutorThreads`, which reads some of the parameter lists
before `initializeParameters` does, and the number of threads the executor of
the node gets.
-/

namespace Ros2Connect

open Lib

namespace Parameters

/-- The field of one entry; `parameter` is the name of its list. -/
def useOwnThread (parse : JsonParse) (parameter text : String) : Except String Bool := do
  let json ← asObject parse parameter text
  asBool parameter json "useOwnThread"

/-- The loop over one list. -/
def countOwnThreads (parse : JsonParse) (parameter : String) (nrOfThreads : Nat) :
    List String → Except Failure Nat
  | [] => .ok nrOfThreads
  | text :: rest =>
      match useOwnThread parse parameter text with
      | .error what =>
          .error ⟨parameter ++ " '" ++ text ++ "' is not well formatted. " ++ what,
            parameter ++ " are not well formatted"⟩
      | .ok value => countOwnThreads parse parameter (nrOfThreads + if value then 1 else 0) rest

/-- A failure is returned as -1. -/
def evalNrOfMultiThreadedExecutorThreads (parse : JsonParse) (parameters : Parameters) :
    Except Failure Nat := do
  let nrOfThreads ← countOwnThreads parse "subscriber" 4 parameters.subscriber
  let nrOfThreads ← countOwnThreads parse "service/server" nrOfThreads parameters.serviceServer
  let nrOfThreads ← countOwnThreads parse "service/client" nrOfThreads parameters.serviceClient
  let nrOfThreads ← countOwnThreads parse "action/server" nrOfThreads parameters.actionServer
  let nrOfThreads ← countOwnThreads parse "action/client" nrOfThreads parameters.actionClient
  return nrOfThreads + (if parameters.publishClock then 1 else 0) +
    (if parameters.publishTf then 1 else 0) + (if parameters.subscribeTf then 1 else 0)

/-- `numberOfThreads` of `main`; a server adds one for its status timer. -/
def numberOfThreads (parse : JsonParse) (parameters : Parameters) (server : Bool) : Int :=
  (match evalNrOfMultiThreadedExecutorThreads parse parameters with
    | .error _ => -1
    | .ok nrOfThreads => nrOfThreads) + if server then 1 else 0

/-- `main` ends the node. -/
def Refused (parse : JsonParse) (parameters : Parameters) (server : Bool) : Prop :=
  numberOfThreads parse parameters server < 1

variable {parse : JsonParse} {parameters : Parameters} {profiles : Profiles}

/-- The texts of an exception apart, the kind of an entry is not looked at. -/
theorem useOwnThread_eq_ok {kind text : String} {json : JsonObject} {value : Bool}
    (hjson : asObject parse kind text = .ok json)
    (hvalue : asBool kind json "useOwnThread" = .ok value) (parameter : String) :
    useOwnThread parse parameter text = .ok value := by
  have hobject : asObject parse parameter text = .ok json := by
    simp only [asObject, bind_eq_ok] at hjson ⊢
    obtain ⟨found, hfound, hmembers⟩ := hjson
    refine ⟨found, hfound, ?_⟩
    split at hmembers
    · exact hmembers
    · cases hmembers
  have hbool : asBool parameter json "useOwnThread" = .ok value := by
    unfold asBool at hvalue ⊢
    split at hvalue
    · exact hvalue
    · cases hvalue
  simp only [useOwnThread, bind_eq_ok]
  exact ⟨json, hobject, hbool⟩

/-- A list that was read is counted entry by entry. -/
theorem countOwnThreads_eq_ok (parameter : String) {ε : Type} {channel : ε → UInt8}
    {read : List UInt8 → String → Except String ε} {ownThread : ε → Bool}
    (hread : ∀ {known text entry}, read known text = .ok entry →
      useOwnThread parse parameter text = .ok (ownThread entry))
    {known : List UInt8} {list : List String} {entries : List ε}
    (h : Reads channel read known list entries) (nrOfThreads : Nat) :
    countOwnThreads parse parameter nrOfThreads list =
      .ok (nrOfThreads + entries.countP ownThread) := by
  induction h generalizing nrOfThreads with
  | nil => rfl
  | @cons known text entry rest entries hentry _ ih =>
      simp only [countOwnThreads, hread hentry, ih, List.countP_cons]
      congr 1
      omega

theorem subscriberEntry_useOwnThread {known : List UInt8} {text : String} {entry : TopicDefinition}
    (h : subscriberEntry parse profiles known text = .ok entry) (parameter : String) :
    useOwnThread parse parameter text = .ok entry.useOwnThread := by
  simp only [subscriberEntry, bind_eq_ok, pure_eq_ok] at h
  obtain ⟨json, hjson, -, -, topic, -, type, -, useOwnThread, hown, permanent, -, -, -, -, -, -, -,
    qos, -, compression, -, -, -, found, -, rfl⟩ := h
  exact useOwnThread_eq_ok hjson hown parameter

theorem serviceServerEntry_useOwnThread {known : List UInt8} {text : String}
    {entry : ServiceActionDefinition}
    (h : serviceServerEntry parse profiles known text = .ok entry) (parameter : String) :
    useOwnThread parse parameter text = .ok entry.useOwnThread := by
  simp only [serviceServerEntry, bind_eq_ok, pure_eq_ok] at h
  obtain ⟨json, hjson, -, -, type, -, maxExecTime, -, useOwnThread, hown, allowSimultaneous, -, -,
    -, qos, -, compression, -, -, -, -, -, found, -, rfl⟩ := h
  exact useOwnThread_eq_ok hjson hown parameter

theorem serviceClientEntry_useOwnThread {server known : List UInt8} {text : String}
    {entry : ServiceActionDefinition}
    (h : serviceClientEntry parse profiles server known text = .ok entry) (parameter : String) :
    useOwnThread parse parameter text = .ok entry.useOwnThread := by
  simp only [serviceClientEntry, bind_eq_ok, pure_eq_ok] at h
  obtain ⟨json, hjson, -, -, type, -, useOwnThread, hown, allowSimultaneous, -, -, -, qos, -,
    compression, -, -, -, found, -, rfl⟩ := h
  exact useOwnThread_eq_ok hjson hown parameter

theorem actionServerEntry_useOwnThread {known : List UInt8} {text : String}
    {entry : ServiceActionDefinition}
    (h : actionServerEntry parse profiles known text = .ok entry) (parameter : String) :
    useOwnThread parse parameter text = .ok entry.useOwnThread := by
  simp only [actionServerEntry, bind_eq_ok, pure_eq_ok] at h
  obtain ⟨json, hjson, -, -, type, -, resultTimeout, -, useOwnThread, hown, allowSimultaneous, -,
    -, -, service, -, feedback, -, status, -, compression, -, -, -, -, -, found, -, rfl⟩ := h
  exact useOwnThread_eq_ok hjson hown parameter

theorem actionClientEntry_useOwnThread {server known : List UInt8} {text : String}
    {entry : ServiceActionDefinition}
    (h : actionClientEntry parse profiles server known text = .ok entry) (parameter : String) :
    useOwnThread parse parameter text = .ok entry.useOwnThread := by
  simp only [actionClientEntry, bind_eq_ok, pure_eq_ok] at h
  obtain ⟨json, hjson, -, -, type, -, useOwnThread, hown, allowSimultaneous, -, -, -, service, -,
    feedback, -, status, -, compression, -, -, -, found, -, rfl⟩ := h
  exact useOwnThread_eq_ok hjson hown parameter

end Parameters

open Parameters

namespace Accepted

/-- The threads that are counted by the comment of
`evalNrOfMultiThreadedExecutorThreads`: one each for the shared subscribers, the
services, the actions and the default group, and one for each entry with a thread
of its own. A group that is reentrant may run more callbacks at once. -/
def countedThreads (accepted : Accepted) : Nat :=
  4 + accepted.subscriber.countP TopicDefinition.useOwnThread +
    accepted.serviceServer.countP ServiceActionDefinition.useOwnThread +
    accepted.serviceClient.countP ServiceActionDefinition.useOwnThread +
    accepted.actionServer.countP ServiceActionDefinition.useOwnThread +
    accepted.actionClient.countP ServiceActionDefinition.useOwnThread

end Accepted

theorem countP_predefinedSubscriber (parameters : Parameters) :
    (predefinedSubscriber parameters).countP TopicDefinition.useOwnThread =
      if parameters.subscribeTf then 2 else 0 := by
  unfold predefinedSubscriber
  split <;> rfl

/-- The lists of accepted parameters are read without a failure. -/
theorem Parameters.Initialized.evalNr {env : Environment} {parameters : Parameters}
    {accepted : Accepted} (h : Initialized env parameters accepted) :
    ∃ nrOfThreads, evalNrOfMultiThreadedExecutorThreads env.parse parameters = .ok nrOfThreads ∧
      nrOfThreads + (if parameters.subscribeTf then 1 else 0) = accepted.countedThreads +
        (if parameters.publishClock then 1 else 0) + if parameters.publishTf then 1 else 0 := by
  obtain ⟨subscriber, publisher, hsubscriber, -, hall, -⟩ := h.topics
  have hsubscribers := fun threads => countOwnThreads_eq_ok "subscriber"
    (fun hentry => subscriberEntry_useOwnThread hentry _) (reads_of_readEntries hsubscriber) threads
  have hserviceServer := fun threads => countOwnThreads_eq_ok "service/server"
    (fun hentry => serviceServerEntry_useOwnThread hentry _)
    (reads_of_readEntries h.serviceServer) threads
  have hserviceClient := fun threads => countOwnThreads_eq_ok "service/client"
    (fun hentry => serviceClientEntry_useOwnThread hentry _)
    (reads_of_readEntries h.serviceClient) threads
  have hactionServer := fun threads => countOwnThreads_eq_ok "action/server"
    (fun hentry => actionServerEntry_useOwnThread hentry _)
    (reads_of_readEntries h.actionServer) threads
  have hactionClient := fun threads => countOwnThreads_eq_ok "action/client"
    (fun hentry => actionClientEntry_useOwnThread hentry _)
    (reads_of_readEntries h.actionClient) threads
  simp only [evalNrOfMultiThreadedExecutorThreads, hsubscribers, hserviceServer, hserviceClient,
    hactionServer, hactionClient]
  refine ⟨_, rfl, ?_⟩
  have hpredefined := countP_predefinedSubscriber parameters
  simp only [Accepted.countedThreads, hall, List.countP_append, hpredefined]
  cases parameters.subscribeTf with
  | true =>
      simp only [if_true]
      omega
  | false =>
      simp only [Bool.false_eq_true, if_false]
      omega

/-- For accepted parameters the node gets the threads that are counted, and one
for each of the clock and the transforms it publishes, but only one for the two
topics of the transforms it subscribes. -/
theorem numberOfThreads_accepted (env : Environment) (parameters : Parameters)
    (authentication server : Bool) (accepted : Accepted)
    (h : initializeParameters env parameters authentication = .ok accepted) :
    numberOfThreads env.parse parameters server + (if parameters.subscribeTf then 1 else 0) =
        accepted.countedThreads + (if parameters.publishClock then 1 else 0) +
          (if parameters.publishTf then 1 else 0) + (if server then 1 else 0) ∧
      ¬ Refused env.parse parameters server ∧
      ((accepted.countedThreads : Int) + (if server then 1 else 0) ≤
          numberOfThreads env.parse parameters server ↔
        (parameters.subscribeTf = true → parameters.publishClock = true)) := by
  have hinit := initializeParameters_eq_ok h
  obtain ⟨nrOfThreads, heval, hsum⟩ := hinit.evalNr
  have hthreads : numberOfThreads env.parse parameters server =
      nrOfThreads + if server then 1 else 0 := by
    rw [numberOfThreads, heval]
  have hfour : 4 ≤ accepted.countedThreads := by
    unfold Accepted.countedThreads
    omega
  have hthree : 3 ≤ nrOfThreads := by
    split at hsum <;> omega
  rw [Refused, hthreads]
  refine ⟨?_, ?_, ?_⟩
  · have hcast : (nrOfThreads : Int) + (if parameters.subscribeTf then 1 else 0) =
        accepted.countedThreads + (if parameters.publishClock then 1 else 0) +
          if parameters.publishTf then 1 else 0 := by exact_mod_cast hsum
    omega
  · have hextra : (0 : Int) ≤ if server then 1 else 0 := by split <;> decide
    omega
  · rw [Int.add_le_add_iff_right, Int.ofNat_le]
    cases hsubscribe : parameters.subscribeTf with
    | false =>
        simp only [hsubscribe, Bool.false_eq_true, if_false, false_imp_iff, iff_true] at hsum ⊢
        omega
    | true =>
        have hpublish : parameters.publishTf = false :=
          Bool.eq_false_iff.mpr fun hpublish => hinit.tf ⟨hpublish, hsubscribe⟩
        simp only [hsubscribe, hpublish, Bool.false_eq_true, if_true, if_false, true_imp_iff,
          Nat.add_zero] at hsum ⊢
        cases hclock : parameters.publishClock with
        | false =>
            simp only [hclock, Bool.false_eq_true, if_false, iff_false] at hsum ⊢
            omega
        | true =>
            simp only [hclock, if_true, iff_true] at hsum ⊢
            omega

/-- A shared subscriber, a service with its own thread, the clock, the
transforms and the status timer. -/
theorem numberOfThreads_accepted_sample : ∃ accepted : Accepted,
    numberOfThreads Sample.env.parse (Sample.parameters false) true = 8 ∧
      ¬ Refused Sample.env.parse (Sample.parameters false) true ∧
      (accepted.countedThreads : Int) + 1 ≤
        numberOfThreads Sample.env.parse (Sample.parameters false) true := by
  obtain ⟨accepted, haccepted, -⟩ := Sample.accepts false
  obtain ⟨-, hstarts, henough⟩ :=
    numberOfThreads_accepted Sample.env (Sample.parameters false) true true accepted haccepted
  exact ⟨accepted, by decide +kernel, hstarts, henough.mpr fun _ => rfl⟩

end Ros2Connect
