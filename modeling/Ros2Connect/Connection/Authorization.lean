import Ros2Connect.Connection.ServerConnection

/-!
When a connection is authorized. `isValid` reads the user the plugin holds, so
a second AUTHENTICATION message after an accepted one is accepted whatever its
key is, and starts the managers again.
-/

namespace Ros2Connect

open Lib

namespace ServerConnection

variable {Plugin : Type} {config : Config Plugin} {s t : State Plugin} {label : Label}

/-- What the base class asks of a plugin: a user is only set for a key the
call returns true for. -/
def Label.SetsUserOnlyWhenTrue : Label → Prop
  | .receive _ check _ => check.user.isSome = true → check.returned = true
  | _ => True

instance : DecidablePred Label.SetsUserOnlyWhenTrue
  | .receive _ check _ =>
      inferInstanceAs (Decidable (check.user.isSome = true → check.returned = true))
  | .connect _ | .validAuthenticationCheck | .authenticationEnd | .stopConnection
  | .publisherTake | .publisherRun | .threadedTake _ | .threadedRun _ | .subscriberTake
  | .subscriberRun | .serviceActionTake | .serviceActionRun => isTrue trivial

/-- `onAuthorized` was executed once at most, for the connection itself when
authentication is omitted and for a key the plugin returned true for otherwise,
and no thread was started over one that exists. -/
structure AuthorizedOnce (config : Config Plugin) (s : State Plugin) : Prop where
  once : s.authorizations.length ≤ 1
  cause : config.authenticationOmit = false → ∀ cause ∈ s.authorizations,
    ∃ userKey, cause = .userKey userKey true
  threads : s.terminated ≠ some .unjoinedThread

/-- A user key is validated after one was accepted, and the plugin's answer
leaves a user set. -/
def Revalidates (config : Config Plugin) (s : State Plugin) : Label → Prop
  | .receive frame check _ =>
      Validates config frame ∧ s.authorizations ≠ [] ∧ check.user.getD s.user ≠ []
  | _ => False

instance (config : Config Plugin) (s : State Plugin) : DecidablePred (Revalidates config s)
  | .receive frame check _ => inferInstanceAs (Decidable
      (Validates config frame ∧ s.authorizations ≠ [] ∧ check.user.getD s.user ≠ []))
  | .connect _ | .validAuthenticationCheck | .authenticationEnd | .stopConnection
  | .publisherTake | .publisherRun | .threadedTake _ | .threadedRun _ | .subscriberTake
  | .subscriberRun | .serviceActionTake | .serviceActionRun => isFalse id

/-- What the authorization of a connection rests on. -/
structure Authorization (config : Config Plugin) (s : State Plugin) : Prop where
  disconnected : s.connected = false → s.authorizations = []
  user : s.authorizations = [] → s.user = []
  threadless : s.authorizations = [] → s.Threadless
  once : AuthorizedOnce config s

/-- A step that has no part in the authorization. -/
structure Frames (s t : State Plugin) : Prop where
  connected : t.connected = s.connected
  user : t.user = s.user
  authorizations : t.authorizations = s.authorizations
  threadless : s.Threadless → t.Threadless
  terminated : t.terminated = some .unjoinedThread → s.terminated = some .unjoinedThread

theorem Frames.authorization (hframes : Frames s t) (h : Authorization config s) :
    Authorization config t where
  disconnected := by
    rw [hframes.connected, hframes.authorizations]
    exact h.disconnected
  user := by
    rw [hframes.authorizations, hframes.user]
    exact h.user
  threadless := by
    rw [hframes.authorizations]
    exact fun hnone => hframes.threadless (h.threadless hnone)
  once := by
    refine ⟨?_, ?_, fun hdead => h.once.threads (hframes.terminated hdead)⟩
    · rw [hframes.authorizations]
      exact h.once.once
    · rw [hframes.authorizations]
      exact h.once.cause

/-- A termination for another reason than an unjoined thread. -/
theorem Frames.terminate {termination : Termination} (h : termination ≠ .unjoinedThread) :
    Frames s (s.terminate termination) where
  connected := rfl
  user := rfl
  authorizations := rfl
  threadless := fun hnull => ⟨hnull.1, hnull.2, hnull.3⟩
  terminated := fun hdead => absurd (Option.some.inj hdead) h

theorem Frames.enterHandler : Frames s s.enterHandler := by
  unfold State.enterHandler
  split
  · exact ⟨rfl, rfl, rfl, fun hnull => ⟨hnull.1, hnull.2, hnull.3⟩, id⟩
  · exact ⟨rfl, rfl, rfl, id, id⟩

/-- The timers, the managers' threads and the end of a connection. -/
theorem next_frames (hconnect : ∀ spawned, label ≠ .connect spawned)
    (hreceive : ∀ frame check spawned, label ≠ .receive frame check spawned) :
    Frames s (next config s label) := by
  have hsame : ∀ {t : State Plugin}, t.connected = s.connected → t.user = s.user →
      t.authorizations = s.authorizations → t.publisherThread = s.publisherThread →
      t.subscriberThread = s.subscriberThread →
      t.serviceActionThread = s.serviceActionThread → t.terminated = s.terminated →
      Frames s t := by
    intro t hconnected huser hauthorizations hpublisher hsubscriber hserviceAction hdead
    refine ⟨hconnected, huser, hauthorizations, ?_, fun h => hdead ▸ h⟩
    exact fun hnull => ⟨hpublisher.trans hnull.1, hsubscriber.trans hnull.2,
      hserviceAction.trans hnull.3⟩
  cases label with
  | connect spawned => exact absurd rfl (hconnect spawned)
  | receive frame check spawned => exact absurd rfl (hreceive frame check spawned)
  | validAuthenticationCheck =>
      simp only [next, State.validAuthenticationCheckCallback]
      split
      · exact ⟨rfl, rfl, rfl, fun hnull => ⟨hnull.1, hnull.2, hnull.3⟩, nofun⟩
      · split <;> exact hsame rfl rfl rfl rfl rfl rfl rfl
  | stopConnection => exact ⟨rfl, rfl, rfl, fun _ => ⟨rfl, rfl, rfl⟩, id⟩
  | threadedRun channel =>
      simp only [next, State.threadedRun]
      split
      · exact .terminate (by decide)
      · exact hsame rfl rfl rfl rfl rfl rfl rfl
  | subscriberRun =>
      simp only [next, State.subscriberRun]
      split
      · exact .terminate (by simp)
      · exact hsame rfl rfl rfl rfl rfl rfl rfl
  | serviceActionTake =>
      simp only [next, State.serviceActionTake]
      split <;> exact hsame rfl rfl rfl rfl rfl rfl rfl
  | serviceActionRun =>
      simp only [next, State.serviceActionRun]
      split
      · exact hsame rfl rfl rfl rfl rfl rfl rfl
      · split
        · exact .terminate (by simp)
        · exact hsame rfl rfl rfl rfl rfl rfl rfl
        · exact hsame rfl rfl rfl rfl rfl rfl rfl
  | authenticationEnd | publisherTake | publisherRun | threadedTake | subscriberTake =>
      exact hsame rfl rfl rfl rfl rfl rfl rfl

theorem processData_frames (message : RclMessage) : Frames s (s.processData message) := by
  unfold State.processData
  split <;> exact ⟨rfl, rfl, rfl, fun hnull => ⟨hnull.1, hnull.2, hnull.3⟩, id⟩

theorem respond_frames : Frames s s.respond := by
  unfold State.respond
  split <;> exact ⟨rfl, rfl, rfl, fun hnull => ⟨hnull.1, hnull.2, hnull.3⟩, id⟩

/-- The first authorization, with its cause. -/
theorem Authorization.onAuthorized (s : State Plugin) (hdead : s.terminated ≠ some .unjoinedThread)
    (hnone : s.authorizations = []) (hnull : s.Threadless) (hconnected : s.connected = true)
    {cause : Cause} (hcause : config.authenticationOmit = false →
      ∃ userKey, cause = .userKey userKey true) (spawned : Spawned) :
    Authorization config (s.onAuthorized config cause spawned) := by
  rcases s.onAuthorized_cases config cause spawned with ⟨-, heq⟩ | ⟨hthread, -⟩
  · rw [heq]
    refine ⟨?_, ?_, ?_, ?_, ?_, hdead⟩
    · exact fun hdisconnected => absurd (hconnected.symm.trans hdisconnected) (by simp)
    · simp [State.authorized, State.logAuthorization]
    · simp [State.authorized, State.logAuthorization]
    · simp [State.authorized, State.logAuthorization, hnone]
    · intro homit other hother
      simp only [State.authorized, State.logAuthorization, hnone, List.nil_append,
        List.mem_singleton] at hother
      exact hother ▸ hcause homit
  · exact absurd hnull hthread

theorem Authorization.connect (h : Authorization config s)
    (hdisconnected : s.connected = false) (spawned : Spawned) :
    Authorization config (s.onConnected config spawned) := by
  have hnone := h.disconnected hdisconnected
  have hnull := h.threadless hnone
  unfold State.onConnected
  cases homit : config.authenticationOmit with
  | true =>
      refine Authorization.onAuthorized { s with connected := true } h.once.threads hnone
        ⟨hnull.1, hnull.2, hnull.3⟩ rfl (fun homitted => ?_) spawned
      rw [homit] at homitted
      cases homitted
  | false =>
      exact ⟨nofun, h.user, fun _ => ⟨hnull.1, hnull.2, hnull.3⟩,
        h.once.once, h.once.cause, h.once.threads⟩

/-- A message leaves the connection authorized at most once, unless it is
validated again. -/
theorem Authorization.receive (h : Authorization config s) (hconnected : s.connected = true)
    {frame : Bytes} {check : KeyCheck} {spawned : Spawned}
    (hplugin : check.user.isSome = true → check.returned = true)
    (hagain : ¬ Revalidates config s (.receive frame check spawned))
    (hreceives : Receives config frame check spawned s t) : Authorization config t := by
  have huser : (s.store check).user = check.user.getD s.user := rfl
  have hfirst : Validates config frame → (s.store check).user ≠ [] →
      s.authorizations = [] ∧ check.returned = true := by
    intro hvalidates hstored
    have hnone : s.authorizations = [] := by
      by_contra hauthorized
      exact hagain ⟨hvalidates, hauthorized, huser ▸ hstored⟩
    refine ⟨hnone, hplugin ?_⟩
    cases hset : check.user with
    | some user => rfl
    | none =>
        rw [huser, hset, Option.getD_none, h.user hnone] at hstored
        exact absurd rfl hstored
  have hauthorized : ∀ userKey, Validates config frame → (s.store check).user ≠ [] →
      Authorization config ((s.store check).onAuthorized config
        (.userKey userKey check.returned) spawned) := by
    intro userKey hvalidates hstored
    obtain ⟨hnone, hreturned⟩ := hfirst hvalidates hstored
    have hnull := h.threadless hnone
    exact Authorization.onAuthorized (s.store check) h.once.threads hnone
      ⟨hnull.1, hnull.2, hnull.3⟩ hconnected (fun _ => ⟨userKey, by rw [hreturned]⟩) spawned
  cases hreceives with
  | fault fault hfault => exact (Frames.terminate (by simp)).authorization h
  | omitted =>
      have hsend : Frames s (s.send (VectorMessage.forOpCodeAuthentication [])) :=
        ⟨rfl, rfl, rfl, fun hnull => ⟨hnull.1, hnull.2, hnull.3⟩, id⟩
      exact hsend.authorization h
  | unavailable =>
      have hstop : Frames s { s with stopRequested := true } :=
        ⟨rfl, rfl, rfl, fun hnull => ⟨hnull.1, hnull.2, hnull.3⟩, id⟩
      exact hstop.authorization h
  | invalid hvalidates hempty =>
      exact ⟨h.disconnected, fun _ => hempty, fun hnone => ⟨(h.threadless hnone).1,
        (h.threadless hnone).2, (h.threadless hnone).3⟩, h.once.once, h.once.cause,
        h.once.threads⟩
  | valid userKey hvalidates hstored =>
      exact respond_frames.authorization (hauthorized userKey hvalidates hstored)
  | terminated userKey hvalidates hstored => exact hauthorized userKey hvalidates hstored
  | data message => exact (processData_frames message).authorization h

/-- What one step keeps. -/
theorem Authorization.next (h : Authorization config s)
    (henabled : enabled s label = true) (hplugin : label.SetsUserOnlyWhenTrue)
    (hagain : ¬ Revalidates config s label) :
    Authorization config (next config s label) := by
  cases label with
  | connect spawned =>
      have hdisconnected : s.connected = false := by
        simp only [enabled, Bool.and_eq_true, Bool.not_eq_true'] at henabled
        exact henabled.1.2
      exact h.connect hdisconnected spawned
  | receive frame check spawned =>
      have hconnected : s.connected = true := by
        simp only [enabled, Bool.and_eq_true] at henabled
        exact henabled.1.2
      have hframes : Frames s s.enterHandler := .enterHandler
      refine (hframes.authorization h).receive (hframes.connected.trans hconnected) hplugin ?_
        (receive_receives config frame check spawned s)
      simp only [Revalidates, hframes.authorizations, hframes.user]
      exact hagain
  | _ => exact (next_frames (by simp) (by simp)).authorization h

/-- A key that is validated again authorizes the connection a second time. -/
theorem Revalidates.not_authorizedOnce (h : Revalidates config s label) :
    ¬ AuthorizedOnce config (next config s label) := by
  intro honce
  cases label with
  | receive frame check spawned =>
      obtain ⟨⟨homit, hplugin, hkey⟩, hauthorized, huser⟩ := h
      have hframes : Frames s s.enterHandler := .enterHandler
      have hstored : (s.enterHandler.store check).user ≠ [] := by
        rw [← hframes.user] at huser
        exact huser
      have htwo : ∀ {u : State Plugin} {cause : Cause},
          u.authorizations = s.authorizations ++ [cause] → 1 < u.authorizations.length := by
        intro u cause hlog
        have hpositive := List.length_pos_iff.mpr hauthorized
        rw [hlog, List.length_append, List.length_singleton]
        omega
      have hlogged : ∀ userKey, ((s.enterHandler.store check).onAuthorized config
          (.userKey userKey check.returned) spawned).authorizations =
            s.authorizations ++ [.userKey userKey check.returned] := by
        intro userKey
        rw [← hframes.authorizations]
        rcases (s.enterHandler.store check).onAuthorized_cases config
          (.userKey userKey check.returned) spawned with ⟨-, heq⟩ | ⟨-, heq⟩ <;> rw [heq] <;> rfl
      have hlength := honce.once
      have hreceives := receive_receives config frame check spawned s
      simp only [ServerConnection.next] at hlength
      generalize s.receive config frame check spawned = t at hlength hreceives
      cases hreceives with
      | fault fault hfault => simp [holdsUserKey, hfault] at hkey
      | omitted homitted =>
          rw [homit] at homitted
          cases homitted
      | unavailable hunavailable =>
          rw [hplugin] at hunavailable
          cases hunavailable
      | invalid _ hempty => exact hstored hempty
      | data message hmessage hdata => simp [holdsUserKey, hmessage, hdata] at hkey
      | valid userKey =>
          have hsecond := htwo (respond_frames.authorizations.trans (hlogged userKey))
          omega
      | terminated userKey =>
          have hsecond := htwo (hlogged userKey)
          omega
  | _ => exact h

theorem Authorization.start : Authorization config .start where
  disconnected := fun _ => rfl
  user := fun _ => rfl
  threadless := fun _ => ⟨rfl, rfl, rfl⟩
  once := ⟨Nat.zero_le _, nofun, nofun⟩

/-- As long as no user key is validated after an accepted one, `onAuthorized` is
executed once at most and for a key the plugin accepts, and no thread is started
over another. The next step keeps this exactly if it does not validate a key
again. -/
theorem onAuthorized_once (config : Config Plugin) (s : State Plugin)
    (h : (connection config).ReachableWith
      (fun s label => label.SetsUserOnlyWhenTrue ∧ ¬ Revalidates config s label) s) :
    AuthorizedOnce config s ∧
      ∀ label, (connection config).enabled s label = true → label.SetsUserOnlyWhenTrue →
        (AuthorizedOnce config ((connection config).next s label) ↔
          ¬ Revalidates config s label) := by
  have hauthorization : Authorization config s :=
    h.invariant (Authorization config) .start
      (fun _ _ hinv henabled hok => hinv.next henabled hok.1 hok.2)
  refine ⟨hauthorization.once, fun label henabled hplugin => ⟨?_, ?_⟩⟩
  · exact fun honce hagain => hagain.not_authorizedOnce honce
  · exact fun hagain => (hauthorization.next henabled hplugin hagain).once

private theorem openConfig_checked : GlobalConfig.Checked [] [] :=
  ⟨by decide, by simp, by simp, by simp⟩

private def openConfig : Config Unit where
  toGlobalConfig := .ofChecked [] [] false openConfig_checked
  authenticationOmit := false
  authenticationPlugin := true
  serviceServer := []
  serviceClient := []
  actionServer := []
  actionClient := []
  codecs := literalCodecs

private def allSpawned : Spawned := ⟨true, true, true⟩

/-- An AUTHENTICATION message with the key "k". -/
private def keyFrame : Bytes := (VectorMessage.forOpCodeAuthentication [107]).combinedVector

private def accepted : KeyCheck := ⟨true, some [117], none⟩

/-- A key that is accepted twice deletes a thread that has not been joined. -/
theorem onAuthorized_twice :
    ¬ ∀ (config : Config Unit) (s : State Unit),
      (connection config).ReachableWith (fun _ label => label.SetsUserOnlyWhenTrue) s →
        AuthorizedOnce config s := by
  intro hall
  have hrun : ∃ s : State Unit, (connection openConfig).ReachableWith
      (fun _ label => label.SetsUserOnlyWhenTrue) s ∧
      s.terminated = some .unjoinedThread :=
    Machine.ReachableWith.exists_replay (fun _ _ h => h)
      (fun s : State Unit => s.terminated = some .unjoinedThread) .start
      [.connect allSpawned, .receive keyFrame accepted allSpawned,
        .receive keyFrame accepted allSpawned] (by decide)
  obtain ⟨s, hreachable, hterminated⟩ := hrun
  exact (hall openConfig s hreachable).threads hterminated

/-- A connection that was authorized by a key. -/
theorem onAuthorized_once_accepted :
    ∃ s : State Unit, s.authorizations = [.userKey [107] true] ∧
      AuthorizedOnce openConfig s ∧
      ∀ label, (connection openConfig).enabled s label = true → label.SetsUserOnlyWhenTrue →
        (AuthorizedOnce openConfig ((connection openConfig).next s label) ↔
          ¬ Revalidates openConfig s label) := by
  have hrun : ∃ s : State Unit, (connection openConfig).ReachableWith
      (fun s label => label.SetsUserOnlyWhenTrue ∧ ¬ Revalidates openConfig s label) s ∧
      s.authorizations = [.userKey [107] true] :=
    Machine.ReachableWith.exists_replay (fun _ _ h => h)
      (fun s : State Unit => s.authorizations = [.userKey [107] true]) .start
      [.connect allSpawned, .receive keyFrame accepted allSpawned] (by decide)
  obtain ⟨s, hreachable, hlog⟩ := hrun
  exact ⟨s, hlog, onAuthorized_once openConfig s hreachable⟩

end ServerConnection

end Ros2Connect
