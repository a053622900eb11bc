import VoxType.Daemon.Phase

/-!
# Insertion leases

An armed target is a lease on a place in the desktop: it must be committed to
or cancelled before its session is over.
-/

namespace VoxType

set_option autoImplicit false

/-- The target has been passed to `commit` or to `cancel`. -/
def DaemonEffect.Releases (arm : InsertionArm) : DaemonEffect → Prop
  | .leaseCancelled released => released = arm
  | .committed _ _ released _ _ => released = arm
  | _ => False

/-- The target was armed for the session and has not been released since. -/
def Unreleased (trace : List DaemonEffect) (s : SessionId) (arm : InsertionArm) : Prop :=
  ∃ pre post, trace = pre ++ .armed s arm :: post ∧ ∀ effect ∈ post, ¬ effect.Releases arm

/-- An effect that is neither an armed target nor a capture that could not be stopped. -/
def DaemonEffect.Plain : DaemonEffect → Prop
  | .armed _ _ => False
  | .captureStopped (.error _) => False
  | _ => True

theorem unreleased_append {first second : List DaemonEffect} {s : SessionId} {arm : InsertionArm} :
    Unreleased (first ++ second) s arm ↔
      (Unreleased first s arm ∧ ∀ effect ∈ second, ¬ effect.Releases arm) ∨
        Unreleased second s arm := by
  constructor
  · rintro ⟨pre, post, hTrace, hPost⟩
    rcases List.append_eq_append_iff.mp hTrace with ⟨middle, hPre, hSecond⟩ | ⟨middle, hFirst, hRest⟩
    · exact .inr ⟨middle, post, hSecond, hPost⟩
    · rcases List.cons_eq_append_iff.mp hRest with ⟨rfl, hSecond⟩ | ⟨post', rfl, rfl⟩
      · exact .inr ⟨[], post, hSecond, hPost⟩
      · refine .inl ⟨⟨pre, post', hFirst, ?_⟩, ?_⟩
        · exact fun effect hMem => hPost effect (List.mem_append_left _ hMem)
        · exact fun effect hMem => hPost effect (List.mem_append_right _ hMem)
  · rintro (⟨⟨pre, post, rfl, hPost⟩, hSecond⟩ | ⟨pre, post, rfl, hPost⟩)
    · refine ⟨pre, post ++ second, by simp, ?_⟩
      intro effect hMem
      rcases List.mem_append.mp hMem with hMem | hMem
      · exact hPost effect hMem
      · exact hSecond effect hMem
    · exact ⟨first ++ pre, post, by simp, hPost⟩

theorem plain_released {trace : List DaemonEffect} (hPlain : ∀ effect ∈ trace, effect.Plain)
    (s : SessionId) (arm : InsertionArm) : ¬ Unreleased trace s arm := by
  rintro ⟨pre, post, rfl, _⟩
  exact hPlain (.armed s arm) (List.mem_append_right _ List.mem_cons_self)

theorem plain_cons {effect : DaemonEffect} {trace : List DaemonEffect} (hHead : effect.Plain)
    (hTail : ∀ effect ∈ trace, effect.Plain) : ∀ other ∈ effect :: trace, other.Plain :=
  List.forall_mem_cons.mpr ⟨hHead, hTail⟩

theorem plain_append {left right : List DaemonEffect} (hLeft : ∀ effect ∈ left, effect.Plain)
    (hRight : ∀ effect ∈ right, effect.Plain) : ∀ effect ∈ left ++ right, effect.Plain := by
  intro effect hMem
  rcases List.mem_append.mp hMem with hMem | hMem
  · exact hLeft effect hMem
  · exact hRight effect hMem

namespace VoxTypeDaemon

theorem lease_plain (d : VoxTypeDaemon) : ∀ effect ∈ d.lease, effect.Plain := by
  intro effect hMem
  obtain ⟨arm, _, rfl⟩ := List.mem_map.mp hMem
  trivial

theorem removal_plain (d : VoxTypeDaemon) (path : String) :
    ∀ effect ∈ d.removal path, effect.Plain := by
  intro effect hMem
  rw [removal] at hMem
  split at hMem
  · cases hMem
  · cases List.mem_singleton.mp hMem
    trivial

theorem lease_releases {d : VoxTypeDaemon} {arm : InsertionArm} (hArm : d.armedInsertion = some arm) :
    DaemonEffect.leaseCancelled arm ∈ d.lease := by
  rw [lease, hArm]
  exact List.mem_singleton_self _

end VoxTypeDaemon

/-- What one step does to the lease of the daemon. -/
inductive LeaseStep (d : VoxTypeDaemon) (trace : List DaemonEffect) (d' : VoxTypeDaemon) : Prop
  | kept (hPlain : ∀ effect ∈ trace, effect.Plain) (hActive : d'.state.isActive = d.state.isActive)
    (hSession : d.state.isActive = true → d'.state.session = d.state.session)
    (hArm : d'.armedInsertion = d.armedInsertion) (hProfile : d'.activeProfile = d.activeProfile)
  | released (hPlain : ∀ effect ∈ trace, effect.Plain)
    (hLease : ∀ arm, d.armedInsertion = some arm → ∃ effect ∈ trace, effect.Releases arm)
    (hOver : d'.state.isActive = false)
    (hCleared : d'.armedInsertion = none ∧ d'.activeProfile = none)
  | refused (hInactive : d.state.isActive = false) (hOver : d'.state.isActive = false)
    (hNone : ∀ s arm, ¬ Unreleased trace s arm)
    (hStopped : ∀ error, .captureStopped (.error error) ∉ trace)
    (hArm : d'.armedInsertion = none ∨ d'.armedInsertion = d.armedInsertion)
    (hProfile : d'.activeProfile = d.activeProfile)
  | armed (hInactive : d.state.isActive = false) {session : SessionId} {arm : InsertionArm}
    (hActive : d'.state.session = some session ∧ d'.state.isActive = true)
    (hOne : ∀ s other, Unreleased trace s other → s = session ∧ other = arm)
    (hStopped : ∀ error, .captureStopped (.error error) ∉ trace)
    (hArm : d'.armedInsertion = some arm)
  | leaked (hActive : d.state.isActive = true) (hOver : d'.state.isActive = false)
    (hArm : d'.armedInsertion = d.armedInsertion)
    (hStopped : ∃ error, .captureStopped (.error error) ∈ trace)

namespace LeaseStep

theorem same {d d' : VoxTypeDaemon} (hSame : d.SameWork d') {trace : List DaemonEffect}
    (hPlain : ∀ effect ∈ trace, effect.Plain) : LeaseStep d trace d' :=
  .kept hPlain (congrArg SessionState.isActive hSame.state)
    (fun _ => congrArg SessionState.session hSame.state) hSame.armedInsertion hSame.activeProfile

theorem unreleased_one {s session : SessionId} {arm other : InsertionArm}
    {pre post : List DaemonEffect} (hPre : ∀ effect ∈ pre, effect.Plain)
    (hPost : ∀ effect ∈ post, effect.Plain)
    (h : Unreleased (pre ++ .armed session arm :: post) s other) :
    s = session ∧ other = arm ∧ ∀ effect ∈ post, ¬ effect.Releases arm := by
  rcases unreleased_append.mp h with ⟨h, _⟩ | ⟨pre', post', hSplit, hNot⟩
  · exact absurd h (plain_released hPre s other)
  · rcases pre' with _ | ⟨first, pre'⟩
    · obtain ⟨hHead, rfl⟩ := List.cons.inj hSplit
      cases hHead
      exact ⟨rfl, rfl, hNot⟩
    · obtain ⟨_, rfl⟩ := List.cons.inj hSplit
      exact absurd (hPost (.armed s other) (List.mem_append_right _ List.mem_cons_self)) id

end LeaseStep

namespace Daemon

variable {env : Environment} {d : VoxTypeDaemon}

theorem StartOutcome.lease {profile : String} {o : DaemonOutcome String}
    (h : StartOutcome env d profile o) (hFree : Unobstructed o.trace) :
    LeaseStep d o.trace o.state := by
  have plain : ∀ c answer, ∀ effect ∈ [DaemonEffect.command c answer], effect.Plain := by
    simp [DaemonEffect.Plain]
  cases h with
  | refused => exact .same (.refl d) (by simp)
  | rejected => exact .same (.refl d) (plain _ _)
  | @begun profileName _ hRoom hInactive _ hSession =>
    obtain ⟨hState, _⟩ := started_facts d hRoom hInactive
    have hCurrent := congrArg SessionState.session hState
    cases hSession with
    | armFailed hRoom' error =>
      refine .refused hInactive ?_ (plain_released (by simp [DaemonEffect.Plain])) (by simp)
        (.inr rfl) rfl
      rw [Effects.Outcome.after, state_fail hRoom' error hCurrent]
      rfl
    | captureFailed hRoom' arm error =>
      have hRoom'' : ((d.applied (.start ⟨.toggle, some profileName⟩)).withArm none).Room := hRoom'
      refine .refused hInactive ?_ ?_ (by simp) (.inl rfl) rfl
      · change (VoxTypeDaemon.state (VoxTypeDaemon.applied _ _)).isActive = false
        rw [state_fail hRoom'' error hCurrent]
        rfl
      · intro s other hOpen
        obtain ⟨_, _, hNot⟩ :=
          LeaseStep.unreleased_one (plain _ _) (by simp [DaemonEffect.Plain]) hOpen
        exact hNot (.leaseCancelled arm) List.mem_cons_self rfl
    | listening hRoom' arm recording =>
      have hListening := VoxTypeDaemon.state_applied
        (d := ((d.applied _).withArm (some arm)).capturing recording profileName env.now) hRoom'
        (.captureReady hState)
      refine .armed hInactive
        ⟨(congrArg SessionState.session hListening).trans rfl,
          (congrArg SessionState.isActive hListening).trans rfl⟩ ?_ (by simp) rfl
      intro s other hOpen
      obtain ⟨hSession, hOther, _⟩ := LeaseStep.unreleased_one (plain _ _) (plain _ _) hOpen
      exact ⟨hSession, hOther⟩
    | full _ _ _ _ hTrace =>
      obtain ⟨effect, hMem, hFull⟩ := hTrace
      exact absurd hFull (hFree effect (List.mem_append_right _ hMem))

theorem settledTrace_plain (d : VoxTypeDaemon) (path : String) :
    ∀ effect ∈ settledTrace d path, effect.Plain := by
  rw [settledTrace]
  split
  · exact d.removal_plain path
  · simp

theorem settled_cleared {d : VoxTypeDaemon} (hJob : d.recognitionJob = none) :
    (settled d).armedInsertion = none ∧ (settled d).activeProfile = none := by
  rw [settled, hJob]
  exact ⟨rfl, rfl⟩

theorem StopOutcome.lease {requested : String} {o : DaemonOutcome String} (hPhase : Phase d)
    (h : StopOutcome env d requested o) (hFree : Unobstructed o.trace) : LeaseStep d o.trace o.state := by
  have hTelemetry := VoxTypeDaemon.sameWork_telemetry env d
  cases h with
  | refused => exact .same (.refl d) (by simp)
  | rejected => exact .same hTelemetry (by simp [DaemonEffect.Plain])
  | missing _ hState hRecording =>
    have hSome := (hPhase.at_listening hState).1
    rw [hRecording] at hSome
    cases hSome
  | @stopFailed session mode recording error hRoom hState hRecording hStop =>
    obtain ⟨hFinal, _, _, _, _, hArm, _⟩ := stopping_facts env d hRoom hState
    have hRoom' := hFree.room (d := stopping env d session) (c := .fail session error) (by simp)
    refine .leaked (by rw [hState]; rfl) ?_ hArm ⟨error, by simp⟩
    rw [state_fail hRoom' _ (by rw [hFinal]; rfl)]
    rfl
  | @processed session mode recording audio hRoom hState hRecording hStop o hProcess =>
    obtain ⟨hFinal, _, _, _, hJob, hArm, hProfile⟩ := stopping_facts env d hRoom hState
    have hIdle := hJob.trans (hPhase.at_listening hState).2
    have hStopped : ∀ effect ∈ [DaemonEffect.command (.stop session) (.ok (.stopCapture session)),
        .captureStopped (.ok audio)], effect.Plain := by simp [DaemonEffect.Plain]
    have hLease : ∀ {trace : List DaemonEffect},
        (∀ effect ∈ (stopping env d session).lease, effect ∈ trace) →
        ∀ arm, d.armedInsertion = some arm → ∃ effect ∈ trace, effect.Releases arm := by
      intro trace hSub arm hSome
      exact ⟨_, hSub _ (VoxTypeDaemon.lease_releases (hArm.trans hSome)), rfl⟩
    cases hProcess with
    | silent hRoom' =>
      refine .released ?_ (hLease ?_) ?_ (settled_cleared hIdle)
      · exact plain_append hStopped (plain_append (plain_append (VoxTypeDaemon.lease_plain _)
          (by simp [DaemonEffect.Plain])) (settledTrace_plain _ _))
      · exact fun effect hMem => List.mem_append_right _ (List.mem_append_left _
          (List.mem_append_left _ hMem))
      · change (settled _).state.isActive = false
        rw [VoxTypeDaemon.state, (settled_fields _).1]
        change (VoxTypeDaemon.state _).isActive = false
        rw [VoxTypeDaemon.state_applied hRoom' (.noSpeech hFinal)]
        rfl
    | failed hRoom' _ _ cause =>
      refine .released ?_ (hLease ?_) ?_ (settled_cleared hIdle)
      · exact plain_append hStopped (plain_append (plain_append (by simp [DaemonEffect.Plain])
          (VoxTypeDaemon.lease_plain _)) (settledTrace_plain _ _))
      · exact fun effect hMem => List.mem_append_right _ (List.mem_append_left _
          (List.mem_append_right _ hMem))
      · change (settled _).state.isActive = false
        rw [VoxTypeDaemon.state, (settled_fields _).1]
        change (VoxTypeDaemon.state _).isActive = false
        rw [state_fail hRoom' cause (by rw [hFinal]; rfl)]
        rfl
    | full _ _ _ hTrace =>
      obtain ⟨effect, hMem, hFull⟩ := hTrace
      exact absurd hFull (hFree effect (List.mem_append_right _ hMem))
    | @started _ _ work job _ hNext =>
      have hNow : ((stopping env d session).withJob (some job)).state = .finalizing session :=
        hFinal
      refine .kept (plain_append hStopped (by simp [DaemonEffect.Plain])) ?_ ?_ hArm hProfile
      · exact (congrArg SessionState.isActive hNow).trans (by rw [hState]; rfl)
      · exact fun _ => (congrArg SessionState.session hNow).trans (by rw [hState]; rfl)

theorem CancelOutcome.lease {o : DaemonOutcome Unit} (h : CancelOutcome d o) :
    LeaseStep d o.trace o.state := by
  cases h with
  | refused => exact .same (.refl d) (by simp)
  | rejected => exact .same (.refl d) (by simp [DaemonEffect.Plain])
  | cancelled hRoom hSession =>
    refine .released ?_ ?_ ?_ ⟨rfl, rfl⟩
    · refine plain_cons trivial
        (plain_append (plain_append ?_ ?_) d.lease_plain)
      · rw [VoxTypeDaemon.captureEffects]
        cases d.recording <;> simp [DaemonEffect.Plain]
      · rw [VoxTypeDaemon.jobEffects]
        cases d.recognitionJob <;> simp [DaemonEffect.Plain]
    · intro arm hArm
      exact ⟨_, List.mem_cons_of_mem _ (List.mem_append_right _
        (VoxTypeDaemon.lease_releases hArm)), rfl⟩
    · change (VoxTypeDaemon.state (d.applied _)).isActive = false
      rw [VoxTypeDaemon.state_applied hRoom (.cancel hSession)]
      rfl

theorem ResetOutcome.lease {o : DaemonOutcome Unit} (h : ResetOutcome d o) :
    LeaseStep d o.trace o.state := by
  cases h with
  | rejected => exact .same (.refl d) (by simp [DaemonEffect.Plain])
  | wasReset hRoom hInactive =>
    have hIdle := VoxTypeDaemon.state_applied hRoom (.reset hInactive)
    refine .kept (by simp [DaemonEffect.Plain]) ?_ ?_ rfl rfl
    · exact (congrArg SessionState.isActive hIdle).trans hInactive.symm
    · intro hActive
      rw [hInactive] at hActive
      cases hActive

/-- A delivered outcome releases the target, by committing to it or by cancelling it. -/
theorem DeliverOutcome.lease {job : RecognitionJob} {outcome : Except VoxError RecognitionSuccess}
    {o : DaemonOutcome String} (h : DeliverOutcome env d job outcome o)
    (hFree : Unobstructed o.trace) :
    (∀ effect ∈ o.trace, effect.Plain) ∧ ∀ arm, d.armedInsertion = some arm →
      ∃ effect ∈ o.trace ++ releaseOnError o, effect.Releases arm := by
  have insertion : ∀ {d' : VoxTypeDaemon} {session : SessionId} {text : String}
      {effects : List DaemonEffect} {answer : Except VoxError InsertionOutcome},
      Insertion env d' session text effects answer → ∀ effect ∈ effects, effect.Plain := by
    intro d' session text effects answer hInsertion
    cases hInsertion <;> simp [DaemonEffect.Plain]
  have cancelled : ∀ {error : FdoError} {d' : VoxTypeDaemon} {trace : List DaemonEffect},
      d'.armedInsertion = d.armedInsertion → ∀ arm, d.armedInsertion = some arm →
      ∃ effect ∈ trace ++ releaseOnError ⟨.error error, d', trace⟩, effect.Releases arm := by
    intro error d' trace hSame arm hArm
    exact ⟨_, List.mem_append_right _ (VoxTypeDaemon.lease_releases (hSame.trans hArm)), rfl⟩
  cases h with
  | failed | blank => exact ⟨by simp [DaemonEffect.Plain], cancelled rfl⟩
  | notInserted _ _ _ hInsertion =>
    exact ⟨plain_cons trivial (plain_append
      (insertion hInsertion) (by simp [DaemonEffect.Plain])), cancelled rfl⟩
  | inserted _ _ _ hInsertion =>
    refine ⟨plain_cons trivial (plain_append
      (insertion hInsertion) (by simp [DaemonEffect.Plain])), ?_⟩
    intro arm hArm
    generalize hAnswer : (Except.ok _ : Except VoxError InsertionOutcome) = answer at hInsertion
    cases hInsertion with
    | notArmed => cases hAnswer
    | committed hArmed =>
      have hSame := hArmed.symm.trans hArm
      cases hSame
      exact ⟨_, List.mem_append_left _ (List.mem_cons_of_mem _ List.mem_cons_self), rfl⟩
  | cut =>
    exact absurd (show DaemonEffect.Backpressured (.command _ (.error backpressureError)) from rfl)
      (hFree _ (List.mem_cons_of_mem _ (List.mem_append_right _ (List.mem_singleton_self _))))
  | full =>
    exact absurd (show DaemonEffect.Backpressured (.command _ (.error backpressureError)) from rfl)
      (hFree _ (List.mem_singleton_self _))

theorem PollOutcome.lease {o : DaemonOutcome Bool} (hPhase : Phase d) (h : PollOutcome env d o)
    (hText : ∀ job received success, d.recognitionJob = some job → Receives env job received →
      received.outcome = .ok success → RustText.isBlank success.transcript.text = false)
    (hFree : Unobstructed o.trace) : LeaseStep d o.trace o.state := by
  cases h with
  | idle => exact .same (.refl d) (by simp)
  | stale hJob hState => exact absurd (hPhase.at_finalizing hJob).1 hState
  | @delivered job received hJob hReceives hState o hDeliver =>
    have hNow := (receiving_lifecycle env d job received).1.trans hState
    have hFree' := hFree.append.1.append.1
    obtain ⟨hOver, _⟩ := hDeliver.over hNow
      (fun success => hText job received success hJob hReceives) hFree'
    obtain ⟨hPlain, hLease⟩ := hDeliver.lease hFree'
    refine .released (plain_append (plain_append hPlain ?_) (VoxTypeDaemon.removal_plain _ _)) ?_
      hOver ⟨rfl, rfl⟩
    · rw [releaseOnError]
      cases o.result with
      | error => exact VoxTypeDaemon.lease_plain _
      | ok => simp
    · intro arm hArm
      obtain ⟨effect, hMem, hReleases⟩ := hLease arm hArm
      exact ⟨effect, List.mem_append_left _ hMem, hReleases⟩

end Daemon

theorem StepOutcome.lease {log : List SystemEntry} {self : System} {i : SystemInput}
    {d' : VoxTypeDaemon} {trace : List DaemonEffect} (h : StepOutcome self i d' trace)
    (hPhase : Phase self.daemon) (hWorkers : WorkerHistory log self) (hQuit : i ≠ .quit)
    (hFree : Unobstructed trace) : LeaseStep self.daemon trace d' := by
  cases h with
  | kept hSame hTrace =>
    refine .same hSame ?_
    intro effect hMem
    obtain ⟨events, rfl⟩ := hTrace effect hMem
    trivial
  | started hStart => exact hStart.lease hFree
  | stopped hStop => exact hStop.lease hPhase hFree
  | cancelled hCancel => exact hCancel.lease
  | wasReset hReset => exact hReset.lease
  | polled hPoll =>
    exact hPoll.lease hPhase (fun job received success => hWorkers.received_nonblank) hFree
  | quitted => exact absurd rfl hQuit

/-- The invariant: an unreleased target is the armed one, and its session is still active. -/
structure Leased (trace : List DaemonEffect) (d : VoxTypeDaemon) : Prop where
  held : ∀ s arm, Unreleased trace s arm →
    d.armedInsertion = some arm ∧ d.state.session = some s ∧ d.state.isActive = true
  cleared : d.state.isActive = false → d.armedInsertion = none ∧ d.activeProfile = none
  armed : d.state.isActive = true → d.armedInsertion.isSome = true

theorem Leased.step {earlier trace : List DaemonEffect} {d d' : VoxTypeDaemon}
    (h : Leased earlier d) (hStep : LeaseStep d trace d')
    (hStopped : ∀ error, .captureStopped (.error error) ∉ trace) :
    Leased (earlier ++ trace) d' := by
  cases hStep with
  | kept hPlain hActive hSession hArm hProfile =>
    constructor
    case held =>
      intro s arm hOpen
      rcases unreleased_append.mp hOpen with ⟨hOpen, _⟩ | hOpen
      · obtain ⟨hHeld, hCurrent, hNow⟩ := h.held s arm hOpen
        exact ⟨hArm.trans hHeld, (hSession hNow).trans hCurrent, hActive.trans hNow⟩
      · exact absurd hOpen (plain_released hPlain s arm)
    case cleared =>
      rw [hArm, hProfile, hActive]
      exact h.cleared
    case armed =>
      rw [hArm, hActive]
      exact h.armed
  | released hPlain hLease hOver hCleared =>
    constructor
    case held =>
      intro s arm hOpen
      rcases unreleased_append.mp hOpen with ⟨hOpen, hNot⟩ | hOpen
      · obtain ⟨effect, hMem, hReleases⟩ := hLease arm (h.held s arm hOpen).1
        exact absurd hReleases (hNot effect hMem)
      · exact absurd hOpen (plain_released hPlain s arm)
    case cleared => exact fun _ => hCleared
    case armed =>
      rw [hOver]
      exact nofun
  | refused hInactive hOver hNone _ hArm hProfile =>
    obtain ⟨hNoArm, hNoProfile⟩ := h.cleared hInactive
    constructor
    case held =>
      intro s arm hOpen
      rcases unreleased_append.mp hOpen with ⟨hOpen, _⟩ | hOpen
      · have hNow := (h.held s arm hOpen).2.2
        rw [hInactive] at hNow
        cases hNow
      · exact absurd hOpen (hNone s arm)
    case cleared =>
      intro _
      exact ⟨hArm.elim id fun hSame => hSame.trans hNoArm, hProfile.trans hNoProfile⟩
    case armed =>
      rw [hOver]
      exact nofun
  | armed hInactive hActive hOne _ hArm =>
    constructor
    case held =>
      intro s arm hOpen
      rcases unreleased_append.mp hOpen with ⟨hOpen, _⟩ | hOpen
      · have hNow := (h.held s arm hOpen).2.2
        rw [hInactive] at hNow
        cases hNow
      · obtain ⟨rfl, rfl⟩ := hOne s arm hOpen
        exact ⟨hArm, hActive⟩
    case cleared =>
      rw [hActive.2]
      exact nofun
    case armed =>
      rw [hArm]
      exact fun _ => rfl
  | leaked _ _ _ hLeak =>
    obtain ⟨error, hMem⟩ := hLeak
    exact absurd hMem (hStopped error)

/-- What is asked of the leases of a daemon in each of its states. -/
structure LeaseDiscipline (trace : List DaemonEffect) (d : VoxTypeDaemon) : Prop where
  released : ∀ s arm, Unreleased trace s arm → d.state.session = some s ∧ d.state.isActive = true
  cleared : d.state.isActive = false → d.armedInsertion = none ∧ d.activeProfile = none

theorem Leased.discipline {trace : List DaemonEffect} {d : VoxTypeDaemon} (h : Leased trace d) :
    LeaseDiscipline trace d := ⟨fun s arm hOpen => (h.held s arm hOpen).2, h.cleared⟩

theorem Leased.leaked {earlier trace : List DaemonEffect} {d d' : VoxTypeDaemon}
    (h : Leased earlier d) (hStep : LeaseStep d trace d') {error : VoxError}
    (hStopped : .captureStopped (.error error) ∈ trace) :
    d'.state.isActive = false ∧ d'.armedInsertion.isSome = true := by
  cases hStep with
  | kept hPlain | released hPlain => exact absurd (hPlain _ hStopped) id
  | refused _ _ _ hNone | armed _ _ _ hNone => exact absurd hStopped (hNone error)
  | leaked hActive hOver hArm =>
    rw [hArm]
    exact ⟨hOver, h.armed hActive⟩

section Runs

variable (config : Config) (registry : ProviderRegistry) (wake : WakeHandle)

theorem leased_run {inputs : List SystemInput} (hQuit : ∀ i ∈ inputs, i ≠ .quit)
    (hFree : Unobstructed (effects ((systemMachine config registry wake).log inputs)))
    (hStopped : ∀ error, .captureStopped (.error error) ∉
      effects ((systemMachine config registry wake).log inputs)) :
    Leased (effects ((systemMachine config registry wake).log inputs))
      ((systemMachine config registry wake).state inputs).daemon := by
  induction inputs using List.reverseRecOn with
  | nil =>
    refine ⟨?_, fun _ => ⟨rfl, rfl⟩, nofun⟩
    rintro s arm ⟨pre, post, hTrace, _⟩
    exact absurd hTrace.symm (by simp [effects])
  | append_singleton inputs i ih =>
    rw [Transition.Machine.log_snoc, effects_snoc] at hFree hStopped ⊢
    rw [Transition.Machine.state_snoc]
    have hQuit' : ∀ j ∈ inputs, j ≠ .quit := fun j hMem => hQuit j (List.mem_append_left _ hMem)
    refine (ih hQuit' hFree.append.1 ?_).step ((System.step_outcome _ i).lease
      (phase_run config registry wake hQuit' hFree.append.1)
      (worker_history config registry wake inputs)
      (hQuit i (List.mem_append_right _ (List.mem_singleton_self _))) hFree.append.2) ?_
    · exact fun error hMem => hStopped error (List.mem_append_left _ hMem)
    · exact fun error hMem => hStopped error (List.mem_append_right _ hMem)

/-- The leases of a run are kept in order exactly when every capture that is stopped is stopped
without an error. -/
theorem lease_discipline_iff (inputs : List SystemInput) (hQuit : ∀ i ∈ inputs, i ≠ .quit)
    (hFree : ∀ effect ∈ effects ((systemMachine config registry wake).log inputs),
      ¬ effect.Backpressured) :
    (∀ before after, inputs = before ++ after →
      LeaseDiscipline (effects ((systemMachine config registry wake).log before))
        ((systemMachine config registry wake).state before).daemon) ↔
      ∀ error, .captureStopped (.error error) ∉
        effects ((systemMachine config registry wake).log inputs) := by
  constructor
  · intro hDiscipline
    induction inputs using List.reverseRecOn with
    | nil => simp [effects]
    | append_singleton inputs i ih =>
      have hFree' : Unobstructed _ := hFree
      rw [Transition.Machine.log_snoc, effects_snoc] at hFree' ⊢
      have hQuit' : ∀ j ∈ inputs, j ≠ .quit :=
        fun j hMem => hQuit j (List.mem_append_left _ hMem)
      have hEarlier := ih hQuit' hFree'.append.1 fun before after hInputs =>
        hDiscipline before (after ++ [i]) (by rw [hInputs, List.append_assoc])
      intro error hMem
      rcases List.mem_append.mp hMem with hMem | hMem
      · exact hEarlier error hMem
      · have hLeased := leased_run config registry wake hQuit' hFree'.append.1 hEarlier
        obtain ⟨hOver, hArmed⟩ := hLeased.leaked ((System.step_outcome _ i).lease
          (phase_run config registry wake hQuit' hFree'.append.1)
          (worker_history config registry wake inputs)
          (hQuit i (List.mem_append_right _ (List.mem_singleton_self _))) hFree'.append.2) hMem
        have hCleared := (hDiscipline (inputs ++ [i]) [] (List.append_nil _).symm).cleared
        rw [Transition.Machine.state_snoc] at hCleared
        have hNone := (hCleared hOver).1
        change ((((systemMachine config registry wake).state inputs).step i).2.daemon).armedInsertion =
          none at hNone
        rw [hNone] at hArmed
        cases hArmed
  · intro hStopped before after hInputs
    subst hInputs
    rw [Transition.Machine.log_append, effects_append] at hFree hStopped
    exact (leased_run config registry wake (fun i hMem => hQuit i (List.mem_append_left _ hMem))
      (Unobstructed.append hFree).1 fun error hMem =>
        hStopped error (List.mem_append_left _ hMem)).discipline

end Runs

/-- The capture starts, and its backend fails when it is stopped. -/
def unstoppableCapture : List SystemInput :=
  [.start workingBoundary "", .stop { workingBoundary with
    stopCapture := fun _ => .error (VoxError.new .internal "capture.stop" "pw-record failed") } ""]

theorem lease_leaked_unstoppableCapture :
    (∀ i ∈ unstoppableCapture, i ≠ .quit) ∧
      (∀ effect ∈ effects ((systemMachine dictationConfig ⟨[cloud]⟩ .disabled).log
        unstoppableCapture), ¬ effect.Backpressured) ∧
      ¬ LeaseDiscipline (effects ((systemMachine dictationConfig ⟨[cloud]⟩ .disabled).log
          unstoppableCapture))
        ((systemMachine dictationConfig ⟨[cloud]⟩ .disabled).state unstoppableCapture).daemon := by
  refine ⟨by simp [unstoppableCapture], by decide, ?_⟩
  intro hDiscipline
  have hOver : ((systemMachine dictationConfig ⟨[cloud]⟩ .disabled).state
      unstoppableCapture).daemon.state.isActive = false := by decide
  have hArmed : ((systemMachine dictationConfig ⟨[cloud]⟩ .disabled).state
      unstoppableCapture).daemon.armedInsertion ≠ none := by decide
  exact hArmed (hDiscipline.cleared hOver).1

theorem lease_discipline_dictation :
    (∀ before after, dictation = before ++ after →
      LeaseDiscipline (effects ((systemMachine dictationConfig ⟨[cloud]⟩ .disabled).log before))
        ((systemMachine dictationConfig ⟨[cloud]⟩ .disabled).state before).daemon) ↔
      ∀ error, .captureStopped (.error error) ∉
        effects ((systemMachine dictationConfig ⟨[cloud]⟩ .disabled).log dictation) :=
  lease_discipline_iff dictationConfig ⟨[cloud]⟩ .disabled dictation (by simp [dictation])
    (by decide)

end VoxType
