import ServiceBeacon.Fixture.Run
import ServiceBeacon.Proofs.History

namespace ServiceBeacon
namespace Fixture

open History (Lacks Silent Uneventful)

/-!
# The course of a run

A run is a straight line with exits, and which exit it takes depends on what
went wrong before it and on when a shutdown was requested.  `Course` lists all
exits with what leads to them and everything that happens on the way, so that
later proofs need not look into a run.  The latch does not occur in it: it has
one handle, which lives as long as the run, so it says just whether a shutdown
was requested in one of the phases that are over.
-/

variable {config : Config} {circumstances : Circumstances}

/-! ## Outcomes -/

namespace Outcome

@[simp] theorem behind_ending (outcome : Outcome) (before : History) :
    (outcome.behind before).ending = outcome.ending := rfl

@[simp] theorem behind_history (outcome : Outcome) (before : History) :
    (outcome.behind before).history = before ++ outcome.history := rfl

@[simp] theorem behind_behind (outcome : Outcome) (near far : History) :
    (outcome.behind near).behind far = outcome.behind (far ++ near) := by
  simp only [behind, List.append_assoc]

@[simp] theorem followedBy_ending (outcome : Outcome) (after : History) :
    (outcome.followedBy after).ending = outcome.ending := by
  unfold followedBy
  split <;> rfl

theorem followedBy_history {outcome : Outcome} (complete : outcome.ending ≠ .unfinished)
    (after : History) : (outcome.followedBy after).history = outcome.history ++ after := by
  unfold followedBy
  rw [if_neg complete]

/-- What happens before an outcome and what happens after it do not get in each other's way. -/
theorem followedBy_behind (outcome : Outcome) (before after : History) :
    (outcome.followedBy after).behind before = (outcome.behind before).followedBy after := by
  unfold followedBy
  rw [behind_ending]
  split
  · rfl
  · simp only [behind, List.append_assoc]

end Outcome

/-! ## The latch -/

theorem passPhase_eq (phase : Phase) (requested : Bool) (signals : List Bool) :
    passPhase circumstances phase ⟨requested, [true], signals⟩ =
      ⟨requested || circumstances.requested phase, [true], signals⟩ := by
  unfold passPhase
  cases circumstances.requested phase with
  | true => rw [Bool.or_true]; rfl
  | false => rw [Bool.or_false]; rfl

theorem isReady_startupSignal (requested : Bool) :
    (Shutdown.mk requested [true] [true]).isReady startupSignal = requested := by
  cases requested <;> rfl

/-- The latch of a run that has a listener: the first signal is given up, and
the second one is the server's. -/
def listeningLatch (requested : Bool) : Shutdown := ⟨requested, [true], [false, true]⟩

theorem isReady_serverSignal (requested : Bool) :
    (listeningLatch requested).isReady serverSignal = requested := by
  cases requested <;> rfl

theorem passPhase_listeningLatch (phase : Phase) (requested : Bool) :
    passPhase circumstances phase (listeningLatch requested) =
      listeningLatch (requested || circumstances.requested phase) :=
  passPhase_eq phase requested [false, true]

theorem isTriggered_handle (requested : Bool) :
    (listeningLatch requested).isTriggered handle = requested := by
  cases requested <;> rfl

/-! ## What nobody outside notices -/

theorem silent_requests (circumstances : Circumstances) (phase : Phase) :
    Silent (requests circumstances phase) := by
  unfold requests
  split
  · exact History.lacks_cons.mpr ⟨rfl, History.lacks_nil⟩
  · exact History.lacks_nil

theorem silent_persist (disk : Issuer.Disk) (bundle : Issuer.Bundle) :
    Silent (Issuer.persist disk bundle).2 := by
  unfold Issuer.persist
  split
  · exact History.silent_ofChanges _
  · split
    · exact History.silent_ofChanges _
    · refine History.lacks_append.mpr ⟨History.silent_ofChanges _, ?_⟩
      exact History.lacks_cons.mpr ⟨rfl, History.lacks_nil⟩

theorem silent_issue (config : Config) (circumstances : Circumstances) :
    Silent (issue config circumstances).2 := by
  unfold issue Issuer.issueToFiles
  split
  · exact History.silent_ofNotices _
  · exact History.lacks_append.mpr ⟨History.silent_ofNotices _, silent_persist _ _⟩

theorem silent_release (persisted : Issuer.Persisted) : Silent persisted.release :=
  History.silent_ofChanges _

theorem silent_releaseMaterial (material : Option Material) :
    Silent (releaseMaterial material) := by
  cases material with
  | none => exact History.lacks_nil
  | some material => exact silent_release material.persisted

theorem silent_loadMaterial (config : Config) (circumstances : Circumstances)
    (persisted : Issuer.Persisted) :
    Silent (loadMaterial config circumstances persisted).2 := by
  unfold loadMaterial
  dsimp only
  split
  · exact History.lacks_append.mpr ⟨History.silent_ofNotices _, silent_release persisted⟩
  · exact History.silent_ofNotices _

theorem silent_prepare (config : Config) (circumstances : Circumstances) :
    Silent (prepare config circumstances).2 := by
  unfold prepare
  split
  · have issued := silent_issue config circumstances
    split <;> rename_i issuing <;> rw [issuing] at issued
    · exact issued
    · rename_i persisted _
      have loaded := silent_loadMaterial config circumstances persisted
      split <;> rename_i loading <;> rw [loading] at loaded <;>
        exact History.lacks_append.mpr ⟨issued, loaded⟩
  · exact History.lacks_nil

/-- Nobody notices whether the preparation succeeds. -/
theorem silent_of_prepare {result : Except Failure (Option Material)} {history : History}
    (prepared : prepare config circumstances = (result, history)) :
    Silent (requests circumstances .preparing ++ history) := by
  have silent := silent_prepare config circumstances
  rw [prepared] at silent
  exact History.lacks_append.mpr ⟨silent_requests circumstances .preparing, silent⟩

theorem silent_abandon (config : Config) (circumstances : Circumstances) :
    Silent (abandon config circumstances) := by
  unfold abandon
  have issued := silent_issue config circumstances
  split <;> rename_i issuing <;> rw [issuing] at issued
  · exact issued
  · exact History.lacks_append.mpr ⟨issued, silent_release _⟩

/-! ## From the listener on -/

/-- How a listener is come by, and what happens. -/
inductive Opens : Socket → History → Prop where
  | given : Opens .given []
  | own : Opens (.own (.ok ())) [.bound]

namespace Opens

variable {socket : Socket} {opening : History}

theorem bound (opened : Opens socket opening) (cause : String) : socket ≠ .own (.error cause) := by
  rintro rfl
  cases opened

theorem uneventful (opened : Opens socket opening) : Uneventful opening := by
  cases opened with
  | given => exact History.lacks_nil
  | own => exact History.lacks_cons.mpr ⟨rfl, History.lacks_nil⟩

theorem unanswered (opened : Opens socket opening) : Lacks Happening.isAnswer opening := by
  cases opened with
  | given => exact History.lacks_nil
  | own => exact History.lacks_cons.mpr ⟨rfl, History.lacks_nil⟩

end Opens

/-- The identity that is announced for a listener at an address. -/
def announcedIdentity (config : Config) (address : SocketAddress) : Identity :=
  (Identity.ofConfig config).withPort address.port

/-- The ways in which a run goes on once it is prepared. -/
inductive Listening (config : Config) (circumstances : Circumstances) (secure : Bool) :
    Outcome → Prop where
  | unbound {cause : String} (failed : circumstances.socket = .own (.error cause)) :
      Listening config circumstances secure
        ⟨.failed (.bind config.listener.bindAddress cause), []⟩
  | unaddressed {opening : History} {cause : String}
      (opened : Opens circumstances.socket opening)
      (failed : circumstances.localAddress = .error cause) :
      Listening config circumstances secure ⟨.failed (.serve cause), opening⟩
  | stopped {opening : History} {address : SocketAddress}
      (opened : Opens circumstances.socket opening)
      (addressed : circumstances.localAddress = .ok address)
      (requested : circumstances.requested .preparing = true ∨
        circumstances.requested .binding = true) :
      Listening config circumstances secure
        ⟨.finished, opening ++ [.noticed (identityEvent (announcedIdentity config address) secure),
          .noticed lateStopEvent]⟩
  | served {opening : History} {address : SocketAddress}
      (opened : Opens circumstances.socket opening)
      (addressed : circumstances.localAddress = .ok address)
      (prepared : circumstances.requested .preparing = false)
      (bound : circumstances.requested .binding = false) :
      Listening config circumstances secure
        ((announceAndServe config circumstances (announcedIdentity config address) secure address
          (listeningLatch false)).behind
            (opening ++ [.noticed (identityEvent (announcedIdentity config address) secure)]))

/-- With a listener at hand, the run goes on in one of these ways. -/
theorem listening_serveWith (secure : Bool) {opening : History}
    (opened : Opens circumstances.socket opening) :
    Listening config circumstances secure
      ((serveWith config circumstances secure
        ⟨circumstances.requested .preparing || circumstances.requested .binding, [true],
          [false]⟩).behind opening) := by
  have subscribed : ∀ requested, (Shutdown.mk requested [true] [false]).after (.subscribe handle) =
      listeningLatch requested := fun _ => rfl
  unfold serveWith
  rw [subscribed]
  dsimp only
  cases addressed : circumstances.localAddress with
  | error cause =>
    have course := @Listening.unaddressed config circumstances secure opening cause opened addressed
    simpa only [Outcome.behind, List.append_nil] using course
  | ok address =>
    dsimp only
    rw [isTriggered_handle]
    by_cases requested :
        (circumstances.requested .preparing || circumstances.requested .binding) = true
    · rw [if_pos requested]
      exact .stopped opened addressed (Bool.or_eq_true _ _ ▸ requested)
    · have unrequested := Bool.or_eq_false_iff.mp (Bool.eq_false_iff.mpr requested)
      rw [if_neg requested, unrequested.1, unrequested.2, Outcome.behind_behind]
      exact .served opened addressed unrequested.1 unrequested.2

/-- What a prepared run does, and that it lets go of its certificate in the end. -/
theorem listening_bindAndServe (config : Config) (circumstances : Circumstances)
    (material : Option Material) :
    ∃ outcome, Listening config circumstances material.isSome outcome ∧
      bindAndServe config circumstances material
          ⟨circumstances.requested .preparing, [true], [true]⟩ =
        (outcome.behind (requests circumstances .binding)).followedBy (releaseMaterial material) := by
  have dropped : ∀ requested, (Shutdown.mk requested [true] [true]).after
      (.dropSignal startupSignal) = ⟨requested, [true], [false]⟩ := fun _ => rfl
  unfold bindAndServe
  rw [dropped, passPhase_eq]
  dsimp only
  cases socket : circumstances.socket with
  | given =>
    have opened : Opens circumstances.socket [] := socket ▸ Opens.given
    exact ⟨_, listening_serveWith material.isSome opened, rfl⟩
  | own binding =>
    cases binding with
    | error cause => exact ⟨_, .unbound socket, rfl⟩
    | ok bound =>
      have opened : Opens circumstances.socket [.bound] := socket ▸ Opens.own
      exact ⟨_, listening_serveWith material.isSome opened, rfl⟩

/-! ## The whole run -/

/-- Whether a shutdown is requested before the certificate is there; without
TLS there is nothing to wait for. -/
def StopsEarly (config : Config) (circumstances : Circumstances) : Prop :=
  circumstances.requested .starting = true ∨
    (config.tls.enabled = true ∧ circumstances.requested .preparing = true)

/-- The ways in which a run can go. -/
inductive Course (config : Config) (circumstances : Circumstances) : Outcome → Prop where
  | stoppedAtOnce (requested : circumstances.requested .starting = true) :
      Course config circumstances ⟨.finished, [.shutdownRequested, .noticed earlyStopEvent]⟩
  | stoppedPreparing (secure : config.tls.enabled = true)
      (requested : circumstances.requested .preparing = true) :
      Course config circumstances
        ⟨.finished,
          [.shutdownRequested, .noticed earlyStopEvent] ++ abandon config circumstances⟩
  | unprepared {failure : Failure} {history : History}
      (patient : ¬ StopsEarly config circumstances)
      (failed : prepare config circumstances = (.error failure, history)) :
      Course config circumstances
        ⟨.failed failure, requests circumstances .preparing ++ history⟩
  | prepared {material : Option Material} {history : History} {outcome : Outcome}
      (patient : ¬ StopsEarly config circumstances)
      (prepared : prepare config circumstances = (.ok material, history))
      (listening : Listening config circumstances material.isSome outcome) :
      Course config circumstances
        ((outcome.behind
          (requests circumstances .preparing ++ history ++ requests circumstances .binding)).followedBy
            (releaseMaterial material))

/-- Every run goes in one of these ways. -/
theorem course_run (config : Config) (circumstances : Circumstances) :
    Course config circumstances (run config circumstances) := by
  have subscribed : Shutdown.initial.after (.subscribe handle) = ⟨false, [true], [true]⟩ := rfl
  unfold run
  rw [subscribed, passPhase_eq, Bool.false_or]
  dsimp only
  rw [isReady_startupSignal]
  by_cases starting : circumstances.requested .starting = true
  · rw [if_pos starting, requests, if_pos starting]
    exact .stoppedAtOnce starting
  rw [if_neg starting, requests, if_neg starting, passPhase_eq, isReady_startupSignal,
    Bool.eq_false_iff.mpr starting, Bool.false_or]
  by_cases preparing : (config.tls.enabled && circumstances.requested .preparing) = true
  · have both := Bool.and_eq_true_iff.mp preparing
    rw [if_pos preparing, requests, if_pos both.2]
    exact .stoppedPreparing both.1 both.2
  -- Whether the preparation fails is looked at only now, so a failure does not hide a request.
  have patient : ¬ StopsEarly config circumstances := by
    rintro (requested | ⟨secure, requested⟩)
    · exact starting requested
    · exact preparing (Bool.and_eq_true_iff.mpr ⟨secure, requested⟩)
  rw [if_neg preparing, List.nil_append]
  cases prepared : prepare config circumstances with
  | mk result history =>
    cases result with
    | error failure => exact .unprepared patient prepared
    | ok material =>
      rcases listening_bindAndServe config circumstances material with
        ⟨outcome, listening, followed⟩
      dsimp only
      rw [followed, Outcome.followedBy_behind, Outcome.behind_behind]
      exact .prepared patient prepared listening

/-! ## Runs that get to their server -/

/-- Whether there is a listener, and nobody asks a prepared run to stop before it looks. -/
structure Proceeds (circumstances : Circumstances) : Prop where
  bound : ∀ cause, circumstances.socket ≠ .own (.error cause)
  addressed : ∃ address, circumstances.localAddress = .ok address
  unrequested : circumstances.requested .preparing = false ∧
    circumstances.requested .binding = false

/-- A run that is prepared and proceeds gets to its server.  What happens before
concerns neither clients nor the registry. -/
theorem Course.served_of_proceeds {outcome : Outcome}
    (course : Course config circumstances outcome)
    (patient : ¬ StopsEarly config circumstances)
    (ready : ∃ material, (prepare config circumstances).1 = .ok material)
    (proceeds : Proceeds circumstances) :
    ∃ front address material, Uneventful front ∧ Lacks Happening.isAnswer front ∧
      circumstances.localAddress = .ok address ∧
      outcome = ((announceAndServe config circumstances (announcedIdentity config address)
        material.isSome address (listeningLatch false)).behind front).followedBy
          (releaseMaterial material) := by
  rcases proceeds with ⟨bound, ⟨_, found⟩, early, late⟩
  cases course with
  | stoppedAtOnce requested => exact absurd (Or.inl requested) patient
  | stoppedPreparing secure requested => exact absurd (Or.inr ⟨secure, requested⟩) patient
  | unprepared _ failed =>
    rcases ready with ⟨material, ready⟩
    rw [failed] at ready
    cases ready
  | @prepared material history _ _ prepared listening =>
    cases listening with
    | unbound failed => exact absurd failed (bound _)
    | unaddressed opened failed => cases failed.symm.trans found
    | stopped opened addressed requested =>
      rcases requested with requested | requested
      · exact absurd (early.symm.trans requested) Bool.false_ne_true
      · exact absurd (late.symm.trans requested) Bool.false_ne_true
    | @served opening address opened addressed _ _ =>
      have silent := History.lacks_append.mpr
        ⟨silent_of_prepare prepared, silent_requests circumstances .binding⟩
      have resolved := History.silent_noticed
        (identityEvent (announcedIdentity config address) material.isSome)
      refine ⟨requests circumstances .preparing ++ history ++ requests circumstances .binding ++
        (opening ++ [.noticed (identityEvent (announcedIdentity config address) material.isSome)]),
        address, material, ?_, ?_, addressed, ?_⟩
      · exact History.lacks_append.mpr ⟨History.Silent.uneventful silent,
          History.lacks_append.mpr ⟨opened.uneventful, resolved.uneventful⟩⟩
      · exact History.lacks_append.mpr ⟨History.Silent.unanswered silent,
          History.lacks_append.mpr ⟨opened.unanswered, resolved.unanswered⟩⟩
      · rw [Outcome.behind_behind]

end Fixture
end ServiceBeacon
