import ServiceBeacon.Proofs.Fixture.Pairing
import ServiceBeacon.Proofs.Fixture.Uncertified
import ServiceBeacon.Proofs.Issuer.TempFiles

namespace ServiceBeacon

/-!
# The files of a run

A run that needs a certificate has its two files in the temporary directory from
the issuance on, and lets go of them in four places: where the listener cannot be
set up, where nobody waits for the certificate any more, and at the end, however
the run got there.  If a file cannot be written, the issuance itself removes what
is there.

Between the issuance and the end nothing touches a file, so whoever connects
finds the listener with both files in place.
-/

namespace History

theorem Uncertified.changes_eq_nil {part : History} (uncertified : Uncertified part) :
    part.changes = [] := by
  refine List.filterMap_eq_nil_iff.mpr fun happening member => ?_
  have other := uncertified happening member
  cases happening <;> first | rfl | cases other

theorem Uncertified.issuances_eq_zero {part : History} (uncertified : Uncertified part) :
    part.issuances = 0 :=
  List.count_eq_zero.mpr (uncertified.notMem (beq_self_eq_true Issuer.issuedCounter))

/-- While a server accepts connections, the directory is as it was before. -/
theorem changes_while_accepting {front service back before after : History}
    (whole : front ++ (service ++ back) = before ++ after) (unstarted : .accepting ∉ front)
    (untouched : Uncertified service) (stops : back = [] ∨ .stopped ∈ service)
    (started : .accepting ∈ before) (unstopped : .stopped ∉ before) :
    before.changes = front.changes := by
  rcases List.append_eq_append_iff.mp whole with ⟨part, rfl, rest⟩ | ⟨part, rfl, _⟩
  · -- The part of the service that is over is untouched too.
    have quiet : Uncertified part := by
      rcases List.append_eq_append_iff.mp rest with ⟨more, rfl, behind⟩ | ⟨more, rfl, _⟩
      · rcases stops with rfl | stopped
        · rw [(List.append_eq_nil_iff.mp behind.symm).1, List.append_nil]
          exact untouched
        · exact absurd (List.mem_append_right front (List.mem_append_left more stopped)) unstopped
      · exact (lacks_append.mp untouched).1
    rw [changes_append, quiet.changes_eq_nil, List.append_nil]
  · exact absurd (List.mem_append_left part started) unstarted

end History

namespace Fixture

open History (Uncertified)

variable {config : Config} {circumstances : Circumstances} {directory : Directory}

/-- What comes of issuing the certificate of a configuration, before it is written. -/
def certificate (config : Config) (circumstances : Circumstances) :
    Except Issuer.Error Issuer.Bundle :=
  (Issuer.issue config.tls.keyBits config.service.containerName config.tls.extraSans
    circumstances.draw).1

/-! ## Before the listener -/

/-- The material of a listener is the files that were issued; without a listener they
are let go of. -/
theorem loadMaterial_cases (config : Config) (circumstances : Circumstances)
    (persisted : Issuer.Persisted) :
    (∃ failure, (loadMaterial config circumstances persisted).1 = .error failure ∧
      (loadMaterial config circumstances persisted).2.changes = persisted.release.changes) ∨
    ∃ material, (loadMaterial config circumstances persisted).1 = .ok material ∧
      material.persisted = persisted ∧
      (loadMaterial config circumstances persisted).2.changes = [] := by
  unfold loadMaterial
  dsimp only
  split
  · refine .inl ⟨_, rfl, ?_⟩
    rw [History.changes_append, History.changes_ofNotices, List.nil_append]
  · exact .inr ⟨_, rfl, rfl, History.changes_ofNotices _⟩

theorem after_unprepared (fresh : circumstances.disk.IsFresh directory) {failure : Failure}
    {history : History} (failed : prepare config circumstances = (.error failure, history)) :
    directory.after history.changes = directory := by
  unfold prepare at failed
  split at failed
  · split at failed <;> rename_i issuing
    · cases failed
      exact Issuer.after_failure fresh issuing
    · rename_i persisted _
      rcases Issuer.after_success fresh issuing with ⟨bundle, _, rfl, written⟩
      have loading := loadMaterial_cases config circumstances (circumstances.disk.persisted bundle)
      split at failed <;> rename_i loaded <;> cases failed
      rw [loaded] at loading
      rcases loading with ⟨_, _, released⟩ | ⟨_, absent, _⟩
      · rw [History.changes_append, Directory.after_append, written, released]
        exact Issuer.after_release fresh bundle
      · cases absent
  · cases failed

theorem after_prepared (fresh : circumstances.disk.IsFresh directory)
    {material : Option Material} {history : History}
    (prepared : prepare config circumstances = (.ok material, history)) :
    (config.tls.enabled = false ∧ material = none ∧ history.changes = []) ∨
    ∃ bundle listener, certificate config circumstances = .ok bundle ∧
      material = some ⟨circumstances.disk.persisted bundle, listener⟩ ∧
      directory.after history.changes = directory ++ circumstances.disk.files bundle := by
  unfold prepare at prepared
  split at prepared
  · split at prepared <;> rename_i issuing
    · cases prepared
    · rename_i persisted _
      rcases Issuer.after_success fresh issuing with ⟨bundle, issued, rfl, written⟩
      have loading := loadMaterial_cases config circumstances (circumstances.disk.persisted bundle)
      split at prepared <;> rename_i loaded <;> cases prepared
      rename_i material _
      rw [loaded] at loading
      rcases loading with ⟨_, absent, _⟩ | ⟨_, same, held, unchanged⟩
      · cases absent
      · cases same
        refine .inr ⟨bundle, material.listener, issued, by rw [← held], ?_⟩
        rw [History.changes_append, unchanged, List.append_nil]
        exact written
  · rename_i insecure
    cases prepared
    exact .inl ⟨Bool.eq_false_iff.mpr insecure, rfl, rfl⟩

theorem after_abandon (fresh : circumstances.disk.IsFresh directory) (config : Config) :
    directory.after (abandon config circumstances).changes = directory := by
  unfold abandon
  split <;> rename_i issuing
  · exact Issuer.after_failure fresh issuing
  · rcases Issuer.after_success fresh issuing with ⟨bundle, _, rfl, written⟩
    rw [History.changes_append, Directory.after_append, written]
    exact Issuer.after_release fresh bundle

/-! ## From the listener on -/

theorem accepting_notMem_callHistory {α : Type} (operation : Registry.Operation)
    (identity : Identity) (effect : Registry.Effect α) :
    .accepting ∉ callHistory operation identity effect := by
  simp [callHistory, History.ofNotices]

theorem accepting_notMem_announce (config : Config.Registry) (identity : Identity)
    (agent : Registry.Agent) : .accepting ∉ (announce config identity agent).history := by
  unfold announce
  split
  · split
    · simp
    · exact accepting_notMem_callHistory _ _ _
  · simp

theorem accepting_notMem_withdraw (announced : Announcement) :
    .accepting ∉ withdraw announced := by
  rcases announced with ⟨guard, history, agent⟩
  cases guard with
  | none => exact List.not_mem_nil
  | some guard =>
    rw [withdraw_of_guard]
    exact accepting_notMem_callHistory _ _ _

/-- A run that accepts connections and comes to an end stops its server. -/
theorem Listening.stops {secure : Bool} {outcome : Outcome}
    (listening : Listening config circumstances secure outcome)
    (complete : outcome.ending ≠ .unfinished) (started : .accepting ∈ outcome.history) :
    .stopped ∈ outcome.history := by
  cases listening with
  | unbound failed => cases started
  | unaddressed opened failed => exact absurd started (opened.uneventful.notMem rfl)
  | @stopped opening address opened addressed requested =>
    rcases List.mem_append.mp started with early | late
    · exact absurd early (opened.uneventful.notMem rfl)
    · simp at late
  | @served opening address opened addressed _ _ =>
    rw [announceAndServe_eq] at complete started ⊢
    rw [Outcome.behind_ending, Outcome.behind_ending, Outcome.followedBy_ending] at complete
    have served := (serve_of_complete _ _ complete).2
    rw [Outcome.behind_history, Outcome.behind_history, Outcome.followedBy_history complete]
      at started ⊢
    generalize (serve _ _ _ _).history = time at served started ⊢
    cases served with
    | once => simp
    | never refused =>
      have early :=
        opened.uneventful.notMem (show Happening.isTurningPoint .accepting = true from rfl)
      have asked := (silent_requests circumstances .announcing).notMem
        (show Happening.isLoud .accepting = true from rfl)
      have announced := accepting_notMem_announce config.registry
        (announcedIdentity config address) circumstances.agent
      have withdrawn := accepting_notMem_withdraw (announce config.registry
        (announcedIdentity config address) circumstances.agent)
      simp [early, asked, announced, withdrawn] at started

/-- What follows a server that accepted connections comes behind its end, or never if it goes on
for ever. -/
theorem Listening.divide {secure : Bool} {outcome : Outcome}
    (listening : Listening config circumstances secure outcome) {front behind : History}
    (unstarted : .accepting ∉ front) (quiet : .accepting ∉ behind) {before after : History}
    (whole : ((outcome.behind front).followedBy behind).history = before ++ after)
    (started : .accepting ∈ before) :
    ∃ back, front ++ (outcome.history ++ back) = before ++ after ∧
      (back = [] ∨ .stopped ∈ outcome.history) := by
  by_cases ending : outcome.ending = .unfinished
  · refine ⟨[], ?_, .inl rfl⟩
    rw [Outcome.followedBy, Outcome.behind_ending, if_pos ending, Outcome.behind_history] at whole
    rw [List.append_nil, whole]
  · rw [Outcome.followedBy_history (by rwa [Outcome.behind_ending]), Outcome.behind_history,
      List.append_assoc] at whole
    refine ⟨behind, whole, .inr (listening.stops ending ?_)⟩
    have member := List.mem_append_left after started
    rw [← whole] at member
    rcases List.mem_append.mp member with early | late
    · exact absurd early unstarted
    rcases List.mem_append.mp late with running | later
    · exact running
    · exact absurd later quiet

/-! ## The whole run -/

/-- However a run comes to its end, the directory is as it was before. -/
theorem Course.after_changes {outcome : Outcome} (course : Course config circumstances outcome)
    (fresh : circumstances.disk.IsFresh directory) (complete : outcome.ending ≠ .unfinished) :
    directory.after outcome.history.changes = directory := by
  have asked := fun phase => (uncertified_requests circumstances phase).changes_eq_nil
  cases course with
  | stoppedAtOnce _ => rfl
  | stoppedPreparing _ _ =>
    rw [History.changes_append]
    exact after_abandon fresh config
  | unprepared _ failed =>
    rw [History.changes_append, asked, List.nil_append]
    exact after_unprepared fresh failed
  | @prepared material history outcome _ prepared listening =>
    rw [Outcome.followedBy_ending, Outcome.behind_ending] at complete
    have complete : (outcome.behind (requests circumstances .preparing ++ history ++
      requests circumstances .binding)).ending ≠ .unfinished := complete
    rw [Outcome.followedBy_history complete, Outcome.behind_history]
    simp only [History.changes_append, asked, listening.uncertified.changes_eq_nil, List.nil_append,
      List.append_nil]
    rcases after_prepared fresh prepared with
      ⟨_, rfl, unchanged⟩ | ⟨bundle, listener, _, rfl, written⟩
    · rw [unchanged]
      rfl
    · rw [Directory.after_append, written]
      exact Issuer.after_release fresh bundle

theorem not_accepting_of_silent {history before after : History} (silent : History.Silent history)
    (whole : history = before ++ after) : .accepting ∉ before :=
  fun started => silent.notMem rfl (whole ▸ List.mem_append_left after started)

/-- While a run over TLS accepts connections, its files are there. -/
theorem Course.files_while_accepting {outcome : Outcome}
    (course : Course config circumstances outcome) (fresh : circumstances.disk.IsFresh directory)
    (secure : config.tls.enabled = true) {before after : History}
    (whole : outcome.history = before ++ after) (started : .accepting ∈ before)
    (unstopped : .stopped ∉ before) :
    ∃ bundle, certificate config circumstances = .ok bundle ∧
      directory.after before.changes = directory ++ circumstances.disk.files bundle := by
  have asked := fun phase => (uncertified_requests circumstances phase).changes_eq_nil
  cases course with
  | stoppedAtOnce _ =>
    have silent : History.Silent [.shutdownRequested, .noticed earlyStopEvent] :=
      History.lacks_cons.mpr ⟨rfl, History.silent_noticed earlyStopEvent⟩
    exact absurd started (not_accepting_of_silent silent whole)
  | stoppedPreparing _ _ =>
    have silent : History.Silent ([.shutdownRequested, .noticed earlyStopEvent] ++
        abandon config circumstances) :=
      History.lacks_append.mpr ⟨History.lacks_cons.mpr
        ⟨rfl, History.silent_noticed earlyStopEvent⟩, silent_abandon config circumstances⟩
    exact absurd started (not_accepting_of_silent silent whole)
  | unprepared _ failed =>
    exact absurd started (not_accepting_of_silent (silent_of_prepare failed) whole)
  | @prepared material history outcome _ prepared listening =>
    have silent := History.lacks_append.mpr
      ⟨silent_of_prepare prepared, silent_requests circumstances .binding⟩
    rcases after_prepared fresh prepared with
      ⟨insecure, _, _⟩ | ⟨bundle, listener, issued, _, written⟩
    · exact absurd (insecure.symm.trans secure) Bool.false_ne_true
    refine ⟨bundle, issued, ?_⟩
    have quiet : .accepting ∉ releaseMaterial material :=
      (silent_releaseMaterial material).notMem rfl
    rcases listening.divide (silent.notMem rfl) quiet whole started with ⟨back, divided, stops⟩
    rw [History.changes_while_accepting divided (silent.notMem rfl) listening.uncertified stops
      started unstopped]
    simp only [History.changes_append, asked, List.nil_append, List.append_nil]
    exact written

/-! ## Certificates that are counted -/

theorem issuances_loadMaterial (config : Config) (circumstances : Circumstances)
    (persisted : Issuer.Persisted) :
    (loadMaterial config circumstances persisted).2.issuances = 0 := by
  have loaded : ∀ first second names,
      (History.ofNotices (Tls.load first second names).2).issuances = 0 := by
    intro first second names
    unfold Tls.load
    split <;> rfl
  unfold loadMaterial
  dsimp only
  split <;> rename_i loading <;> have events := loading ▸ loaded _ _ _
  · rw [History.issuances_append, events, Issuer.Persisted.release, History.issuances_ofChanges]
  · exact events

theorem issuances_issue (config : Config) (circumstances : Circumstances) :
    (issue config circumstances).2.issuances =
      if (certificate config circumstances).isOk then 1 else 0 :=
  Issuer.issuances_issueToFiles _ _ _ _ _

theorem issuances_prepare (config : Config) (circumstances : Circumstances) :
    (prepare config circumstances).2.issuances =
      if config.tls.enabled && (certificate config circumstances).isOk then 1 else 0 := by
  have counted := issuances_issue config circumstances
  unfold prepare
  split
  · rename_i secure
    rw [secure, Bool.true_and]
    split <;> rename_i issuing <;> rw [issuing] at counted
    · exact counted
    · rename_i persisted _
      have loading := issuances_loadMaterial config circumstances persisted
      split <;> rename_i loaded <;> rw [loaded] at loading <;>
        rw [History.issuances_append, loading] <;> exact counted
  · rename_i insecure
    rw [Bool.eq_false_iff.mpr insecure]
    rfl

theorem issuances_abandon (config : Config) (circumstances : Circumstances) :
    (abandon config circumstances).issuances =
      if (certificate config circumstances).isOk then 1 else 0 := by
  have counted := issuances_issue config circumstances
  unfold abandon
  split <;> rename_i issuing <;> rw [issuing] at counted
  · exact counted
  · rw [History.issuances_append, Issuer.Persisted.release, History.issuances_ofChanges]
    exact counted

/-- A run that is not stopped before it looks counts the certificate it needs, if there is one. -/
theorem Course.issuances {outcome : Outcome} (course : Course config circumstances outcome)
    (patient : circumstances.requested .starting = false) :
    outcome.history.issuances =
      if config.tls.enabled && (certificate config circumstances).isOk then 1 else 0 := by
  have asked := fun phase => (uncertified_requests circumstances phase).issuances_eq_zero
  cases course with
  | stoppedAtOnce requested => exact absurd (patient.symm.trans requested) Bool.false_ne_true
  | stoppedPreparing secure _ =>
    rw [secure, Bool.true_and, History.issuances_append, issuances_abandon]
    exact Nat.zero_add _
  | unprepared _ failed =>
    have counted := issuances_prepare config circumstances
    rw [failed] at counted
    rw [History.issuances_append, asked, Nat.zero_add]
    exact counted
  | @prepared material history outcome _ prepared listening =>
    have counted := issuances_prepare config circumstances
    rw [prepared] at counted
    have released : (releaseMaterial material).issuances = 0 := by
      cases material with
      | none => rfl
      | some material => exact History.issuances_ofChanges _
    have front : History.issuances (requests circumstances .preparing ++ history ++
        requests circumstances .binding ++ outcome.history) = history.issuances := by
      simp only [History.issuances_append, asked, listening.uncertified.issuances_eq_zero,
        Nat.zero_add, Nat.add_zero]
    rw [← counted, ← front]
    unfold Outcome.followedBy
    split
    · rfl
    · exact (History.issuances_append _ _).trans (congrArg (_ + ·) released)

theorem run_of_starting (requested : circumstances.requested .starting = true) :
    run config circumstances = ⟨.finished, [.shutdownRequested, .noticed earlyStopEvent]⟩ := by
  have subscribed : Shutdown.initial.after (.subscribe handle) = ⟨false, [true], [true]⟩ := rfl
  unfold run
  rw [subscribed, passPhase_eq, Bool.false_or]
  dsimp only
  rw [isReady_startupSignal, if_pos requested, requests, if_pos requested]
  rfl

/-! ## Everything about the files -/

/-- The files of a certificate are there as long as somebody needs them and no longer,
whatever fails and whenever the run is stopped.  A failed issuance leaves nothing and
names the stage behind the last one it logged, and what is counted are the certificates
that were issued. -/
theorem certificate_files_accounted (config : Config) (circumstances : Circumstances)
    {directory : Directory} (fresh : circumstances.disk.IsFresh directory) :
    ((run config circumstances).ending ≠ .unfinished →
      directory.after (run config circumstances).history.changes = directory) ∧
    (config.tls.enabled = true → ∀ before after,
      (run config circumstances).history = before ++ after →
      .accepting ∈ before → .stopped ∉ before →
      ∃ bundle, certificate config circumstances = .ok bundle ∧
        (directory.after before.changes).content? circumstances.disk.certificatePath =
          some bundle.certificateText ∧
        (directory.after before.changes).content? circumstances.disk.keyPath =
          some bundle.keyText) ∧
    (∀ error, (issue config circumstances).1 = .error error →
      directory.after (issue config circumstances).2.changes = directory ∧
      ∃ front back, Issuer.Stage.all =
        front ++ (issue config circumstances).2.lastStage :: error.stage :: back) ∧
    (issue config circumstances).2.issuances =
      (if (certificate config circumstances).isOk then 1 else 0) ∧
    (run config circumstances).history.issuances =
      if !circumstances.requested .starting && config.tls.enabled &&
        (certificate config circumstances).isOk then 1 else 0 := by
  have course := course_run config circumstances
  refine ⟨course.after_changes fresh, ?_, ?_, issuances_issue config circumstances, ?_⟩
  · intro secure before after whole started unstopped
    rcases course.files_while_accepting fresh secure whole started unstopped with
      ⟨bundle, issued, files⟩
    rw [files]
    exact ⟨bundle, issued, Issuer.content?_files fresh bundle⟩
  · intro error failed
    have issuing : issue config circumstances = (.error error, (issue config circumstances).2) :=
      Prod.ext failed rfl
    exact ⟨Issuer.after_failure fresh issuing, Issuer.stage_of_issueToFiles issuing⟩
  · cases requested : circumstances.requested .starting with
    | true =>
      rw [run_of_starting requested]
      rfl
    | false => exact course.issuances requested

/-- A configuration with TLS. -/
def secured : Config := { Config.default with tls := { Config.Tls.default with enabled := true } }

/-- A disk that has room for a certificate and no more. -/
def crammed : Circumstances :=
  { brokenDown with
    disk :=
      ⟨Issuer.Part.path .certificate "/tmp" "a", .complete, Issuer.Part.path .privateKey "/tmp" "b",
        .unwritten 100 "No space left on device"⟩ }

/-- Beside the file of somebody else, nothing stays behind where the key cannot be written. -/
theorem certificate_files_crammed :
    let others : Directory := [⟨"/tmp/notes", 0o644, [0x61]⟩]
    crammed.disk.IsFresh others ∧
      others.after (run secured crammed).history.changes = others := by
  intro others
  have fresh : crammed.disk.IsFresh others :=
    ⟨Directory.avoids_singleton.mpr (by decide), Directory.avoids_singleton.mpr (by decide),
      by decide⟩
  have complete := (course_run secured crammed).complete (.inl ⟨_, rfl⟩)
  exact ⟨fresh, (certificate_files_accounted secured crammed fresh).1 complete⟩

end Fixture
end ServiceBeacon
