import ServiceBeacon.Proofs.Fixture.Serving

namespace ServiceBeacon

/-!
# What has nothing to do with the certificate

Once a run has a listener, or has to do without one, it neither issues anything
nor touches a file until it lets go of its certificate.  Everything in between
logs and counts under other names.
-/

/-- Whether a happening is about files, or is logged or counted by the issuer. -/
def Happening.concernsCertificate : Happening → Bool
  | changed _ => true
  | noticed (.logged event) => event.source == .issuer
  | noticed (.counted counter) => counter == Issuer.issuedCounter
  | shutdownRequested | bound | sent _ | called _ _ | accepting | answered _ | stopped => false

/-- Whether a part has nothing to do with the certificate. -/
abbrev History.Uncertified : History → Prop := Lacks Happening.concernsCertificate

namespace Fixture

open History (Uncertified)

variable {config : Config} {circumstances : Circumstances}

theorem uncertified_requests (circumstances : Circumstances) (phase : Phase) :
    Uncertified (requests circumstances phase) := by
  unfold requests
  split
  · exact History.lacks_singleton rfl
  · exact History.lacks_nil

/-! ## Calls to the registry -/

theorem concernsCertificate_announcement (url : Url) (identity : Identity)
    (operation : Registry.Operation) : Happening.concernsCertificate
      (.noticed (Registry.Client.announcement url identity operation)) = false := by
  cases operation <;> rfl

theorem uncertified_judge (operation : Registry.Operation) (answer : Registry.Answer) :
    Uncertified (.ofNotices (Registry.Client.judge operation answer).2) := by
  unfold Registry.Client.judge
  split
  · exact History.lacks_nil
  · split
    · exact History.lacks_nil
    · exact History.lacks_singleton rfl

theorem uncertified_call (client : Registry.Client) (operation : Registry.Operation)
    (identity : Identity) (agent : Registry.Agent) :
    Uncertified (.ofNotices (client.call operation identity agent).notices) := by
  have announced := fun url => concernsCertificate_announcement url identity operation
  unfold Registry.Client.call
  split
  · exact History.lacks_nil
  · dsimp only
    split
    · exact History.lacks_singleton (announced _)
    · exact History.lacks_cons.mpr ⟨announced _, uncertified_judge operation _⟩

theorem uncertified_callHistory (client : Registry.Client) (operation : Registry.Operation)
    (identity : Identity) (agent : Registry.Agent) {α : Type} {effect : Registry.Effect α}
    (reported : effect.notices = (Registry.reportedCall client operation identity agent).notices) :
    Uncertified (callHistory operation identity effect) := by
  have outcome : ∀ result, Happening.concernsCertificate
      (.noticed (Registry.outcomeEvent operation client identity result)) = false := by
    intro result
    cases result <;> rfl
  have logged : Uncertified (.ofNotices effect.notices) := by
    rw [reported, Registry.reportedCall, History.ofNotices, List.map_append]
    refine History.lacks_append.mpr ⟨uncertified_call client operation identity agent, ?_⟩
    exact History.lacks_cons.mpr ⟨outcome _, History.lacks_singleton rfl⟩
  have requested : Uncertified (effect.sent.map .sent) := History.lacks_map fun _ _ => rfl
  exact History.lacks_append.mpr
    ⟨History.lacks_append.mpr ⟨requested, logged⟩, History.lacks_singleton rfl⟩

theorem uncertified_announce (config : Config.Registry) (identity : Identity)
    (agent : Registry.Agent) : Uncertified (announce config identity agent).history := by
  unfold announce
  split
  · split
    · exact History.lacks_singleton rfl
    · exact uncertified_callHistory _ .register identity agent rfl
  · exact History.lacks_singleton rfl

theorem uncertified_withdraw (announced : Announcement) : Uncertified (withdraw announced) := by
  rcases announced with ⟨guard, history, agent⟩
  cases guard with
  | none => exact History.lacks_nil
  | some guard =>
    rw [withdraw_of_guard, guard.release_eq]
    exact uncertified_callHistory guard.client .deregister guard.identity agent rfl

theorem uncertified_respond (server : Http.Server) (arrivals : List Http.Arrival) :
    Uncertified (respond server arrivals) := by
  intro happening member
  rcases List.mem_flatMap.mp member with ⟨arrival, _, answering⟩
  rcases List.mem_append.mp answering with noticed | answered
  · rcases List.mem_map.mp noticed with ⟨notice, listed, rfl⟩
    rw [Http.Server.respond, Http.serve_eq] at listed
    split at listed
    · cases listed
    · rcases List.mem_cons.mp listed with rfl | later
      · rfl
      · rw [List.mem_singleton.mp later]
        rfl
  · rw [List.mem_singleton.mp answered]
    rfl

theorem uncertified_serve (server : Http.Server) (address : SocketAddress)
    (circumstances : Circumstances) (latch : Shutdown) :
    Uncertified (serve server address circumstances latch).history := by
  have asked := uncertified_requests circumstances
  have responded := uncertified_respond server circumstances.arrivals
  have served : Uncertified ([.noticed (server.startEvent address), .accepting] ++
      respond server circumstances.arrivals ++ requests circumstances .serving) :=
    History.lacks_append.mpr ⟨History.lacks_append.mpr
      ⟨History.lacks_cons.mpr ⟨rfl, History.lacks_singleton rfl⟩, responded⟩,
      asked .serving⟩
  have drained : ∀ ready : Bool, Uncertified (if ready then
      .noticed server.drainEvent :: requests circumstances .draining else []) := by
    intro ready
    cases ready
    · exact History.lacks_nil
    · exact History.lacks_cons.mpr ⟨rfl, asked .draining⟩
  have stopped : Uncertified [.stopped] := History.lacks_singleton rfl
  unfold serve
  dsimp only
  cases circumstances.serving with
  | error breakdown =>
    cases breakdown with
    | atStart cause => exact History.lacks_nil
    | whileServing cause =>
      exact History.lacks_append.mpr ⟨History.lacks_append.mpr ⟨served, drained _⟩, stopped⟩
  | ok _ =>
    dsimp only
    split
    · exact History.lacks_append.mpr ⟨History.lacks_append.mpr ⟨served, drained true⟩,
        History.lacks_cons.mpr ⟨rfl, History.lacks_singleton rfl⟩⟩
    · exact served

theorem uncertified_followedBy {outcome : Outcome} {after : History}
    (first : Uncertified outcome.history) (second : Uncertified after) :
    Uncertified (outcome.followedBy after).history := by
  unfold Outcome.followedBy
  split
  · exact first
  · exact History.lacks_append.mpr ⟨first, second⟩

theorem uncertified_announceAndServe (config : Config) (circumstances : Circumstances)
    (identity : Identity) (secure : Bool) (address : SocketAddress) (latch : Shutdown) :
    Uncertified (announceAndServe config circumstances identity secure address latch).history :=
  History.lacks_append.mpr
    ⟨History.lacks_append.mpr ⟨uncertified_announce _ _ _, uncertified_requests _ _⟩,
      uncertified_followedBy (uncertified_serve _ _ _ _) (uncertified_withdraw _)⟩

theorem Opens.uncertified {socket : Socket} {opening : History} (opened : Opens socket opening) :
    Uncertified opening := by
  cases opened with
  | given => exact History.lacks_nil
  | own => exact History.lacks_singleton rfl

theorem Listening.uncertified {secure : Bool} {outcome : Outcome}
    (listening : Listening config circumstances secure outcome) :
    Uncertified outcome.history := by
  cases listening with
  | unbound _ => exact History.lacks_nil
  | unaddressed opened _ => exact opened.uncertified
  | stopped opened _ _ =>
    exact History.lacks_append.mpr ⟨opened.uncertified,
      History.lacks_cons.mpr ⟨rfl, History.lacks_singleton rfl⟩⟩
  | served opened _ _ _ =>
    exact History.lacks_append.mpr ⟨History.lacks_append.mpr
      ⟨opened.uncertified, History.lacks_singleton rfl⟩,
      uncertified_announceAndServe _ _ _ _ _ _⟩

end Fixture
end ServiceBeacon
