import ServiceBeacon.Registry.Guard

namespace ServiceBeacon
namespace Registry

/-!
# Sessions

A session is a client that works through a list of steps, with at most one
guard at a time.  Where a step announces an identity while a guard is held,
the old guard is given up afterwards.

What guards leave to the background is done between the steps, at any time and
in any order.  So the background has steps of its own: which errand is run next
is not up to the session.
-/

/-- What a session can do.  Calls are made without a guard, and a guard is lost with
or without a runtime that is alive. -/
inductive Step where
  | call (operation : Operation)
  | acquire
  | isRegistered
  | release
  | lose (alive : Bool)
  | background (index : Nat)
deriving DecidableEq, Repr

inductive StepResult where
  | called (result : Except CallError Unit)
  | acquired (guard : Guard)
  | flag (value : Bool)
  | noGuard

/-- What there is beside a session: the agent, and the errands of the background. -/
structure Surroundings where
  agent : Agent
  errands : List Errand

/-- Nobody answers, and nothing is left to do. -/
def Surroundings.absent : Surroundings := ⟨.absent, []⟩

/-- A client, the identity it speaks for, and the guard that is held. -/
structure Session where
  client : Client
  identity : Identity
  guard : Option Guard
  surroundings : Surroundings

/-- What a step brings about, the guard that is held then, and the errands that are left. -/
structure Taken where
  effect : Effect StepResult
  guard : Option Guard
  errands : List Errand

namespace Session

def step (session : Session) (step : Step) : Taken :=
  let agent := session.surroundings.agent
  let errands := session.surroundings.errands
  match step with
  | .call operation =>
    let called := session.client.call operation session.identity agent
    ⟨⟨.called called.value, called.sent, called.notices, called.agent⟩, session.guard, errands⟩
  | .acquire =>
    let made := Guard.acquire session.client session.identity agent
    match session.guard with
    | none =>
      ⟨⟨.acquired made.value, made.sent, made.notices, made.agent⟩, some made.value, errands⟩
    | some old =>
      let (released, left) := old.release made.agent
      ⟨⟨.acquired made.value, made.sent ++ released.sent, made.notices ++ released.notices,
        released.agent⟩, some made.value, errands ++ left⟩
  | .isRegistered =>
    match session.guard with
    | none => ⟨⟨.noGuard, [], [], agent⟩, none, errands⟩
    | some guard => ⟨⟨.flag guard.registered, [], [], agent⟩, some guard, errands⟩
  | .release =>
    match session.guard with
    | none => ⟨⟨.noGuard, [], [], agent⟩, none, errands⟩
    | some guard =>
      let (released, left) := guard.release agent
      ⟨⟨.flag released.value, released.sent, released.notices, released.agent⟩, none,
        errands ++ left⟩
  | .lose alive =>
    match session.guard with
    | none => ⟨⟨.flag false, [], [], agent⟩, none, errands⟩
    | some guard =>
      let (notices, left) := guard.drop alive
      ⟨⟨.flag true, [], notices, agent⟩, none, errands ++ left⟩
  | .background index =>
    match errands[index]? with
    | none => ⟨⟨.flag false, [], [], agent⟩, session.guard, errands⟩
    | some errand =>
      let ran := errand.run agent
      ⟨⟨.flag true, ran.sent, ran.notices, ran.agent⟩, session.guard, errands.eraseIdx index⟩

def after (session : Session) (taken : Taken) : Session :=
  { session with guard := taken.guard, surroundings := ⟨taken.effect.agent, taken.errands⟩ }

/-- Takes steps one after the other. -/
def trace (session : Session) : List Step → List (Effect StepResult)
  | [] => []
  | step :: rest =>
    let taken := session.step step
    taken.effect :: (session.after taken).trace rest

/-- The session after steps. -/
def afterAll (session : Session) (steps : List Step) : Session :=
  steps.foldl (fun session step => session.after (session.step step)) session

/-- Takes steps one after the other, and waits behind each of them for what it may
have left to the background. -/
def run (session : Session) : List Step → List (Effect StepResult)
  | [] => []
  | step :: rest =>
    let taken := session.step step
    let between := session.after taken
    let waited := between.step (.background 0)
    ⟨taken.effect.value, taken.effect.sent ++ waited.effect.sent,
        taken.effect.notices ++ waited.effect.notices, waited.effect.agent⟩ ::
      (between.after waited).run rest

end Session
end Registry
end ServiceBeacon
