import ServiceBeacon.Shutdown

namespace ServiceBeacon
namespace Shutdown

/-!
# The record of a latch

The record of a latch holds every action that was taken, whatever it was, and
the answer that it got.  Which handles and signals are alive, whether a shutdown
was requested, and how many signals there are can all be read off it, so it also
tells what the next action should be answered.  `Expects` says how; it speaks of
nothing but the record.
-/

/-- What was done to a latch and what was answered, oldest first. -/
abbrev Record : Type := List (Action × Answer)

/-- The record of a sequence of actions. -/
def record (latch : Shutdown) (actions : List Action) : Record :=
  actions.zip (latch.run actions)

def afterAll (latch : Shutdown) (actions : List Action) : Shutdown := actions.foldl after latch

/-- What an action is answered after a sequence of actions. -/
def answer (latch : Shutdown) (before : List Action) (action : Action) : Answer :=
  ((latch.afterAll before).step action).1

namespace Record

/-!
## What a record tells

Handles and signals are made, and are alive until they are given up.
-/

def Triggered (record : Record) : Prop := ∃ handle, (.trigger handle, .done) ∈ record

/-- Whether there ever was a handle.  The first one is there from the beginning. -/
def MadeHandle (record : Record) (handle : Nat) : Prop :=
  handle = 0 ∨ ∃ source, (.clone source, .made handle) ∈ record

def DroppedHandle (record : Record) (handle : Nat) : Prop := (.drop handle, .done) ∈ record

def HasHandle (record : Record) (handle : Nat) : Prop :=
  record.MadeHandle handle ∧ ¬ record.DroppedHandle handle

def MadeSignal (record : Record) (signal : Nat) : Prop :=
  ∃ source, (.subscribe source, .made signal) ∈ record

def DroppedSignal (record : Record) (signal : Nat) : Prop := (.dropSignal signal, .done) ∈ record

def HasSignal (record : Record) (signal : Nat) : Prop :=
  record.MadeSignal signal ∧ ¬ record.DroppedSignal signal

def isSubscription : Action × Answer → Bool
  | (.subscribe _, .made _) => true
  | _ => false

def isSignalDrop : Action × Answer → Bool
  | (.dropSignal _, .done) => true
  | _ => false

def subscriptions (record : Record) : Nat := record.countP isSubscription

def signalDrops (record : Record) : Nat := record.countP isSignalDrop

/-- Whether a signal would be ready: somebody asked for a shutdown, or nobody
is left who could. -/
def Ready (record : Record) : Prop := record.Triggered ∨ ∀ handle, ¬ record.HasHandle handle

/-- Whether an action goes through a handle or signal that is alive. -/
def Admits (record : Record) : Action → Prop
  | .clone handle | .subscribe handle | .trigger handle | .drop handle | .isTriggered handle
  | .count handle => record.HasHandle handle
  | .dropSignal signal | .signalIsTriggered signal | .recv signal => record.HasSignal signal

/-- What an action should be answered after what is recorded. -/
inductive Expects (record : Record) : Action → Answer → Prop where
  | gone {action : Action} (dead : ¬ record.Admits action) : Expects record action .gone
  | clone {handle fresh : Nat} (live : record.HasHandle handle)
      (new : ¬ record.MadeHandle fresh) : Expects record (.clone handle) (.made fresh)
  | subscribe {handle fresh : Nat} (live : record.HasHandle handle)
      (new : ¬ record.MadeSignal fresh) : Expects record (.subscribe handle) (.made fresh)
  | trigger {handle : Nat} (live : record.HasHandle handle) :
      Expects record (.trigger handle) .done
  | drop {handle : Nat} (live : record.HasHandle handle) : Expects record (.drop handle) .done
  | dropSignal {signal : Nat} (live : record.HasSignal signal) :
      Expects record (.dropSignal signal) .done
  | isTriggered {handle : Nat} {flag : Bool} (live : record.HasHandle handle)
      (told : flag = true ↔ record.Triggered) : Expects record (.isTriggered handle) (.flag flag)
  | signalIsTriggered {signal : Nat} {flag : Bool} (live : record.HasSignal signal)
      (told : flag = true ↔ record.Triggered) :
      Expects record (.signalIsTriggered signal) (.flag flag)
  | count {handle signals : Nat} (live : record.HasHandle handle)
      (counted : signals + record.signalDrops = record.subscriptions) :
      Expects record (.count handle) (.amount signals)
  | ready {signal : Nat} (live : record.HasSignal signal) (ready : record.Ready) :
      Expects record (.recv signal) .ready
  | pending {signal : Nat} (live : record.HasSignal signal) (unready : ¬ record.Ready) :
      Expects record (.recv signal) .pending

/-! ## One more entry -/

section Append

variable {record : Record} {entry : Action × Answer}

theorem triggered_append :
    Triggered (record ++ [entry]) ↔
      record.Triggered ∨ ∃ handle, entry = (.trigger handle, .done) := by
  simp only [Triggered, List.mem_append, List.mem_singleton, exists_or, eq_comm]

theorem madeHandle_append {handle : Nat} :
    MadeHandle (record ++ [entry]) handle ↔
      record.MadeHandle handle ∨ ∃ source, entry = (.clone source, .made handle) := by
  simp only [MadeHandle, List.mem_append, List.mem_singleton, exists_or, or_assoc, eq_comm]

theorem droppedHandle_append {handle : Nat} :
    DroppedHandle (record ++ [entry]) handle ↔
      record.DroppedHandle handle ∨ entry = (.drop handle, .done) := by
  simp only [DroppedHandle, List.mem_append, List.mem_singleton, eq_comm]

theorem madeSignal_append {signal : Nat} :
    MadeSignal (record ++ [entry]) signal ↔
      record.MadeSignal signal ∨ ∃ source, entry = (.subscribe source, .made signal) := by
  simp only [MadeSignal, List.mem_append, List.mem_singleton, exists_or, eq_comm]

theorem droppedSignal_append {signal : Nat} :
    DroppedSignal (record ++ [entry]) signal ↔
      record.DroppedSignal signal ∨ entry = (.dropSignal signal, .done) := by
  simp only [DroppedSignal, List.mem_append, List.mem_singleton, eq_comm]

theorem subscriptions_append :
    subscriptions (record ++ [entry]) =
      record.subscriptions + if isSubscription entry then 1 else 0 := by
  simp only [subscriptions, List.countP_append, List.countP_singleton]

theorem signalDrops_append :
    signalDrops (record ++ [entry]) =
      record.signalDrops + if isSignalDrop entry then 1 else 0 := by
  simp only [signalDrops, List.countP_append, List.countP_singleton]

end Append

end Record

/-! ## Names and who is alive -/

/-- Whether a list that says for every name whether it is alive agrees with what
is told about the names: they are made in order, each is given up at most once. -/
structure Tracks (alive : List Bool) (made dropped : Nat → Prop) : Prop where
  made_iff : ∀ name, made name ↔ name < alive.length
  made_of_dropped : ∀ name, dropped name → made name
  alive_iff : ∀ name, alive[name]?.getD false = true ↔ made name ∧ ¬ dropped name

namespace Tracks

variable {alive : List Bool} {made dropped : Nat → Prop}

theorem congr (tracks : Tracks alive made dropped) {made' dropped' : Nat → Prop}
    (sameMade : ∀ name, made' name ↔ made name)
    (sameDropped : ∀ name, dropped' name ↔ dropped name) : Tracks alive made' dropped' := by
  have makes : made' = made := funext fun name => propext (sameMade name)
  have drops : dropped' = dropped := funext fun name => propext (sameDropped name)
  rw [makes, drops]
  exact tracks

theorem lt_length_of_alive {name : Nat} (live : alive[name]?.getD false = true) :
    name < alive.length := by
  refine Nat.lt_of_not_le fun beyond => ?_
  rw [List.getElem?_eq_none beyond] at live
  exact Bool.false_ne_true live

/-- A new name is the first that is not in use, and it is alive. -/
theorem push (tracks : Tracks alive made dropped) :
    Tracks (alive ++ [true]) (fun name => made name ∨ name = alive.length) dropped where
  made_iff name := by
    rw [tracks.made_iff, List.length_append, List.length_singleton]
    omega
  made_of_dropped name gone := Or.inl (tracks.made_of_dropped name gone)
  alive_iff name := by
    have known := tracks.alive_iff name
    have within := tracks.made_iff name
    rcases Nat.lt_trichotomy name alive.length with before | here | beyond
    · rw [List.getElem?_append_left before, known, or_iff_left (Nat.ne_of_lt before)]
    · have new : ¬ dropped name := by
        intro gone
        have used := within.mp (tracks.made_of_dropped name gone)
        omega
      rw [here, List.getElem?_append_right (Nat.le_refl _), Nat.sub_self]
      exact iff_of_true rfl ⟨Or.inr rfl, here ▸ new⟩
    · have absent : ¬ (made name ∨ name = alive.length) := by
        rw [within]
        omega
      rw [List.getElem?_eq_none (List.length_append ▸ beyond)]
      exact iff_of_false Bool.false_ne_true fun both => absent both.1

theorem erase (tracks : Tracks alive made dropped) {name : Nat}
    (live : alive[name]?.getD false = true) :
    Tracks (alive.set name false) made (fun other => dropped other ∨ other = name) where
  made_iff other := by
    rw [tracks.made_iff, List.length_set]
  made_of_dropped other gone := by
    rcases gone with gone | rfl
    · exact tracks.made_of_dropped other gone
    · exact ((tracks.alive_iff other).mp live).1
  alive_iff other := by
    by_cases same : other = name
    · subst same
      rw [List.getElem?_set_self (lt_length_of_alive live)]
      exact iff_of_false Bool.false_ne_true fun both => both.2 (Or.inr rfl)
    · rw [List.getElem?_set_ne (Ne.symm same), tracks.alive_iff, or_iff_left same]

end Tracks

theorem count_push (alive : List Bool) : (alive ++ [true]).count true = alive.count true + 1 := by
  rw [List.count_append]
  rfl

theorem count_erase {alive : List Bool} {name : Nat}
    (live : alive[name]?.getD false = true) :
    (alive.set name false).count true + 1 = alive.count true := by
  have within := Tracks.lt_length_of_alive live
  have here : alive[name] = true := by
    rwa [List.getElem?_eq_getElem within] at live
  have some : 0 < alive.count true := List.count_pos_iff.mpr (here ▸ List.getElem_mem within)
  rw [List.count_set within, here]
  exact Nat.sub_add_cancel some

end Shutdown
end ServiceBeacon
