import ServiceBeacon.Proofs.Shutdown.Record

namespace ServiceBeacon
namespace Shutdown

/-!
# The latch over every history

A latch keeps much less than its record: whether a shutdown was requested, and
who is alive.  That is enough to answer every action as the record tells, after
any actions in any order.  `Taken` lists what one action can come to, `Reflects`
says what is kept of the record, and each action preserves it.  A latch also
never closes: a signal that was ready once is ready as long as it is alive.
-/

/-! ## What one action does -/

/-- Whether an action goes through a handle or signal that a latch says is alive. -/
def admits (latch : Shutdown) : Action → Bool
  | .clone handle | .subscribe handle | .trigger handle | .drop handle | .isTriggered handle
  | .count handle => latch.hasHandle handle
  | .dropSignal signal | .signalIsTriggered signal | .recv signal => latch.hasSignal signal

/-- Everything that an action can come to: its answer and the latch afterwards. -/
inductive Taken (latch : Shutdown) : Action → Answer → Shutdown → Prop where
  | gone {action : Action} (dead : ¬ latch.admits action = true) : Taken latch action .gone latch
  | clone {handle : Nat} (live : latch.hasHandle handle = true) :
      Taken latch (.clone handle) (.made latch.handles.length)
        { latch with handles := latch.handles ++ [true] }
  | subscribe {handle : Nat} (live : latch.hasHandle handle = true) :
      Taken latch (.subscribe handle) (.made latch.signals.length)
        { latch with signals := latch.signals ++ [true] }
  | trigger {handle : Nat} (live : latch.hasHandle handle = true) :
      Taken latch (.trigger handle) .done { latch with requested := true }
  | drop {handle : Nat} (live : latch.hasHandle handle = true) :
      Taken latch (.drop handle) .done
        { latch with handles := latch.handles.set handle false }
  | dropSignal {signal : Nat} (live : latch.hasSignal signal = true) :
      Taken latch (.dropSignal signal) .done
        { latch with signals := latch.signals.set signal false }
  | isTriggered {handle : Nat} (live : latch.hasHandle handle = true) :
      Taken latch (.isTriggered handle) (.flag latch.requested) latch
  | signalIsTriggered {signal : Nat} (live : latch.hasSignal signal = true) :
      Taken latch (.signalIsTriggered signal) (.flag latch.requested) latch
  | count {handle : Nat} (live : latch.hasHandle handle = true) :
      Taken latch (.count handle) (.amount latch.liveSignals) latch
  | ready {signal : Nat} (live : latch.hasSignal signal = true)
      (ready : (latch.requested || !latch.hasHandles) = true) :
      Taken latch (.recv signal) .ready latch
  | pending {signal : Nat} (live : latch.hasSignal signal = true)
      (unready : ¬ (latch.requested || !latch.hasHandles) = true) :
      Taken latch (.recv signal) .pending latch

theorem taken_step (latch : Shutdown) (action : Action) :
    latch.Taken action (latch.step action).1 (latch.after action) := by
  by_cases live : latch.admits action = true
  · cases action <;> simp only [admits] at live <;> simp only [after, step, live, if_true]
    case clone => exact .clone live
    case subscribe => exact .subscribe live
    case trigger => exact .trigger live
    case drop => exact .drop live
    case dropSignal => exact .dropSignal live
    case isTriggered => exact .isTriggered live
    case signalIsTriggered => exact .signalIsTriggered live
    case count => exact .count live
    case recv =>
      split
      · exact .ready live ‹_›
      · exact .pending live ‹_›
  · have gone := Taken.gone live
    cases action <;> simp only [admits] at live <;> simp only [after, step, live] <;>
      exact gone

theorem hasHandles_iff_exists (latch : Shutdown) :
    latch.hasHandles = true ↔ ∃ handle, latch.hasHandle handle = true := by
  simp only [hasHandle, hasHandles, List.any_eq_true, id]
  constructor
  · rintro ⟨live, member, rfl⟩
    rcases List.getElem?_of_mem member with ⟨handle, found⟩
    exact ⟨handle, by rw [found]; rfl⟩
  · rintro ⟨handle, live⟩
    have within := Tracks.lt_length_of_alive live
    rw [List.getElem?_eq_getElem within] at live
    exact ⟨_, List.getElem_mem within, live⟩

/-! ## What a latch keeps of its record -/

/-- Whether a latch has kept of a record what the answers depend on. -/
structure Reflects (latch : Shutdown) (record : Record) : Prop where
  requested : latch.requested = true ↔ record.Triggered
  handles : Tracks latch.handles record.MadeHandle record.DroppedHandle
  signals : Tracks latch.signals record.MadeSignal record.DroppedSignal
  counted : latch.liveSignals + record.signalDrops = record.subscriptions

/-- Whether an answer tells that something has changed. -/
def Answer.isNews : Answer → Bool
  | .done | .made _ => true
  | .gone | .flag _ | .amount _ | .ready | .pending => false

namespace Reflects

variable {latch : Shutdown} {record : Record}

theorem hasHandle_iff (reflects : Reflects latch record) (handle : Nat) :
    latch.hasHandle handle = true ↔ record.HasHandle handle :=
  reflects.handles.alive_iff handle

theorem hasSignal_iff (reflects : Reflects latch record) (signal : Nat) :
    latch.hasSignal signal = true ↔ record.HasSignal signal :=
  reflects.signals.alive_iff signal

theorem initial : Reflects Shutdown.initial [] where
  requested := iff_of_false Bool.false_ne_true fun triggered => by
    rcases triggered with ⟨_, member⟩
    cases member
  handles := by
    refine ⟨fun name => ?_, fun name gone => ?_, fun name => ?_⟩
    · simp [Record.MadeHandle, Shutdown.initial]
    · cases gone
    · cases name <;> simp [Record.MadeHandle, Record.DroppedHandle, Shutdown.initial]
  signals := by
    refine ⟨fun name => ?_, fun name gone => ?_, fun name => ?_⟩
    · simp [Record.MadeSignal, Shutdown.initial]
    · cases gone
    · simp [Record.MadeSignal, Shutdown.initial]
  counted := rfl

/-! An entry that does not tell of a change leaves what it does not tell of. -/

section Other

variable (reflects : Reflects latch record) {entry : Action × Answer}

include reflects

theorem requested_of_other (other : ∀ handle, entry ≠ (.trigger handle, .done)) :
    latch.requested = true ↔ Record.Triggered (record ++ [entry]) := by
  rw [reflects.requested, Record.triggered_append, or_iff_left]
  rintro ⟨handle, same⟩
  exact other handle same

theorem handles_of_other (unmade : ∀ source handle, entry ≠ (.clone source, .made handle))
    (kept : ∀ handle, entry ≠ (.drop handle, .done)) :
    Tracks latch.handles (Record.MadeHandle (record ++ [entry]))
      (Record.DroppedHandle (record ++ [entry])) := by
  refine reflects.handles.congr (fun handle => ?_) (fun handle => ?_)
  · rw [Record.madeHandle_append, or_iff_left]
    rintro ⟨source, same⟩
    exact unmade source handle same
  · rw [Record.droppedHandle_append, or_iff_left (kept handle)]

theorem signals_of_other (unmade : ∀ source signal, entry ≠ (.subscribe source, .made signal))
    (kept : ∀ signal, entry ≠ (.dropSignal signal, .done)) :
    Tracks latch.signals (Record.MadeSignal (record ++ [entry]))
      (Record.DroppedSignal (record ++ [entry])) := by
  refine reflects.signals.congr (fun signal => ?_) (fun signal => ?_)
  · rw [Record.madeSignal_append, or_iff_left]
    rintro ⟨source, same⟩
    exact unmade source signal same
  · rw [Record.droppedSignal_append, or_iff_left (kept signal)]

theorem counted_of_other (unmade : Record.isSubscription entry = false)
    (kept : Record.isSignalDrop entry = false) :
    latch.liveSignals + Record.signalDrops (record ++ [entry]) =
      Record.subscriptions (record ++ [entry]) := by
  rw [Record.subscriptions_append, Record.signalDrops_append, unmade, kept]
  exact reflects.counted

end Other

/-- An answer without news leaves everything as it was. -/
theorem quiet (reflects : Reflects latch record) (action : Action) {answer : Answer}
    (dull : answer.isNews = false) : Reflects latch (record ++ [(action, answer)]) := by
  cases answer with
  | done => cases dull
  | made name => cases dull
  | gone | flag _ | amount _ | ready | pending =>
    refine ⟨reflects.requested_of_other nofun, reflects.handles_of_other nofun nofun,
      reflects.signals_of_other nofun nofun, reflects.counted_of_other ?_ ?_⟩ <;>
      cases action <;> rfl

theorem cloned (reflects : Reflects latch record) (handle : Nat) :
    Reflects { latch with handles := latch.handles ++ [true] }
      (record ++ [(.clone handle, .made latch.handles.length)]) where
  requested := reflects.requested_of_other nofun
  handles := by
    refine reflects.handles.push.congr (fun name => ?_) (fun name => ?_)
    · simp [Record.madeHandle_append, eq_comm]
    · simp [Record.droppedHandle_append]
  signals := reflects.signals_of_other nofun nofun
  counted := reflects.counted_of_other rfl rfl

theorem subscribed (reflects : Reflects latch record) (handle : Nat) :
    Reflects { latch with signals := latch.signals ++ [true] }
      (record ++ [(.subscribe handle, .made latch.signals.length)]) where
  requested := reflects.requested_of_other nofun
  handles := reflects.handles_of_other nofun nofun
  signals := by
    refine reflects.signals.push.congr (fun name => ?_) (fun name => ?_)
    · simp [Record.madeSignal_append, eq_comm]
    · simp [Record.droppedSignal_append]
  counted := by
    have more := count_push latch.signals
    have counted := reflects.counted
    simp only [liveSignals, Record.subscriptions_append, Record.signalDrops_append,
      Record.isSubscription, Record.isSignalDrop, if_true, Bool.false_eq_true, if_false]
      at counted ⊢
    omega

theorem triggered (reflects : Reflects latch record) (handle : Nat) :
    Reflects { latch with requested := true } (record ++ [(.trigger handle, .done)]) where
  requested := iff_of_true rfl (Record.triggered_append.mpr (Or.inr ⟨handle, rfl⟩))
  handles := reflects.handles_of_other nofun nofun
  signals := reflects.signals_of_other nofun nofun
  counted := reflects.counted_of_other rfl rfl

theorem dropped (reflects : Reflects latch record) {handle : Nat}
    (live : latch.hasHandle handle = true) :
    Reflects { latch with handles := latch.handles.set handle false }
      (record ++ [(.drop handle, .done)]) where
  requested := reflects.requested_of_other nofun
  handles := by
    refine (reflects.handles.erase live).congr (fun name => ?_) (fun name => ?_)
    · simp [Record.madeHandle_append]
    · simp [Record.droppedHandle_append, eq_comm]
  signals := reflects.signals_of_other nofun nofun
  counted := reflects.counted_of_other rfl rfl

theorem signalDropped (reflects : Reflects latch record) {signal : Nat}
    (live : latch.hasSignal signal = true) :
    Reflects { latch with signals := latch.signals.set signal false }
      (record ++ [(.dropSignal signal, .done)]) where
  requested := reflects.requested_of_other nofun
  handles := reflects.handles_of_other nofun nofun
  signals := by
    refine (reflects.signals.erase live).congr (fun name => ?_) (fun name => ?_)
    · simp [Record.madeSignal_append]
    · simp [Record.droppedSignal_append, eq_comm]
  counted := by
    have fewer := count_erase live
    have counted := reflects.counted
    simp only [liveSignals, Record.subscriptions_append, Record.signalDrops_append,
      Record.isSubscription, Record.isSignalDrop, if_true, Bool.false_eq_true, if_false]
      at counted ⊢
    omega

/-- Whatever an action comes to, the latch keeps what it has to. -/
theorem taken (reflects : Reflects latch record) {action : Action} {answer : Answer}
    {next : Shutdown} (taken : latch.Taken action answer next) :
    Reflects next (record ++ [(action, answer)]) := by
  cases taken with
  | gone dead => exact reflects.quiet _ rfl
  | clone live => exact reflects.cloned _
  | subscribe live => exact reflects.subscribed _
  | trigger live => exact reflects.triggered _
  | drop live => exact reflects.dropped live
  | dropSignal live => exact reflects.signalDropped live
  | isTriggered live => exact reflects.quiet _ rfl
  | signalIsTriggered live => exact reflects.quiet _ rfl
  | count live => exact reflects.quiet _ rfl
  | ready live ready => exact reflects.quiet _ rfl
  | pending live unready => exact reflects.quiet _ rfl

theorem admits_iff (reflects : Reflects latch record) (action : Action) :
    latch.admits action = true ↔ record.Admits action := by
  cases action <;> first | exact reflects.hasHandle_iff _ | exact reflects.hasSignal_iff _

theorem hasHandles_iff (reflects : Reflects latch record) :
    latch.hasHandles = true ↔ ∃ handle, record.HasHandle handle :=
  (hasHandles_iff_exists latch).trans (exists_congr reflects.hasHandle_iff)

theorem ready_iff (reflects : Reflects latch record) :
    (latch.requested || !latch.hasHandles) = true ↔ record.Ready := by
  rw [Bool.or_eq_true, reflects.requested, Bool.not_eq_true', ← Bool.not_eq_true,
    reflects.hasHandles_iff, not_exists]
  rfl

/-- A new name is none that was used before. -/
theorem fresh_handle (reflects : Reflects latch record) :
    ¬ record.MadeHandle latch.handles.length := by
  rw [reflects.handles.made_iff]
  exact Nat.lt_irrefl _

theorem fresh_signal (reflects : Reflects latch record) :
    ¬ record.MadeSignal latch.signals.length := by
  rw [reflects.signals.made_iff]
  exact Nat.lt_irrefl _

/-- What the latch has kept is enough to answer as expected. -/
theorem expects (reflects : Reflects latch record) {action : Action} {answer : Answer}
    {next : Shutdown} (taken : latch.Taken action answer next) :
    record.Expects action answer := by
  have handle := fun {name} => (reflects.hasHandle_iff name).mp
  have signal := fun {name} => (reflects.hasSignal_iff name).mp
  cases taken with
  | gone dead => exact .gone fun live => dead ((reflects.admits_iff action).mpr live)
  | clone live => exact .clone (handle live) reflects.fresh_handle
  | subscribe live => exact .subscribe (handle live) reflects.fresh_signal
  | trigger live => exact .trigger (handle live)
  | drop live => exact .drop (handle live)
  | dropSignal live => exact .dropSignal (signal live)
  | isTriggered live => exact .isTriggered (handle live) reflects.requested
  | signalIsTriggered live => exact .signalIsTriggered (signal live) reflects.requested
  | count live => exact .count (handle live) reflects.counted
  | ready live ready => exact .ready (signal live) (reflects.ready_iff.mp ready)
  | pending live unready =>
    exact .pending (signal live) fun ready => unready (reflects.ready_iff.mpr ready)

end Reflects

/-! ## Runs -/

theorem afterAll_append (latch : Shutdown) (before later : List Action) :
    latch.afterAll (before ++ later) = (latch.afterAll before).afterAll later :=
  List.foldl_append

theorem run_append (latch : Shutdown) (before later : List Action) :
    latch.run (before ++ later) = latch.run before ++ (latch.afterAll before).run later := by
  induction before generalizing latch with
  | nil => rfl
  | cons action rest inductionHypothesis =>
    rw [List.cons_append, run, run, inductionHypothesis]
    rfl

theorem length_run (latch : Shutdown) (actions : List Action) :
    (latch.run actions).length = actions.length := by
  induction actions generalizing latch with
  | nil => rfl
  | cons action rest inductionHypothesis =>
    rw [run, List.length_cons, List.length_cons, inductionHypothesis]

theorem record_append (latch : Shutdown) (before later : List Action) :
    latch.record (before ++ later) =
      latch.record before ++ (latch.afterAll before).record later := by
  unfold record
  rw [run_append, List.zip_append (length_run latch before).symm]

theorem Reflects.run {latch : Shutdown} {past : Record} (reflects : Reflects latch past)
    (actions : List Action) :
    Reflects (latch.afterAll actions) (past ++ latch.record actions) := by
  induction actions generalizing latch past with
  | nil =>
    have nothing : latch.record [] = [] := rfl
    rw [nothing, List.append_nil]
    exact reflects
  | cons action rest inductionHypothesis =>
    have later := inductionHypothesis (reflects.taken (latch.taken_step action))
    rw [List.append_assoc] at later
    exact later

theorem reflects_record (actions : List Action) :
    Reflects (Shutdown.initial.afterAll actions) (Shutdown.initial.record actions) :=
  Reflects.initial.run actions

/-! ## Once ready, always ready -/

/-- Whether signals are ready. -/
def isOpen (latch : Shutdown) : Bool := latch.requested || !latch.hasHandles

/-- An action through a handle that is alive is taken by an open latch only if a
shutdown was requested. -/
theorem requested_of_isOpen {latch : Shutdown} {handle : Nat} (opened : latch.isOpen = true)
    (live : latch.hasHandle handle = true) : latch.requested = true := by
  have left : latch.hasHandles = true := (hasHandles_iff_exists latch).mpr ⟨handle, live⟩
  unfold isOpen at opened
  rwa [left, Bool.not_true, Bool.or_false] at opened

theorem isOpen_of_requested {latch : Shutdown} (requested : latch.requested = true) :
    latch.isOpen = true := by
  unfold isOpen
  rw [requested, Bool.true_or]

/-- No action closes a latch.  Handles can only be made or given up through a
handle, and where there still is one it is the request that keeps the latch open. -/
theorem Taken.isOpen {latch next : Shutdown} {action : Action} {answer : Answer}
    (taken : latch.Taken action answer next) (opened : latch.isOpen = true) :
    next.isOpen = true := by
  cases taken with
  -- Only these two change which handles are alive.
  | clone live =>
    have requested : latch.requested = true := requested_of_isOpen opened live
    exact isOpen_of_requested requested
  | drop live =>
    have requested : latch.requested = true := requested_of_isOpen opened live
    exact isOpen_of_requested requested
  | trigger live => exact isOpen_of_requested rfl
  | gone _ | subscribe _ | dropSignal _ | isTriggered _ | signalIsTriggered _ | count _
  | ready _ _ | pending _ _ => exact opened

theorem isOpen_afterAll {latch : Shutdown} (opened : latch.isOpen = true)
    (actions : List Action) : (latch.afterAll actions).isOpen = true := by
  induction actions generalizing latch with
  | nil => exact opened
  | cons action rest inductionHypothesis =>
    exact inductionHypothesis ((latch.taken_step action).isOpen opened)

/-- A signal that is alive is ready exactly if the latch is open. -/
theorem answer_recv_eq_ready_iff (before : List Action) {signal : Nat}
    (live : (initial.record before).HasSignal signal) :
    initial.answer before (.recv signal) = .ready ↔ (initial.afterAll before).isOpen = true := by
  have alive := ((reflects_record before).hasSignal_iff signal).mpr live
  unfold answer
  simp only [step, alive, if_true]
  unfold isOpen
  split
  · exact iff_of_true rfl ‹_›
  · exact iff_of_false (fun same => by cases same) ‹_›

/-! ## The latch -/

/-- Whatever was done before, an action is answered as the record of it tells: in
particular, who asks through a handle or signal that is alive whether a shutdown
was requested is told so exactly if one was, a signal that is alive is ready
exactly if one was or no handle is alive any more, and the signals are counted.
A request stays, whatever is done later, and a signal that is alive then is ready
if there was a request or it was ready before. -/
theorem answers_follow_record (before later : List Action) (action : Action) :
    initial.run (before ++ [action]) = initial.run before ++ [initial.answer before action] ∧
    (initial.record before).Expects action (initial.answer before action) ∧
    ((initial.record before).Triggered → (initial.record (before ++ later)).Triggered) ∧
    ∀ signal, (initial.record (before ++ later)).HasSignal signal →
      (initial.record before).Triggered ∨ initial.answer before (.recv signal) = .ready →
      initial.answer (before ++ later) (.recv signal) = .ready := by
  have reflects := reflects_record before
  refine ⟨run_append initial before [action], reflects.expects (taken_step _ action), ?_, ?_⟩
  · rintro ⟨handle, member⟩
    rw [record_append]
    exact ⟨handle, List.mem_append_left _ member⟩
  · intro signal live cause
    have opened : (initial.afterAll before).isOpen = true := by
      rcases cause with triggered | ready
      · exact isOpen_of_requested (reflects.requested.mpr triggered)
      · have expected := reflects.expects (taken_step _ (.recv signal))
        change (initial.record before).Expects _ (initial.answer before (.recv signal)) at expected
        rw [ready] at expected
        cases expected with
        | ready _ ready => exact reflects.ready_iff.mpr ready
    rw [answer_recv_eq_ready_iff _ live, afterAll_append]
    exact isOpen_afterAll opened later

end Shutdown
end ServiceBeacon
