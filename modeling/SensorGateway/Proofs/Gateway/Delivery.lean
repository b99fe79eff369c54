import Mathlib.Data.List.Infix
import Mathlib.Order.Bounds.Basic
import SensorGateway.Proofs.Bus.Unread
import SensorGateway.Proofs.Gateway.Submission
import SensorGateway.Repository.Memory

/-!
Delivery from one end to the other. A gateway publishes to a bus, and a subscription attends.
The payloads in transit to it are those it has to read and, behind them, those in the buffer.
An action at most accepts payloads at the back and lets the subscription receive from the
front, so along a run all that is accepted is received once and in order.
-/

namespace SensorGateway

namespace Gateway

variable {ρ : Type} {g g' : Gateway ρ} {sub window : Nat}

/-- The payloads that a subscription has yet to receive. -/
def inTransit (g : Gateway ρ) (sub : Nat) : List String :=
  (g.publisher.unread sub).flatMap Batch.payloads ++ g.buffer.contents

/-- The gateway publishes to a bus with a window of this size, where a subscription attends. -/
def Attended (g : Gateway ρ) (sub window : Nat) : Prop :=
  ∃ bus : Bus, g.publisher = .bus bus ∧ bus.Attends sub ∧ bus.window = window

/-- Whether an action keeps a subscription and takes nothing past the buffer or out of it but
by flushing. -/
def Action.LeavesOpen (sub : Nat) : Action ρ → Prop
  | .buffer .drain => False
  | .outlet action => action.LeavesOpen sub
  | _ => True

/-- A subscription that attends receives some batches while the gateway accepts payloads:
what was in transit and what is accepted is what is received and what is in transit
afterwards. -/
structure Passes (g g' : Gateway ρ) (sub window : Nat) (accepted : List String)
    (received : List Batch) : Prop where
  attended : g'.Attended sub window
  payloads : g.inTransit sub ++ accepted =
    received.flatMap Batch.payloads ++ g'.inTransit sub

theorem Passes.refl (h : g.Attended sub window) : Passes g g sub window [] [] :=
  ⟨h, by simp⟩

theorem Passes.trans {g'' : Gateway ρ} {accepted accepted' : List String}
    {received received' : List Batch} (h : Passes g g' sub window accepted received)
    (h' : Passes g' g'' sub window accepted' received') :
    Passes g g'' sub window (accepted ++ accepted') (received ++ received') where
  attended := h'.attended
  payloads := by
    rw [← List.append_assoc, h.payloads, List.append_assoc, h'.payloads, List.flatMap_append,
      List.append_assoc]

/-- While nothing happens to the bus, payloads at most enter the buffer. -/
theorem Attended.passes (h : g.Attended sub window) (hpublisher : g'.publisher = g.publisher)
    {accepted : List String} (hbuffer : Buffer.Exchange g.buffer g'.buffer accepted []) :
    Passes g g' sub window accepted [] where
  attended := by
    rw [Attended, hpublisher]
    exact h
  payloads := by
    have hcontents := hbuffer.contents
    simp only [List.flatten_nil, List.nil_append] at hcontents
    simp [inTransit, hpublisher, hcontents]

/-- What leaves the buffer as batches is passed on by the bus. -/
theorem passes_of_serves {bus bus' : Bus} {sent received : List Batch}
    (hbus : g.publisher = .bus bus) (hbus' : g'.publisher = .bus bus')
    (hwindow : bus.window = window) (hserves : bus.Serves bus' sub sent received)
    (hbuffer : g.buffer.contents = sent.flatMap Batch.payloads ++ g'.buffer.contents) :
    Passes g g' sub window [] received where
  attended := ⟨bus', hbus', hserves.attends, hserves.window.trans hwindow⟩
  payloads := by
    have hunread := congrArg (List.flatMap Batch.payloads) hserves.batches
    rw [List.flatMap_append, List.flatMap_append] at hunread
    rw [List.append_nil, inTransit, hbus, hbuffer, ← List.append_assoc, Publisher.unread, hunread,
      List.append_assoc, inTransit, hbus']
    rfl

/-! ### Flushing -/

theorem passes_process (h : g.Attended sub window)
    (hpace : (g.onBuffer .process).2.publisher.backlog sub ≤ window) :
    Passes g (g.onBuffer .process).2 sub window [] [] := by
  obtain ⟨bus, hbus, hattends, hwindow⟩ := id h
  by_cases hempty : g.buffer.contents = []
  · simp only [onBuffer, Buffer.step, Buffer.process_of_nil hempty]
    exact .refl h
  · obtain ⟨-, hbuffer, hpublisher, -⟩ := Buffer.process_of_ne_nil hempty g.toOutlet
    have hpublished : (g.onBuffer .process).2.publisher =
        .bus (bus.publish g.clock.now g.buffer.contents).2 := by
      simp only [onBuffer, Buffer.step, hpublisher, hbus, Publisher.publish]
    rw [hpublished, ← hwindow] at hpace
    have hserves := Bus.serves_publish hattends g.clock.now g.buffer.contents hpace
    refine passes_of_serves hbus hpublished hwindow hserves ?_
    simp [onBuffer, Buffer.step, hbuffer, Buffer.contents]

/-- While a subscription attends, a buffer with payloads in it is flushed without fail. -/
theorem answer_process (h : g.Attended sub window) (hsome : g.buffer.contents ≠ []) :
    (g.onBuffer .process).1 = .processed (.ok g.buffer.size) := by
  obtain ⟨bus, hbus, hattends, -⟩ := h
  obtain ⟨hanswer, -, -, -⟩ := Buffer.process_of_ne_nil hsome g.toOutlet
  simp only [onBuffer, Buffer.step, hanswer, hbus, Publisher.publish,
    Bus.publish_of_some hattends.subscribers_ne_zero, Buffer.answerFor, Buffer.length_contents]

/-! ### Actions -/

section Runs

variable [Directory ρ] {action : Action ρ} {actions : List (Action ρ)}

def received (sub : Nat) (g : Gateway ρ) (action : Action ρ) : List Batch :=
  match action, (g.step action).1 with
  | .outlet action, .outlet reply => action.received sub reply
  | _, _ => []

omit [Directory ρ] in
theorem passes_outlet (h : g.Attended sub window) {action : Outlet.Action}
    (hopen : action.LeavesOpen sub) :
    Passes g (g.onOutlet action).2 sub window []
      (action.received sub (g.toOutlet.step action).1) := by
  obtain ⟨bus, hbus, hattends, hwindow⟩ := h
  obtain ⟨bus', hbus', hserves⟩ := Outlet.serves_step hbus hattends hopen
  exact passes_of_serves hbus hbus' hwindow hserves rfl

/-- No action touches the publisher but a flush and what is done at the outlet. -/
theorem publisher_step (g : Gateway ρ) (action : Action ρ)
    (hflush : action ≠ .buffer .process) (houtlet : ∀ a, action ≠ .outlet a) :
    (g.step action).2.publisher = g.publisher := by
  cases action with
  | cache op =>
      obtain ⟨metrics, h⟩ := perform_snd g op
      exact congrArg (·.publisher) h
  | sweep =>
      obtain ⟨metrics, h⟩ := sweep_snd g
      exact congrArg (·.publisher) h
  | reloadAll => exact (reloaded_reloadAll g).publisher
  | reloadSensors ids => exact (reloaded_reloadSensors g ids).publisher
  | reloadSensor sensor => exact (reloaded_reloadSensor g sensor).publisher
  | submit m =>
      obtain ⟨buffer, metrics, h⟩ := admitOne_snd g.readClock.2 g.clock.now m
      exact congrArg (·.publisher) h
  | submitDocument payload =>
      rcases submitDocument_cases g payload with ⟨m, -, hcase⟩ | ⟨e, -, hcase⟩
      · obtain ⟨buffer, metrics, h⟩ := admitOne_snd g.readClock.2 g.clock.now m
        simp only [step, Prod.map_snd, id, hcase]
        exact congrArg (·.publisher) h
      · simp only [step, Prod.map_snd, id, hcase]
  | submitBatch ms =>
      obtain ⟨buffer, metrics, h⟩ := admitAll_snd g.readClock.2 g.clock.now ms
      exact congrArg (·.publisher) h
  | buffer action =>
      cases action with
      | process => exact absurd rfl hflush
      | _ => rfl
  | outlet action => exact absurd rfl (houtlet action)
  | _ => rfl

theorem passes_step (h : g.Attended sub window) (hopen : action.LeavesOpen sub)
    (hpace : (g.step action).2.publisher.backlog sub ≤ window) :
    Passes g (g.step action).2 sub window (g.accepted action) (g.received sub action) := by
  cases action with
  | outlet action => exact passes_outlet h hopen
  | buffer action =>
      cases action with
      | process => exact passes_process h hpace
      | drain => exact hopen.elim
      | _ => exact h.passes (publisher_step g _ (by simp) (by simp)) (exchange_step g _)
  | _ => exact h.passes (publisher_step g _ (by simp) (by simp)) (exchange_step g _)

theorem passes_run (h : g.Attended sub window)
    (hopen : ∀ action ∈ actions, action.LeavesOpen sub)
    (hpace : ∀ before, before <+: actions → (g.run before).publisher.backlog sub ≤ window) :
    Passes g (g.run actions) sub window (g.along accepted actions)
      (g.along (received sub) actions) := by
  induction actions generalizing g with
  | nil => exact .refl h
  | cons action actions ih =>
      have hnow : (g.step action).2.publisher.backlog sub ≤ window :=
        hpace [action] (List.prefix_append [action] actions)
      have hstep := passes_step h (hopen action List.mem_cons_self) hnow
      refine hstep.trans (ih hstep.attended ?_ ?_)
      · intro later hlater
        exact hopen later (List.mem_cons_of_mem _ hlater)
      · intro before hbefore
        exact hpace (action :: before) (List.cons_prefix_cons.2 ⟨rfl, hbefore⟩)

/-- A subscription is made while the buffer is empty, and it is kept. Its backlog stays within
the window of the bus, nothing is drained but by flushing and nothing published besides. Then
at every point, the payloads of the batches that it received, of those it has to read and those
in the buffer are, in this order, the ones accepted since, and a flush does not fail. -/
theorem delivered_in_order {bus : Bus} (hbus : g.publisher = .bus bus)
    (hempty : g.buffer.contents = [])
    (hwindow : IsLeast {n | n.isPowerOfTwo ∧ bus.capacity ≤ n} window)
    (hopen : ∀ action ∈ actions, action.LeavesOpen bus.cursors.length)
    (hpace : ∀ before, before <+: actions →
      ((g.step (.outlet .subscribe)).2.run before).publisher.backlog bus.cursors.length ≤
        window) :
    let first := (g.step (.outlet .subscribe)).2
    let sub := bus.cursors.length
    ∀ before, before <+: actions →
      let last := first.run before
      let batches := first.along (received sub) before ++ last.publisher.unread sub
      batches.flatMap Batch.payloads ++ last.buffer.contents = first.along accepted before ∧
        (last.buffer.contents ≠ [] →
          (last.onBuffer .process).1 = .processed (.ok last.buffer.size)) := by
  intro first sub before hbefore last batches
  have hpublisher : first.publisher = .bus bus.subscribe := by
    simp only [first, step, onOutlet, Outlet.step, hbus, Publisher.onBus]
    rfl
  obtain ⟨hattends, hunread⟩ := bus.attends_subscribe
  have hattended : first.Attended sub window :=
    ⟨bus.subscribe, hpublisher, hattends, bus.window_isLeast.unique hwindow⟩
  -- so what is in transit later on is what was accepted since and not yet received
  have hnothing : first.inTransit sub = [] := by
    have hbuffer : first.buffer.contents = [] := hempty
    simp [inTransit, hpublisher, hbuffer, Publisher.unread, sub, hunread]
  obtain ⟨hlast, hpayloads⟩ := passes_run hattended
    (fun action haction => hopen action (hbefore.subset haction))
    (fun earlier hearlier => hpace earlier (hearlier.trans hbefore))
  refine ⟨?_, answer_process hlast⟩
  rw [hnothing, List.nil_append] at hpayloads
  rw [List.flatMap_append, List.append_assoc, hpayloads]
  rfl

end Runs

/-- The bus of `fourBatchSample`. For its capacity it keeps four batches. -/
def fourBatchBus : Bus :=
  ⟨"bulk", 3, 0, 0, [], [], false⟩

def fourBatchSample : Gateway Memory :=
  .start { clock := { time := 5, tick := 1 }, publisher := .bus fourBatchBus } {} {} {} {}

/-- As many batches are published as the bus keeps; one is received and one more published. -/
def fullWindowRun : List (Action Memory) :=
  ["a", "b", "c", "d"].flatMap (fun payload => [.buffer (.push payload), .buffer .process]) ++
    [.outlet (.tryReceive 0), .outlet .subscribe, .buffer (.push "e"), .buffer .process,
      .outlet (.unsubscribe 1), .outlet (.nextInStream 0), .buffer (.push "f")]

theorem delivered_in_order_fullWindowRun :
    (∀ before, before <+: fullWindowRun →
        ((fourBatchSample.step (.outlet .subscribe)).2.run before).publisher.backlog 0 ≤ 4) ∧
      let first := (fourBatchSample.step (.outlet .subscribe)).2
      let last := first.run fullWindowRun
      (first.along (received 0) fullWindowRun).map Batch.payloads = [["a"], ["b"]] ∧
        (first.along (received 0) fullWindowRun ++ last.publisher.unread 0).flatMap
          Batch.payloads ++ last.buffer.contents = ["a", "b", "c", "d", "e", "f"] := by
  have hwindow : IsLeast {n | n.isPowerOfTwo ∧ fourBatchBus.capacity ≤ n} 4 :=
    fourBatchBus.window_isLeast
  have hopen : ∀ action ∈ fullWindowRun, action.LeavesOpen 0 := by
    simp [fullWindowRun, Action.LeavesOpen, Outlet.Action.LeavesOpen]
  have hpace : ∀ before ∈ fullWindowRun.inits,
      ((fourBatchSample.step (.outlet .subscribe)).2.run before).publisher.backlog 0 ≤ 4 := by
    decide +kernel
  have hpace' := fun before (hbefore : before <+: fullWindowRun) =>
    hpace before ((List.mem_inits _ _).2 hbefore)
  obtain ⟨hdelivered, -⟩ := delivered_in_order rfl rfl hwindow hopen hpace' fullWindowRun
    (List.prefix_refl _)
  refine ⟨hpace', ?_, hdelivered.trans ?_⟩
  · decide +kernel
  · decide +kernel

end Gateway

end SensorGateway
