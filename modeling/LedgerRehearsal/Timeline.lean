import LedgerRehearsal.Run

/-!
A clock without waiting. Time stands still except while a run sleeps, and then it jumps to the end
of the sleep. A stop signal goes with it: it has a value and a version that every setting raises,
until its owner drops it; settings and the drop may be planned for a time.

A sleep ends before what is planned for the same instant. What is due by then is delivered when the
run sleeps again, before that sleep begins.
-/

namespace LedgerRehearsal

/-- What the owner of the stop signal does. -/
inductive Signal where
  | set (value : Bool)
  | drop
deriving DecidableEq, Repr

/-- The stop signal. -/
structure Channel where
  value : Bool
  version : Nat
  isOpen : Bool
deriving DecidableEq, Repr

namespace Channel

def initial : Channel := ⟨false, 0, true⟩

/-- A signal that was dropped takes no more settings. -/
def deliver (channel : Channel) (signal : Signal) : Channel :=
  if channel.isOpen then
    match signal with
    | .set value => { channel with value, version := channel.version + 1 }
    | .drop => { channel with isOpen := false }
  else channel

/-- What a rest that has seen a version is woken by at once. -/
def wake? (channel : Channel) (seen : Nat) : Option Wake :=
  if channel.version ≠ seen then some (.changed channel.version)
  else if channel.isOpen then none
  else some .closed

end Channel

structure Timeline where
  now : Duration
  channel : Channel
  /-- What will be done with the stop signal, in order of time. -/
  plan : List (Duration × Signal)
deriving DecidableEq, Repr

namespace Timeline

/-- Puts a signal behind those that are planned no later. -/
def insertAt (time : Duration) (signal : Signal) : List (Duration × Signal) → List (Duration × Signal)
  | [] => [(time, signal)]
  | planned :: rest =>
    if planned.1.nanos ≤ time.nanos then planned :: insertAt time signal rest
    else (time, signal) :: planned :: rest

/-- A clock at zero. Signals without a time have been given already. -/
def start (signals : List (Option Duration × Signal)) : Timeline :=
  ⟨⟨0⟩,
    (signals.filter fun signal => signal.1.isNone).foldl
      (fun channel signal => channel.deliver signal.2) .initial,
    signals.foldl
      (fun plan signal => match signal.1 with
        | some time => insertAt time signal.2 plan
        | none => plan) []⟩

/-- Delivers what is planned up to the present time. -/
def deliverDue (timeline : Timeline) : Timeline :=
  let due := timeline.plan.takeWhile fun planned => planned.1.nanos ≤ timeline.now.nanos
  { timeline with
    channel := due.foldl (fun channel planned => channel.deliver planned.2) timeline.channel
    plan := timeline.plan.drop due.length }

/-- Sleeps to the end and delivers on the way what is planned before it. -/
def sleep (timeline : Timeline) (length : Duration) : Timeline :=
  let wakeTime := timeline.now.plus length
  let timeline := timeline.deliverDue
  let due := timeline.plan.takeWhile fun planned => planned.1.nanos < wakeTime.nanos
  { now := wakeTime
    channel := due.foldl (fun channel planned => channel.deliver planned.2) timeline.channel
    plan := timeline.plan.drop due.length }

/-- The time of what is planned next, if it comes before the end of a sleep. -/
def interruption? (timeline : Timeline) (wakeTime : Duration) : Option Duration :=
  match timeline.plan with
  | (time, _) :: _ => if time.nanos < wakeTime.nanos then some time else none
  | [] => none

/-- Rests until the end of the sleep or until the stop signal is not as it was seen. -/
def rest (timeline : Timeline) (length : Duration) (seen : Nat) : Wake × Timeline :=
  match timeline.channel.wake? seen with
  | some wake => (wake, timeline)
  | none =>
    let timeline := timeline.deliverDue
    match timeline.channel.wake? seen with
    | some wake => (wake, timeline)
    | none =>
      let wakeTime := timeline.now.plus length
      match timeline.interruption? wakeTime with
      | none => (.timeUp, { timeline with now := wakeTime })
      | some time =>
        let timeline := ({ timeline with now := time }).deliverDue
        ((timeline.channel.wake? seen).getD .timeUp, timeline)

end Timeline

end LedgerRehearsal
