import ChatWarden.Supervision.Supervisor

/-!
# Turns

How tasks get on. A turn runs one of the items that are ready, up to the point where it waits or
ends; nothing else happens during a turn.

Results:
* `Supervisor.turn` runs the item at a place of the queue, so a list of places is an order of
  events; the order first come, first served always takes the first place.
* `Supervisor.settled` runs until nothing is ready.
-/

namespace ChatWarden.Supervision.Supervisor

/-- A task ends: the supervisor and all watches over it will learn of it. -/
def ended (s : Supervisor) (id : TaskId) (ending : Ending) : Supervisor :=
  let watches := (s.tasks[id]?.map (·.watches)).getD []
  let s := s.withTask id fun task => { task with phase := .over ending, acts := [] }
  { s with ready := s.ready ++ .settle id :: watches.map .report }

/-- A task that holds a slot ends: it gives the slot back first. -/
def finished (s : Supervisor) (id : TaskId) (ending : Ending) : Supervisor :=
  s.release.ended id ending

/-- A task that holds a slot is cancelled. -/
def interrupted (s : Supervisor) (id : TaskId) : Supervisor :=
  let survives := (s.tasks[id]?.map (·.survives)).getD false
  (s.marked id "cancelled").finished id (if survives then .completed else .cancelled)

/-- A task that holds a slot waits for an event before it goes on. -/
def sleep (s : Supervisor) (id : TaskId) (event : String) (acts : List Act) : Supervisor :=
  { s.withTask id fun task => { task with acts, phase := .waiting .pending, isDoomed := false } with
    sleepers := s.sleepers ++ [(event, id)] }

/-- A task that holds a slot does what it has to do, until it waits for an event or ends. One that
    is being cancelled goes on behind its next rescue, if it has one. -/
def perform (s : Supervisor) (id : TaskId) : (isCancelled : Bool) → List Act → Supervisor
  | true, [] => s.interrupted id
  | true, .rescue :: rest => s.perform id false rest
  | true, _ :: rest => s.perform id true rest
  | false, [] => s.finished id .completed
  | false, .mark text :: rest => (s.marked id text).perform id false rest
  | false, .markMessage :: rest => (s.markedMessage id).perform id false rest
  | false, .announce event :: rest => (s.announce event).perform id false rest
  | false, .spawn name :: rest => (s.spawn { name, acts := childActs }).perform id false rest
  | false, .fail kind :: _ => s.finished id (.failed kind)
  | false, .giveUp :: rest => s.perform id true rest
  | false, .rescue :: _ => s.finished id .completed
  | false, .await event :: rest =>
    if s.happened.contains event then s.perform id false rest else s.sleep id event rest

/-- A task runs, or goes on to run. -/
def resume (s : Supervisor) (id : TaskId) : Supervisor :=
  s.withTask id fun task => { task with phase := .running }

/-- A task that was given a slot begins. -/
def start (s : Supervisor) (id : TaskId) : Supervisor :=
  { s.resume id with begun := s.begun ++ [id] }

/-- A task waits for a slot. -/
def lineUp (s : Supervisor) (id : TaskId) : Supervisor :=
  { s.withTask id fun task => { task with phase := .queued .pending } with line := s.line ++ [id] }

/-- A task that has not begun takes a slot, or waits for one. -/
def begin (s : Supervisor) (id : TaskId) (acts : List Act) : Supervisor :=
  if s.isFull then s.lineUp id
  else ({ s with free := s.free - 1 }.start id).perform id false acts

/-- A task that waited for a slot leaves the line. If it is cancelled, it gives a slot back that
    it was granted; else it begins, and slots that came free meanwhile go to the next in line. -/
def enter (s : Supervisor) (id : TaskId) (task : Task) (wake : Wake) : Supervisor :=
  let s := { s with line := s.line.erase id }
  if task.isDoomed || wake == .withdrawn then
    (if wake == .withdrawn then s else s.release).ended id .cancelled
  else
    let s := s.start id
    (if s.free == 0 then s else s.wakeNext).perform id false task.acts

/-- A task goes on. -/
def advance (s : Supervisor) (id : TaskId) : Supervisor :=
  match s.tasks[id]? with
  | none => s
  | some task =>
    match task.phase with
    | .fresh => if task.isDoomed then s.ended id .cancelled else s.begin id task.acts
    | .queued wake => s.enter id task wake
    | .waiting wake =>
      let s := { s with sleepers := s.sleepers.filter (·.2 != id) }
      (s.resume id).perform id (task.isDoomed || wake == .withdrawn) task.acts
    | .running | .over _ => s

/-- The supervisor learns of the end of a task: it no longer keeps track of it. One that was
    cancelled is closed, and a failure is counted and written down. -/
def settle (s : Supervisor) (id : TaskId) : Supervisor :=
  let s := { s with tracked := s.tracked.erase id }
  match s.tasks[id]?.bind Task.ending? with
  | some .cancelled => { s with closed := s.closed ++ [id] }
  | some (.failed kind) =>
    { s with failures := s.failures + 1 }.wrote (escaped (s.nameOf id) kind)
  | _ => s

/-- A watch learns of the end of a task; what follows the last one becomes ready. -/
def report (s : Supervisor) (id : WatchId) : Supervisor :=
  match s.watches[id]? with
  | none => s
  | some watch =>
    let s := { s with watches := s.watches.set id { watch with missing := watch.missing - 1 } }
    if watch.missing == 1 then s.soon (.sequel watch.sequel) else s

/-- What follows on a watch. -/
def follow (s : Supervisor) : Sequel → Supervisor
  | .stopped number cancelled =>
    { s with stops := s.stops.set number true }.wrote (stopped cancelled)
  | .join number =>
    if s.tracked.isEmpty then { s with joins := s.joins.set number true }
    else s.watch s.tracked (.join number)

/-- Runs an item. -/
def runItem (s : Supervisor) : Item → Supervisor
  | .advance id => s.advance id
  | .settle id => s.settle id
  | .report watch => s.report watch
  | .sequel sequel => s.follow sequel

/-- Runs the item at a place of the queue. -/
def turn (s : Supervisor) (place : Nat) : Supervisor :=
  match s.ready[place]? with
  | none => s
  | some item => { s with ready := s.ready.eraseIdx place }.runItem item

/-- Runs items first come, first served, at most `turns` of them, up to one that `last` names or
    until nothing is ready. -/
def runUntil (last : Item → Bool) : (turns : Nat) → Supervisor → Supervisor
  | 0, s => s
  | turns + 1, s =>
    match s.ready with
    | [] => s
    | item :: _ => if last item then s.turn 0 else runUntil last turns (s.turn 0)

/-- A number of turns after which nothing can be ready any more: every task takes a turn for each
    of its acts and a few more, every join a few for each task, and acts may spawn short tasks. -/
def maxTurns (s : Supervisor) : Nat :=
  let acts := s.tasks.foldl (fun total task => total + 4 + 8 * task.acts.length) 0
  s.ready.length + (acts + 4) * (s.joins.length + s.watches.length + 4) * 2

/-- Runs until nothing is ready. -/
def settled (s : Supervisor) : Supervisor := s.runUntil (fun _ => false) s.maxTurns

/-- Whether an item completes a shutdown. -/
def Item.completesShutdown : Item → Bool
  | .sequel (.stopped _ _) => true
  | _ => false

/-- Shuts down, and runs until the shutdown is complete. -/
def stoppedDown (s : Supervisor) : Supervisor :=
  if s.tracked.isEmpty then s.shutDown
  else
    let s := s.shutDown
    s.runUntil Item.completesShutdown s.maxTurns

end ChatWarden.Supervision.Supervisor
