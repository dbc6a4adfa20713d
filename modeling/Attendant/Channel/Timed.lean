import Attendant.Channel

/-!
# A channel under a clock

A channel together with the time and the state of its worker, which is joined to it by pipes in memory. Time stands still
while anyone can move; then it goes on to the next moment at which something is due. `Timed.advance` lets a span of time
pass, `Timed.await` lets it pass until a caller has its outcome.
-/

namespace Attendant.Channel

/-- A channel, the time, and the state of the worker. -/
structure Timed where
  now : Nat := 0
  status : Watched Status
  channel : Channel := { toWorker := .empty Pipe.inMemory, fromWorker := .empty Pipe.inMemory }
  deriving Repr

namespace Timed

/-- More steps than can follow each other while time stands still. -/
private def fuel (t : Timed) : Nat :=
  let c := t.channel
  64 + 16 * c.callers.length + 4 * c.fromWorker.bytes.length + 8 * c.mailbox.items.length

/-- Lets everyone move until nobody can. -/
def settle (t : Timed) : Timed :=
  let (status, channel) := t.channel.settle t.now t.fuel t.status
  { t with status, channel }

/-- Starts a caller and lets everyone move. -/
def enter (t : Timed) (job : Job) : Timed × Nat :=
  let (channel, key) := t.channel.enter job
  ({ t with channel }.settle, key)

/-- Goes from one due moment to the next until a time is reached. -/
private def advanceTo (stop : Nat) : Nat → Timed → Timed
  | 0, t => { t with now := stop }
  | rounds + 1, t =>
    match t.channel.nextDeadline? with
    | some due => if due ≤ stop then advanceTo stop rounds { t with now := max t.now due }.settle else { t with now := stop }
    | none => { t with now := stop }

/-- Lets a span of time pass. -/
def advance (t : Timed) (d : Duration) : Timed :=
  (advanceTo (t.now + d.nanos) (t.channel.callers.length + 1) t).settle

private def awaitRounds (key : Nat) : Nat → Timed → Timed
  | 0, t => t
  | rounds + 1, t =>
    match t.channel.stage? key with
    | none => t
    | some stage =>
      if stage.isOver then t
      else match t.channel.nextDeadline? with
        | some due => awaitRounds key rounds { t with now := max t.now due }.settle
        | none => t

/-- Lets time pass until a caller has come to its end. -/
def await (t : Timed) (key : Nat) : Timed := awaitRounds key (t.channel.callers.length + 1) t

private def hearRounds : Nat → Timed → List UInt8 → Timed × List UInt8
  | 0, t, bytes => (t, bytes)
  | rounds + 1, t, bytes =>
    if bytes.isEmpty || !t.channel.fromWorker.hasReader then (t, bytes)
    else
      let (fromWorker, rest) := t.channel.fromWorker.write bytes
      let t := { t with channel := { t.channel with fromWorker } }.settle
      if rest.length = bytes.length then (t, rest) else hearRounds rounds t rest

/-- The worker writes bytes; those that do not get through come back. -/
def hear (t : Timed) (bytes : List UInt8) : Timed × List UInt8 := hearRounds (bytes.length + 1) t bytes

/-- The worker reads all that has been written to it. -/
def overhear (t : Timed) : List UInt8 × Timed :=
  let (bytes, toWorker) := t.channel.toWorker.drain
  (bytes, { t with channel := { t.channel with toWorker } }.settle)

/-- The worker closes its output. -/
def endOutput (t : Timed) : Timed :=
  { t with channel := { t.channel with fromWorker := t.channel.fromWorker.closeWriter } }.settle

/-- The worker closes its input. -/
def endInput (t : Timed) : Timed :=
  { t with channel := { t.channel with toWorker := t.channel.toWorker.closeReader } }.settle

end Timed

end Attendant.Channel
