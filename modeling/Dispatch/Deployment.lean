import Dispatch.Postgres.Playback
import Dispatch.Postgres.Store
import Dispatch.Redis.Playback
import Dispatch.Script
import Dispatch.Settings

/-!
# Deployments

A deployment keeps its jobs in a database and its ready list on a server of its own.  It starts
only if both can be talked to: the tables are created and each of them is asked for a sign of
life, the database first.  Once it runs, it answers the same calls as a deployment in memory.
-/

namespace Dispatch

/-- Why a deployment does not start. -/
inductive StartupError where
  | store (error : StoreError)
  | queue (error : QueueError)
deriving DecidableEq, Repr

namespace StartupError

/-- What comes before the wording of the cause. -/
def preamble : StartupError → String
  | store _ => "job store: "
  | queue _ => "queue: "

/-- The wording. -/
def message (e : StartupError) : String :=
  e.preamble ++ match e with
    | store cause => cause.message
    | queue cause => cause.message

end StartupError

/-- The two servers of a deployment. -/
structure Deployment where
  database : Postgres.Playback := {}
  server : Redis.Playback := {}
  queue : RedisQueue := {}

namespace Deployment

/-- The deployment that settings ask for, with servers to talk to. -/
def ofSettings (s : Settings) (database : Postgres.Playback) (server : Redis.Playback) :
    Deployment :=
  { database, server, queue := { readyKey := s.readyKey, ttl := s.leaseTtl } }

/-- Talk to the database. -/
def exchange {α : Type} (e : Postgres.Exchange α) (d : Deployment) : α × Deployment :=
  let (a, database) := d.database.run e
  (a, { d with database })

/-- Make a call to the queue. -/
def askQueue (c : QueueCall) (d : Deployment) : c.Reply × Deployment :=
  let (r, server) := d.server.call d.queue c
  (r, { d with server })

/-- What answers the calls of scripts; a job created meanwhile gets the identities at hand. -/
def backend (fresh : FreshIds) : Script.Backend Deployment where
  store c d := d.exchange (Postgres.exchange fresh c)
  queue c d := d.askQueue c

/-- Bring the database up. -/
def startStore (contact : Postgres.Contact) (d : Deployment) :
    Except StoreError Unit × Deployment :=
  match Postgres.connect contact with
  | .error e => (.error e, d)
  | .ok () => d.exchange (Postgres.reported (Postgres.Exchange.andThen Postgres.migrate fun _ =>
      Postgres.ping))

/-- Bring the queue up. -/
def startQueue (reachable : Bool) (d : Deployment) : Except QueueError Unit × Deployment :=
  match Redis.connect reachable with
  | .error e => (.error e, d)
  | .ok () => d.askQueue .ping

/-- Bring everything up. -/
def start (contact : Postgres.Contact) (reachable : Bool) (d : Deployment) :
    Except StartupError Unit × Deployment :=
  match d.startStore contact with
  | (.error e, d) => (.error (.store e), d)
  | (.ok (), d) =>
    let (r, d) := d.startQueue reachable
    (r.mapError .queue, d)

end Deployment

end Dispatch
