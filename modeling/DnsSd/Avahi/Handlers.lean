import DnsSd.Common.Context

/-!
# Avahi — Handlers

`[dns_sd_avahi.c]`.  The callbacks of the Avahi backend as one machine.  A state holds the
globals the callbacks share (`group`, the batch `ctx`, the simple poll's quit flag) and the
entries of the daemon's current entry group.  An event is one notification from the daemon,
`client_callback` or `entry_group_callback`, together with the daemon's answers to the calls
that callback makes (`Replies`).  A handler runs to completion and returns the new state and
what it did toward the daemon, in order (`Obs`); `none` is no run at all: the answers ran out
before the handler returned, or the handler's `assert` failed and the process aborted.

`avahi_alternative_service_name` is any function `alt`; the daemon's answers are arbitrary.
A handler's `dns_sd_term` runs while the simple poll exists, so it sets the quit flag.
-/

namespace DnsSd.Avahi

open DnsSdService

/-- `AVAHI_OK`. -/
def avahiOk : Int := 0

/-- `AVAHI_ERR_COLLISION`. -/
def avahiErrCollision : Int := -8

/-- `AvahiClientState`. -/
inductive ClientState
  | sRegistering | sRunning | sCollision | failure | connecting
  deriving DecidableEq, Repr

/-- `AvahiEntryGroupState`. -/
inductive EntryGroupState
  | uncommited | registering | established | collision | failure
  deriving DecidableEq, Repr

/-- A notification received or a call made, in the order they happen.  A commit also records
the batch as it is at that moment. -/
inductive Obs
  | client (state : ClientState)
  | group (state : EntryGroupState)
  | groupNew (ok : Bool)
  | groupReset
  | addService (req : Request) (result : Int)
  | commit (entries : List Request) (ctx : Batch) (result : Int)
  | term
  deriving DecidableEq, Repr

/-- The daemon's answers to the calls one handler makes.  `garbage` is what the
uninitialised `result` of `create_services` holds. -/
structure Replies where
  groupNew : Bool
  adds : List Int
  commit : Int
  garbage : Int

/-- The globals of `dns_sd_avahi.c` the callbacks use, and the daemon's current group. -/
structure St where
  group : Option Nat
  nextGroup : Nat
  entries : List Request
  ctx : Batch
  quit : Bool

/-- `dns_sd_term`, from a handler: the simple poll exists and is told to quit. -/
def dnsSdTerm (s : St) : St := { s with quit := true }

/-! ### `create_service` and the slot loop of `create_services` -/

/-- How one `create_service` call ended: its result, the slot under the name it ended on, the
group's entries, the daemon's answers left, and the requests it made. -/
structure Served where
  result : Int
  svc : DnsSdService
  entries : List Request
  rest : List Int
  obs : List Obs

/-- `create_service` for slot `i`: its `do … while` loop, one daemon answer per
`avahi_entry_group_add_service`; on a collision the slot takes `alt` of its name. -/
def createService (alt : Bytes → Bytes) (i : Nat) (svc : DnsSdService) (es : List Request) :
    List Int → Option Served
  | [] => none
  | r :: rs =>
    if r = avahiErrCollision then
      (createService alt i { svc with name := svc.name.map alt } es rs).map fun sv =>
        { sv with obs := .addService (request i svc) r :: sv.obs }
    else
      some ⟨r, svc, if r = avahiOk then es ++ [request i svc] else es, rs,
        [.addService (request i svc) r]⟩

/-- How the slot loop ended: `result` as it left it (`none`: never assigned), the slots it
walked, the group's entries, the answers left, and the requests it made. -/
structure Looped where
  result : Option Int
  slots : Batch
  entries : List Request
  rest : List Int
  obs : List Obs

/-- The slot loop of `create_services` from slot `i`: inert slots are skipped, and the loop
breaks at the first result other than `AVAHI_OK`. -/
def addServices (alt : Bytes → Bytes) :
    Nat → Batch → Option Int → List Request → List Int → Option Looped
  | _, [], res, es, adds => some ⟨res, [], es, adds, []⟩
  | i, svc :: rest, res, es, adds =>
    if svc.port = 0 then
      (addServices alt (i + 1) rest res es adds).map fun l => { l with slots := svc :: l.slots }
    else
      (createService alt i svc es adds).bind fun sv =>
        if sv.result ≠ avahiOk then some ⟨some sv.result, sv.svc :: rest, sv.entries, sv.rest, sv.obs⟩
        else (addServices alt (i + 1) rest (some sv.result) sv.entries sv.rest).map fun l =>
          { l with slots := sv.svc :: l.slots, obs := sv.obs ++ l.obs }

/-! ### The callbacks -/

/-- What `create_services` does once the group is new or reset: if the group is empty, add
every active slot, then commit; `dns_sd_term` on a failed add or a failed commit. -/
def fillGroup (alt : Bytes → Bytes) (r : Replies) (s : St) (obs : List Obs) :
    Option (St × List Obs) :=
  if s.entries = [] then
    (addServices alt 0 s.ctx none s.entries r.adds).map fun l =>
      let s := { s with ctx := l.slots, entries := l.entries }
      if l.result.getD r.garbage ≠ avahiOk then (dnsSdTerm s, obs ++ l.obs ++ [.term])
      else
        let obs := obs ++ l.obs ++ [.commit s.entries s.ctx r.commit]
        if r.commit ≠ avahiOk then (dnsSdTerm s, obs ++ [.term]) else (s, obs)
  else some (s, obs)

/-- `create_services`: a new group the first time (`dns_sd_term` if that fails), a reset one
after. -/
def createServices (alt : Bytes → Bytes) (r : Replies) (s : St) : Option (St × List Obs) :=
  match s.group with
  | none =>
    if r.groupNew then
      let s' := { s with group := some s.nextGroup, nextGroup := s.nextGroup + 1 }
      fillGroup alt r { s' with entries := [] } [.groupNew true]
    else some (dnsSdTerm s, [.groupNew false, .term])
  | some _ => fillGroup alt r { s with entries := [] } [.groupReset]

/-- `rename_all_services`: every slot with a name takes `alt` of it. -/
def renameAllServices (alt : Bytes → Bytes) (ctx : Batch) : Batch :=
  ctx.map fun svc => { svc with name := svc.name.map alt }

/-- `entry_group_callback` for group `g`; `none` when its `assert` fails. -/
def entryGroupCallback (alt : Bytes → Bytes) (g : Nat) (state : EntryGroupState) (r : Replies)
    (s : St) : Option (St × List Obs) :=
  if s.group = some g ∨ s.group = none then
    let s := { s with group := some g }
    match state with
    | .established | .uncommited | .registering => some (s, [])
    | .collision => createServices alt r { s with ctx := renameAllServices alt s.ctx }
    | .failure => some (dnsSdTerm s, [.term])
  else none

/-- `client_callback`. -/
def clientCallback (alt : Bytes → Bytes) (state : ClientState) (r : Replies) (s : St) :
    Option (St × List Obs) :=
  match state with
  | .sRunning => createServices alt r s
  | .failure => some (dnsSdTerm s, [.term])
  | .sCollision | .sRegistering =>
    if s.group.isSome then some ({ s with entries := [] }, [.groupReset]) else some (s, [])
  | .connecting => some (s, [])

/-! ### Runs -/

/-- A notification from the daemon, with its answers to the calls the callback makes. -/
inductive Event
  | client (state : ClientState) (r : Replies)
  | group (g : Nat) (state : EntryGroupState) (r : Replies)

/-- One callback, run to completion; its observations start with the notification. -/
def step (alt : Bytes → Bytes) (s : St) : Event → Option (St × List Obs)
  | .client state r => (clientCallback alt state r s).map fun p => (p.1, .client state :: p.2)
  | .group g state r => (entryGroupCallback alt g state r s).map fun p => (p.1, .group state :: p.2)

/-- A sequence of callbacks, and everything they did, in order. -/
def run (alt : Bytes → Bytes) : St → List Event → Option (St × List Obs)
  | s, [] => some (s, [])
  | s, e :: es => (step alt s e).bind fun p => (run alt p.1 es).map fun q => (q.1, p.2 ++ q.2)

/-- The `avahi_strdup` pass of `dns_sd_announce`: each name is copied into Avahi's allocator;
the copy holds the same bytes. -/
def avahiStrdupPass (ctx : Batch) : Batch := ctx.map fun svc => { svc with name := svc.name.map id }

@[simp] theorem avahiStrdupPass_eq (ctx : Batch) : avahiStrdupPass ctx = ctx := by
  simp [avahiStrdupPass]

/-- The callbacks' state when `dns_sd_announce` has built the batch: no group, no quit. -/
def initial (ctx : Batch) : St := ⟨none, 0, [], avahiStrdupPass ctx, false⟩

end DnsSd.Avahi
