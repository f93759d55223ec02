import LoadBench.Http.Exchange

namespace LoadBench

open Http Text.Utf8

inductive Route where
  | get
  | delete
  | batch
  | search
  | insert
  | create
deriving DecidableEq

/-- The route of a request: its method and, for a POST, the end of its URL. -/
def Route.of (request : Request) : Route :=
  match request.method with
  | .get => .get
  | .delete => .delete
  | .post =>
    if request.url.endsWith "/vectors/batch" then .batch
    else if request.url.endsWith "/search" then .search
    else if request.url.endsWith "/vectors" then .insert
    else .create

structure Answer where
  delay : Duration
  reply : Except String Response

def Answer.outcome (answer : Answer) (url : String) : Outcome :=
  match answer.reply with
  | .ok response => .ok response
  | .error cause => .error ⟨url, cause⟩

def Answer.default : Answer := ⟨0, .ok ⟨200, encode "\x7b\x7d"⟩⟩

/-- The answer to the n-th request of a route. -/
abbrev Script := Route → Nat → Answer

namespace Script

def ofArrays (answers : Route → Array Answer) : Script := fun route n =>
  let script := answers route
  (script[min n (script.size - 1)]?).getD Answer.default

def unreachable (cause : String) : Script := fun _ _ => ⟨0, .error cause⟩

end Script

structure Served where
  get : Nat
  delete : Nat
  batch : Nat
  search : Nat
  insert : Nat
  create : Nat
deriving DecidableEq

namespace Served

def none : Served := ⟨0, 0, 0, 0, 0, 0⟩

def count (served : Served) : Route → Nat
  | .get => served.get
  | .delete => served.delete
  | .batch => served.batch
  | .search => served.search
  | .insert => served.insert
  | .create => served.create

def add (served : Served) : Route → Served
  | .get => { served with get := served.get + 1 }
  | .delete => { served with delete := served.delete + 1 }
  | .batch => { served with batch := served.batch + 1 }
  | .search => { served with search := served.search + 1 }
  | .insert => { served with insert := served.insert + 1 }
  | .create => { served with create := served.create + 1 }

end Served

structure Sent where
  time : Instant
  request : Request

/-- The clock, the requests sent so far, and how far the script of each route has come. -/
structure Channel where
  script : Script
  served : Served
  now : Instant
  log : Array Sent

namespace Channel

def ofScript (script : Script) : Channel := ⟨script, Served.none, 0, #[]⟩

def send (request : Request) (ch : Channel) : Answer × Channel :=
  let route := Route.of request
  (ch.script route (ch.served.count route),
    { ch with served := ch.served.add route, log := ch.log.push ⟨ch.now, request⟩ })

def wait (d : Duration) (ch : Channel) : Channel := { ch with now := ch.now + d }

def call (request : Request) (ch : Channel) : Outcome × Channel :=
  let (answer, ch) := ch.send request
  (answer.outcome request.url, ch.wait answer.delay)

end Channel

end LoadBench
