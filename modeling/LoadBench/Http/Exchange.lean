import LoadBench.Duration
import LoadBench.Json.Basic
import LoadBench.Text.Utf8

namespace LoadBench.Http

open Text.Utf8

inductive Method where
  | get
  | post
  | delete
deriving DecidableEq

structure Request where
  method : Method
  url : String
  body : Option Json
  timeout : Duration

namespace Request

def get (url : String) (timeout : Duration) : Request := ⟨.get, url, none, timeout⟩

def delete (url : String) (timeout : Duration) : Request := ⟨.delete, url, none, timeout⟩

def post (url : String) (body : Json) (timeout : Duration) : Request :=
  ⟨.post, url, some body, timeout⟩

end Request

structure Response where
  status : Nat
  body : Bytes
deriving DecidableEq

def Response.isError (r : Response) : Bool := 400 ≤ r.status

structure TransportFault where
  url : String
  cause : String
deriving DecidableEq

def TransportFault.message (fault : TransportFault) : String :=
  "transport error calling " ++ fault.url ++ ": " ++ fault.cause

abbrev Outcome := Except TransportFault Response

end LoadBench.Http
