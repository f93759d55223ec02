import LoadBench.Config.Source
import LoadBench.Http.Exchange

namespace LoadBench

open Text

inductive RunFault where
  | create (status : Nat) (body : String)
  | prefill (status : Nat) (body : String)
  | transport (fault : Http.TransportFault)
  | invalid (fault : RunConfig.Fault)
  | worker (index : Nat) (cause : String)
  | io (fault : IoFault)

namespace RunFault

def invalidMessage (message : String) : String := "invalid benchmark config: " ++ message

def ofCreate (r : Http.Response) : RunFault := create r.status (Utf8.decodeLossy r.body)

def ofPrefill (r : Http.Response) : RunFault := prefill r.status (Utf8.decodeLossy r.body)

def responseText (status : Nat) (body : String) : String := Numeral.toString status ++ " " ++ body

def message : RunFault → String
  | .create status body => "create collection failed: " ++ responseText status body
  | .prefill status body => "prefill failed: " ++ responseText status body
  | .transport fault => fault.message
  | .invalid fault => invalidMessage (ConfigError.run fault).message
  | .worker index cause => "worker " ++ Numeral.toString index ++ " failed: " ++ cause
  | .io fault => "I/O error: " ++ fault.message

end RunFault

end LoadBench
