import LoadBench.Service

namespace LoadBench

open Http

def Served.after (served : Served) (requests : List Request) : Served :=
  requests.foldl (fun served request => served.add (Route.of request)) served

theorem Served.after_append (served : Served) (xs ys : List Request) :
    served.after (xs ++ ys) = (served.after xs).after ys :=
  List.foldl_append

namespace Script

def answer (script : Script) (served : Served) (request : Request) : Answer :=
  script (Route.of request) (served.count (Route.of request))

def outcome (script : Script) (served : Served) (request : Request) : Outcome :=
  (script.answer served request).outcome request.url

def outcomes (script : Script) : Served → List Request → List Outcome
  | _, [] => []
  | served, request :: rest =>
    script.outcome served request :: outcomes script (served.add (Route.of request)) rest

theorem outcomes_append (script : Script) (served : Served) (xs ys : List Request) :
    script.outcomes served (xs ++ ys) =
      script.outcomes served xs ++ script.outcomes (served.after xs) ys := by
  induction xs generalizing served with
  | nil => rfl
  | cons request rest ih =>
    simp only [List.cons_append, outcomes, ih]
    rfl

theorem length_outcomes (script : Script) (served : Served) (requests : List Request) :
    (script.outcomes served requests).length = requests.length := by
  induction requests generalizing served with
  | nil => rfl
  | cons request rest ih => simp only [outcomes, List.length_cons, ih]

theorem of_mem_outcomes {script : Script} {served : Served} {requests : List Request}
    {outcome : Outcome} (h : outcome ∈ script.outcomes served requests) :
    ∃ served request, outcome = script.outcome served request := by
  induction requests generalizing served with
  | nil => exact (List.not_mem_nil h).elim
  | cons request rest ih =>
    rcases List.mem_cons.mp h with first | later
    · exact ⟨served, request, first⟩
    · exact ih later

def exchanges (script : Script) (served : Served) (sent : List Sent) : List (Sent × Outcome) :=
  sent.zip (script.outcomes served (sent.map (·.request)))

theorem map_fst_exchanges (script : Script) (served : Served) (sent : List Sent) :
    (script.exchanges served sent).map (·.1) = sent := by
  refine List.map_fst_zip (Nat.le_of_eq ?_)
  rw [length_outcomes, List.length_map]

theorem exchanges_append_one (script : Script) (served : Served) (sent : List Sent) (s : Sent) :
    script.exchanges served (sent ++ [s]) =
      script.exchanges served sent ++
        [(s, script.outcome (served.after (sent.map (·.request))) s.request)] := by
  have length : sent.length = (script.outcomes served (sent.map (·.request))).length := by
    rw [length_outcomes, List.length_map]
  rw [exchanges, List.map_append, outcomes_append, List.zip_append length]
  rfl

end Script

namespace Channel

/-- A channel as it is after some requests more. -/
structure Since (ch : Channel) (sent : List Sent) (later : Channel) : Prop where
  script : later.script = ch.script
  served : later.served = ch.served.after (sent.map (·.request))
  log : later.log.toList = ch.log.toList ++ sent

theorem Since.refl (ch : Channel) : Since ch [] ch where
  script := rfl
  served := rfl
  log := (List.append_nil _).symm

theorem Since.trans {a b c : Channel} {xs ys : List Sent} (ab : Since a xs b) (bc : Since b ys c) :
    Since a (xs ++ ys) c where
  script := bc.script.trans ab.script
  served := by rw [bc.served, ab.served, List.map_append, Served.after_append]
  log := by rw [bc.log, ab.log, List.append_assoc]

theorem Since.atTime {a b : Channel} {xs : List Sent} (h : Since a xs b) (now : Instant) :
    Since a xs { b with now } where
  script := h.script
  served := h.served
  log := h.log

theorem since_send (request : Request) (ch : Channel) :
    Since ch [⟨ch.now, request⟩] (ch.send request).2 where
  script := rfl
  served := rfl
  log := Array.toList_push

theorem since_call (request : Request) (ch : Channel) :
    Since ch [⟨ch.now, request⟩] (ch.call request).2 :=
  (since_send request ch).atTime _

theorem call_outcome (request : Request) (ch : Channel) :
    (ch.call request).1 = ch.script.outcome ch.served request := rfl

def callAll (requests : List Request) (ch : Channel) : Channel :=
  requests.foldl (fun ch request => (ch.call request).2) ch

theorem since_callAll (requests : List Request) (ch : Channel) :
    ∃ sent, sent.map (·.request) = requests ∧ Since ch sent (ch.callAll requests) := by
  induction requests generalizing ch with
  | nil => exact ⟨[], rfl, .refl ch⟩
  | cons request rest ih =>
    obtain ⟨sent, requests, since⟩ := ih (ch.call request).2
    refine ⟨⟨ch.now, request⟩ :: sent, ?_, (since_call request ch).trans since⟩
    rw [List.map_cons, requests]

end Channel

end LoadBench
