import LoadBench.Proofs.Run.Order
import LoadBench.Proofs.Run.Worker

namespace LoadBench

open Http

theorem countP_cons_toNat {α : Type} (p : α → Bool) (x : α) (xs : List α) :
    (x :: xs).countP p = xs.countP p + (p x).toNat := by
  rw [List.countP_cons]
  cases p x <;> rfl

theorem countP_eq_add {α : Type} {p q r : α → Bool} {xs : List α}
    (h : ∀ x ∈ xs, (p x).toNat = (q x).toNat + (r x).toNat) :
    xs.countP p = xs.countP q + xs.countP r := by
  induction xs with
  | nil => rfl
  | cons x rest ih =>
    obtain ⟨first, others⟩ := List.forall_mem_cons.mp h
    simp only [countP_cons_toNat, ih others]
    omega

theorem Landed.record_eq (k : Landed) (collector : Collector) :
    collector.record k.flight.call.kind k.flight.outcome (k.ended - k.started) =
      k.recording.apply collector := by
  simp only [Collector.record, recording]
  cases k.flight.outcome with
  | error fault => rfl
  | ok response => cases h : response.isError <;> simp only [h] <;> rfl

def Flight.exchange (f : Flight) : Sent × Outcome := (f.sent, f.outcome)

namespace Window

def underWay (w : Window) : List Flight := w.waiting.filterMap (·.flight)

def flights (calls : List Landed) (w : Window) : List Flight :=
  calls.map (·.flight) ++ w.underWay

def departure (w : Window) (p : Waiting) (now : Instant) : Flight :=
  ⟨p.worker.next.1, now, w.channel.script.outcome w.channel.served p.worker.next.1.request⟩

def departed (w : Window) (p : Waiting) (now : Instant) : Waiting :=
  (launch p.worker { w.channel with now }).1

theorem departed_flight (w : Window) (p : Waiting) (now : Instant) :
    (w.departed p now).flight = some (w.departure p now) := rfl

theorem departed_time (w : Window) (p : Waiting) (now : Instant) :
    (w.departed p now).time =
      now + (w.channel.script.answer w.channel.served (w.departure p now).call.request).delay := rfl

theorem departure_exchange (w : Window) (p : Waiting) (now : Instant) :
    (w.departure p now).exchange = ((w.departure p now).sent,
      w.channel.script.outcome w.channel.served (w.departure p now).sent.request) := rfl

theorem goOn_waiting (w : Window) (p : Waiting) (rest : List Waiting) (now : Instant) :
    (w.goOn p rest now).waiting.Perm (w.departed p now :: rest) :=
  enqueue_perm now _ rest

theorem mem_goOn {w : Window} {p q : Waiting} {rest : List Waiting} {now : Instant} :
    q ∈ (w.goOn p rest now).waiting ↔ q = w.departed p now ∨ q ∈ rest :=
  (goOn_waiting w p rest now).mem_iff.trans List.mem_cons

theorem goOn_since (w : Window) (p : Waiting) (rest : List Waiting) (now : Instant) :
    w.channel.Since [(w.departure p now).sent] (w.goOn p rest now).channel :=
  ((Channel.Since.refl _).atTime now).trans (Channel.since_send _ _)

theorem land_recordAll (p : Waiting) (now : Instant) (collector : Collector) :
    land p now collector = collector.recordAll ((p.landed now).toList.map (·.recording)) := by
  unfold land Waiting.landed
  cases p.flight with
  | none => rfl
  | some f => exact Landed.record_eq ⟨p.worker.index, f, now⟩ collector

theorem underWay_chosen {w : Window} {p : Waiting} {rest : List Waiting}
    (chosen : w.waiting.Perm (p :: rest)) :
    w.underWay.Perm (p.flight.toList ++ rest.filterMap (·.flight)) := by
  have same := chosen.filterMap (·.flight)
  rw [underWay]
  cases h : p.flight with
  | none => rwa [List.filterMap_cons_none h] at same
  | some f => rwa [List.filterMap_cons_some h] at same

theorem flights_stopped {w : Window} (stopped : w.waiting = []) (calls : List Landed) :
    flights calls w = calls.map (·.flight) := by
  rw [flights, underWay, stopped]
  exact List.append_nil _

theorem landed_flights (p : Waiting) (now : Instant) :
    (p.landed now).toList.map (·.flight) = p.flight.toList := by
  unfold Waiting.landed
  cases p.flight <;> rfl

theorem flights_retire {w : Window} {p : Waiting} {rest : List Waiting}
    (chosen : w.waiting.Perm (p :: rest)) (calls : List Landed) (now : Instant) :
    (flights (calls ++ (p.landed now).toList) (w.retire p rest now)).Perm (flights calls w) := by
  rw [flights, List.map_append, landed_flights, List.append_assoc]
  exact (underWay_chosen chosen).symm.append_left _

theorem flights_goOn {w : Window} {p : Waiting} {rest : List Waiting}
    (chosen : w.waiting.Perm (p :: rest)) (calls : List Landed) (now : Instant) :
    (flights (calls ++ (p.landed now).toList) (w.goOn p rest now)).Perm
      (flights calls w ++ [w.departure p now]) := by
  have after : (w.goOn p rest now).underWay.Perm
      (w.departure p now :: rest.filterMap (·.flight)) :=
    (goOn_waiting w p rest now).filterMap _
  have before := underWay_chosen chosen
  rw [flights, List.map_append, landed_flights, List.append_assoc, flights, List.append_assoc]
  refine List.Perm.append_left _ ?_
  have first : (p.flight.toList ++ (w.goOn p rest now).underWay).Perm
      (w.departure p now :: (p.flight.toList ++ rest.filterMap (·.flight))) :=
    (after.append_left _).trans List.perm_middle
  exact (first.trans (before.symm.cons _)).trans (List.perm_append_singleton _ _).symm

structure Accounted (c : RunConfig) (opened : Channel) (calls : List Landed) (w : Window) :
    Prop where
  config : ∀ p ∈ w.waiting, p.worker.config = c
  proper : ∀ f ∈ flights calls w, f.call.Proper c
  collector : w.collector = Collector.empty.recordAll (calls.map (·.recording))
  forward : opened.now ≤ w.channel.now
  sent : ∃ sent, opened.Since sent w.channel ∧ (∀ s ∈ sent, opened.now ≤ s.time) ∧
    ((flights calls w).map (·.exchange)).Perm (opened.script.exchanges opened.served sent)

theorem opening_accounted (c : RunConfig) (opened : Channel) :
    Accounted c opened [] (opening c opened) := by
  have idle : (opening c opened).underWay = [] := by
    simp [underWay, opening, List.filterMap_map]
  have worker : ∀ p ∈ (opening c opened).waiting, p.worker.config = c := by
    intro p member
    obtain ⟨i, _, rfl⟩ := List.mem_map.mp member
    rfl
  have flights : flights [] (opening c opened) = [] := by rw [Window.flights, idle]; rfl
  refine ⟨worker, ?_, rfl, Nat.le_refl _, [], .refl _, ?_, ?_⟩
  · rw [flights]
    exact fun _ member => (List.not_mem_nil member).elim
  · exact fun _ member => (List.not_mem_nil member).elim
  · rw [flights]
    exact .refl _

theorem Turn.accounted {c : RunConfig} {opened : Channel} {calls : List Landed} {w later : Window}
    {landed : Option Landed} (turn : Turn w landed later) (books : Accounted c opened calls w) :
    Accounted c opened (calls ++ landed.toList) later := by
  obtain ⟨sent, since, times, exchanges⟩ := books.sent
  cases turn with
  | @goOn p rest now chosen answered forward =>
    have config := books.config p (chosen.mem_iff.mpr List.mem_cons_self)
    have proper : (w.departure p now).call.Proper c := config ▸ p.worker.next_proper
    have flights := flights_goOn chosen calls now
    refine ⟨?_, ?_, ?_, Nat.le_trans books.forward forward, sent ++ [(w.departure p now).sent],
      since.trans (goOn_since w p rest now), ?_, ?_⟩
    · intro q member
      rcases mem_goOn.mp member with rfl | member
      · exact config
      · exact books.config q (chosen.mem_iff.mpr (List.mem_cons_of_mem _ member))
    · intro f member
      rcases List.mem_append.mp (flights.mem_iff.mp member) with member | member
      · exact books.proper f member
      · exact List.mem_singleton.mp member ▸ proper
    · rw [List.map_append, ← Collector.recordAll_append, ← books.collector]
      exact land_recordAll p now w.collector
    · intro s member
      rcases List.mem_append.mp member with member | member
      · exact times s member
      · exact List.mem_singleton.mp member ▸ Nat.le_trans books.forward forward
    -- The answer to the new call is settled when it is sent: the next of its route.
    · have whole := flights.map (·.exchange)
      rw [List.map_append, List.map_singleton, departure_exchange, since.script, since.served]
        at whole
      rw [Script.exchanges_append_one]
      exact whole.trans (exchanges.append_right _)
  | @retire p rest now chosen answered forward closed =>
    have flights := flights_retire chosen calls now
    refine ⟨?_, ?_, ?_, Nat.le_trans books.forward forward, sent, ?_, times, ?_⟩
    · exact fun q member => books.config q (chosen.mem_iff.mpr (List.mem_cons_of_mem _ member))
    · exact fun f member => books.proper f (flights.mem_iff.mp member)
    · rw [List.map_append, ← Collector.recordAll_append, ← books.collector]
      exact land_recordAll p now w.collector
    · exact since.atTime now
    · exact (flights.map _).trans exchanges

theorem Reaches.accounted {c : RunConfig} {opened : Channel} {calls : List Landed} {w : Window}
    (h : Reaches Turn (opening c opened) calls w) : Accounted c opened calls w := by
  induction h with
  | here => exact opening_accounted c opened
  | turn _ turn ih => exact turn.accounted ih

theorem Accounted.requests {c : RunConfig} {opened : Channel} {calls : List Landed} {w : Window}
    (books : Accounted c opened calls w) {timed : List Sent}
    (exchanges : ((flights calls w).map (·.exchange)).Perm
      (opened.script.exchanges opened.served timed)) :
    ∀ s ∈ timed, ∃ kind body, s.request = .post (c.operationUrl kind) body c.requestTimeout := by
  intro s member
  rw [← opened.script.map_fst_exchanges opened.served timed] at member
  obtain ⟨exchange, inside, rfl⟩ := List.mem_map.mp member
  obtain ⟨f, flight, rfl⟩ := List.mem_map.mp (exchanges.mem_iff.mpr inside)
  obtain ⟨body, request⟩ := books.proper f flight
  exact ⟨f.call.kind, body, request⟩

theorem Accounted.started {c : RunConfig} {opened : Channel} {calls : List Landed} {w : Window}
    (books : Accounted c opened calls w) : ∀ f ∈ flights calls w, opened.now ≤ f.started := by
  obtain ⟨timed, since, times, exchanges⟩ := books.sent
  intro f member
  have exchange := exchanges.mem_iff.mp (List.mem_map_of_mem (f := (·.exchange)) member)
  have sent := List.mem_map_of_mem (f := (·.1)) exchange
  rw [Script.map_fst_exchanges] at sent
  exact times _ sent

end Window

end LoadBench
