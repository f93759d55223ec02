import LoadBench.Proofs.Run.Stream
import LoadBench.Proofs.Run.Timeline

namespace LoadBench

open Http

namespace Window

def pending (i : Nat) (queue : List Waiting) : List Sent :=
  (queue.filter (·.worker.index = i)).filterMap (·.flight.map (·.sent))

def sentBy (i : Nat) (calls : List Landed) (w : Window) : List Sent :=
  (callsOf i calls).map (·.flight.sent) ++ pending i w.waiting

variable {c : RunConfig} {opened : Channel} {calls : List Landed} {w later : Window} {p : Waiting}
  {rest : List Waiting}

theorem pending_eq_nil {i : Nat} {queue : List Waiting}
    (absent : i ∉ queue.map (·.worker.index)) : pending i queue = [] := by
  have nobody : queue.filter (·.worker.index = i) = [] := by
    refine List.filter_eq_nil_iff.mpr fun q member own => ?_
    exact absent (List.mem_map.mpr ⟨q, member, of_decide_eq_true own⟩)
  rw [pending, nobody]
  rfl

theorem pending_perm {xs ys : List Waiting} (perm : xs.Perm ys)
    (distinct : (xs.map (·.worker.index)).Nodup) (i : Nat) : pending i xs = pending i ys := by
  have same := perm.filter (·.worker.index = i)
  have copies : (xs.filter (·.worker.index = i)).map (·.worker.index) =
      List.replicate (xs.filter (·.worker.index = i)).length i := by
    refine List.eq_replicate_iff.mpr ⟨List.length_map _, fun j member => ?_⟩
    obtain ⟨q, inside, rfl⟩ := List.mem_map.mp member
    exact of_decide_eq_true (List.mem_filter.mp inside).2
  have single : (xs.filter (·.worker.index = i)).length ≤ 1 := by
    have apart := distinct.sublist ((List.filter_sublist (p := (·.worker.index = i))).map _)
    rw [copies] at apart
    exact List.nodup_replicate.mp apart
  -- At most one worker has the index, so the order of the others does not matter.
  rw [pending, pending]
  congr 1
  rcases h : xs.filter (·.worker.index = i) with _ | ⟨q, more⟩
  · rw [h] at same
    exact h.trans same.nil_eq
  · rw [h] at same single
    have last : more = [] :=
      List.length_eq_zero_iff.mp (Nat.le_zero.mp (Nat.le_of_succ_le_succ single))
    subst last
    exact h.trans same.singleton_eq

theorem pending_cons (i : Nat) (q : Waiting) (queue : List Waiting) :
    pending i (q :: queue) =
      (if q.worker.index = i then (q.flight.map (·.sent)).toList else []) ++ pending i queue := by
  by_cases own : q.worker.index = i
  · rw [pending, List.filter_cons_of_pos (by simpa using own), if_pos own]
    cases h : q.flight <;> simp [pending, h]
  · rw [pending, List.filter_cons_of_neg (by simpa using own), if_neg own]
    rfl

theorem callsOf_sent (i : Nat) (calls : List Landed) (p : Waiting) (now : Instant) :
    (callsOf i (calls ++ (p.landed now).toList)).map (·.flight.sent) =
      (callsOf i calls).map (·.flight.sent) ++
        if p.worker.index = i then (p.flight.map (·.sent)).toList else [] := by
  by_cases own : p.worker.index = i
  · subst own
    cases flight : p.flight with
    | none => simp [Waiting.landed, flight]
    | some f => simp [callsOf_landed flight]
  · rw [callsOf_landed_ne own, if_neg own, List.append_nil]

theorem sentBy_retire (chosen : w.waiting.Perm (p :: rest)) (distinct : w.running.Nodup)
    (calls : List Landed) (now : Instant) (i : Nat) :
    sentBy i (calls ++ (p.landed now).toList) (w.retire p rest now) = sentBy i calls w := by
  have before := pending_perm chosen distinct i
  rw [sentBy, callsOf_sent, sentBy, before, pending_cons, List.append_assoc]
  rfl

theorem sentBy_goOn (chosen : w.waiting.Perm (p :: rest)) (distinct : w.running.Nodup)
    (calls : List Landed) (now : Instant) (i : Nat) :
    sentBy i (calls ++ (p.landed now).toList) (w.goOn p rest now) =
      sentBy i calls w ++ if p.worker.index = i then [(w.departure p now).sent] else [] := by
  have apart := (running_chosen chosen).nodup_iff.mp distinct
  have departed : (w.departed p now).worker.index = p.worker.index := rfl
  have after : pending i (w.goOn p rest now).waiting = pending i (w.departed p now :: rest) := by
    refine (pending_perm (goOn_waiting w p rest now).symm ?_ i).symm
    exact apart
  rw [sentBy, callsOf_sent, sentBy, pending_perm chosen distinct i, after, pending_cons,
    pending_cons, departed, departed_flight]
  by_cases own : p.worker.index = i
  · subst own
    have alone := pending_eq_nil (List.nodup_cons.mp apart).1
    simp [alone]
  · simp [own]

structure Shared (c : RunConfig) (opened : Channel) (calls : List Landed) (w : Window) : Prop where
  distinct : w.running.Nodup
  workers : ∀ i ∈ w.running, i < c.concurrency
  resume : ∀ p ∈ w.waiting, p.worker =
    (Worker.start c p.worker.index).after (sentBy p.worker.index calls w).length
  stream : ∀ i, (sentBy i calls w).map (·.request) =
    (Worker.start c i).requests (sentBy i calls w).length
  log : ∃ timed : List (Nat × Sent), opened.Since (timed.map (·.2)) w.channel ∧
    (∀ s ∈ timed, s.1 < c.concurrency) ∧
    ∀ i, (timed.filter (·.1 = i)).map (·.2) = sentBy i calls w

theorem opening_shared (c : RunConfig) (opened : Channel) :
    Shared c opened [] (opening c opened) := by
  have running : (opening c opened).running = List.range c.concurrency := by
    simp [Window.running, opening, Worker.start, Function.comp_def]
  have nothing (i : Nat) : sentBy i [] (opening c opened) = [] := by
    simp [sentBy, pending, callsOf, opening, List.filter_map, List.filterMap_map]
  refine ⟨running ▸ List.nodup_range, fun i inside => List.mem_range.mp (running ▸ inside), ?_, ?_,
    ?_⟩
  · intro p member
    obtain ⟨i, _, rfl⟩ := List.mem_map.mp member
    rw [nothing]
    rfl
  · intro i
    rw [nothing]
    rfl
  · exact ⟨[], .refl _, fun _ member => (List.not_mem_nil member).elim, fun i => (nothing i).symm⟩

theorem Shared.goOn (h : Shared c opened calls w) (chosen : w.waiting.Perm (p :: rest))
    (now : Instant) :
    Shared c opened (calls ++ (p.landed now).toList) (w.goOn p rest now) := by
  have member : p ∈ w.waiting := chosen.mem_iff.mpr List.mem_cons_self
  have waiting := goOn_waiting w p rest now
  have running : (w.goOn p rest now).running.Perm w.running :=
    (waiting.map fun q : Waiting => q.worker.index).trans (running_chosen chosen).symm
  have apart := (running_chosen chosen).nodup_iff.mp h.distinct
  have sent := sentBy_goOn chosen h.distinct calls now
  have resumed := h.resume p member
  refine ⟨running.nodup_iff.mpr h.distinct, fun i inside => h.workers i (running.mem_iff.mp inside),
    ?_, ?_, ?_⟩
  -- The worker that goes on makes the next request of its stream; the others keep their place.
  · intro q inside
    rcases List.mem_cons.mp (waiting.mem_iff.mp inside) with rfl | inside
    · have worker : (w.departed p now).worker = p.worker.next.2 := rfl
      have index : (w.departed p now).worker.index = p.worker.index := rfl
      rw [index, sent, if_pos rfl, List.length_append, List.length_singleton, Worker.after_succ,
        ← resumed, worker]
    · have other : p.worker.index ≠ q.worker.index := fun same =>
        (List.nodup_cons.mp apart).1 (same ▸ List.mem_map_of_mem inside)
      rw [sent, if_neg other, List.append_nil]
      exact h.resume q (chosen.mem_iff.mpr (List.mem_cons_of_mem _ inside))
  · intro i
    by_cases own : p.worker.index = i
    · subst own
      rw [sent, if_pos rfl, List.map_append, h.stream, List.length_append, List.length_singleton,
        Worker.requests_succ, ← resumed]
      rfl
    · rw [sent, if_neg own, List.append_nil]
      exact h.stream i
  · obtain ⟨timed, since, known, shares⟩ := h.log
    refine ⟨timed ++ [(p.worker.index, (w.departure p now).sent)], ?_, ?_, ?_⟩
    · rw [List.map_append]
      exact since.trans (goOn_since w p rest now)
    · intro s inside
      rcases List.mem_append.mp inside with old | new
      · exact known s old
      · exact List.mem_singleton.mp new ▸ h.workers _ (List.mem_map_of_mem member)
    · intro i
      rw [List.filter_append, List.map_append, shares, sent]
      by_cases own : p.worker.index = i <;> simp [own]

theorem Shared.retire (h : Shared c opened calls w) (chosen : w.waiting.Perm (p :: rest))
    (now : Instant) :
    Shared c opened (calls ++ (p.landed now).toList) (w.retire p rest now) := by
  have running := running_chosen chosen
  have sent := sentBy_retire chosen h.distinct calls now
  refine ⟨(List.nodup_cons.mp (running.nodup_iff.mp h.distinct)).2,
    fun i inside => h.workers i (running.mem_iff.mpr (List.mem_cons_of_mem _ inside)), ?_, ?_, ?_⟩
  · intro q inside
    rw [sent]
    exact h.resume q (chosen.mem_iff.mpr (List.mem_cons_of_mem _ inside))
  · intro i
    rw [sent]
    exact h.stream i
  · obtain ⟨timed, since, known, shares⟩ := h.log
    exact ⟨timed, since.atTime now, known, fun i => (shares i).trans (sent i).symm⟩

theorem Reaches.shared (h : Reaches Turn (opening c opened) calls w) : Shared c opened calls w := by
  induction h with
  | here => exact opening_shared c opened
  | turn _ turn ih =>
    cases turn with
    | goOn chosen _ _ => exact ih.goOn chosen _
    | retire chosen _ _ _ => exact ih.retire chosen _

end Window

theorem Channel.Since.unique {a b : Channel} {xs ys : List Sent} (hx : a.Since xs b)
    (hy : a.Since ys b) : xs = ys :=
  List.append_cancel_left (hx.log.symm.trans hy.log)

namespace Worker

/-- What a worker may come to send: on its own until it is told to stop, or among any number of
workers of a window, in whatever order they go on. -/
inductive Sends (c : RunConfig) (i : Nat) : List Request → Prop where
  | alone {ch : Channel} {stopped : Nat → Bool} {fuel : Nat} {sent : List Sent} :
      ch.Since sent (Solo.run stopped fuel ⟨start c i, ch, .empty, .zero⟩).channel →
        Sends c i (sent.map (·.request))
  | among {k : Nat} {opened : Channel} {calls : List Landed} {w : Window} :
      i < k → Window.Reaches Window.Turn (.opening { c with concurrency := k } opened) calls w →
        Sends c i ((Window.sentBy i calls w).map (·.request))

variable {c : RunConfig} {i : Nat} {xs ys : List Request}

theorem Sends.stream (h : Sends c i xs) : xs = (start c i).requests xs.length := by
  cases h with
  | @alone ch stopped fuel sent since =>
    obtain ⟨n, run⟩ := run_eq_iterate stopped fuel ⟨start c i, ch, .empty, .zero⟩
    obtain ⟨steps, made, requests, _⟩ := since_iterate n ⟨start c i, ch, .empty, .zero⟩
    rw [run] at since
    rw [since.unique made, requests, length_requests]
  | @among k opened calls w known reached =>
    have stream := reached.shared.stream i
    rw [requests_concurrency] at stream
    rw [List.length_map]
    exact stream

theorem Sends.agree (hx : Sends c i xs) (hy : Sends c i ys) : xs <+: ys ∨ ys <+: xs := by
  rw [hx.stream, hy.stream]
  rcases Nat.le_total xs.length ys.length with shorter | longer
  · exact .inl (requests_grow _ shorter)
  · exact .inr (requests_grow _ longer)

structure Independent (c : RunConfig) (i : Nat) : Prop where
  stream : ∀ xs, Sends c i xs → xs = (start c i).requests xs.length
  agree : ∀ xs ys, Sends c i xs → Sends c i ys → xs <+: ys ∨ ys <+: xs
  stopped : ∀ (n : Nat) (ch : Channel), ∃ sent, ch.Since sent (runAlone c i n ch).channel ∧
    sent.map (·.request) = (start c i).requests n
  course : ∀ (k : Nat) (ch opened : Channel) result later,
    setUp { c with concurrency := k } ch = (.ok (), opened) →
    Course { c with concurrency := k } ch result later →
      ∃ timed : List (Nat × Sent), opened.Since (timed.map (·.2)) later ∧
        (∀ s ∈ timed, s.1 < k) ∧
        ∀ j < k, Sends c j ((timed.filter (·.1 = j)).map (·.2.request))
  /-- The first worker under a seed as much higher makes its requests of the same draws. -/
  seeded : ∀ n, ∃ draws : List Draw, (start c i).requests n = draws.map (·.request c i) ∧
    (start { c with seed := (c.seed + i) % 2 ^ 64 } 0).requests n = draws.map (·.request c 0)
  searches : c.mode = .search → ∀ n, (start c i).requests n =
    ((VectorSource.ofSeed ((c.seed + i) % 2 ^ 64) c.dimensions).vectors n).map fun vector =>
      .post c.searchUrl (searchBody c vector) c.requestTimeout

theorem stopped_requests (c : RunConfig) (i n : Nat) (ch : Channel) :
    ∃ sent, ch.Since sent (runAlone c i n ch).channel ∧
      sent.map (·.request) = (start c i).requests n := by
  obtain ⟨sent, since, requests, _⟩ := since_iterate n ⟨start c i, ch, .empty, .zero⟩
  have run := run_until (Nat.lt_succ_self n) ⟨start c i, ch, .empty, .zero⟩
  have fromStart : Totals.zero.calls + n = n := Nat.zero_add n
  refine ⟨sent, ?_, requests⟩
  rw [fromStart] at run
  rw [runAlone, run]
  exact since

theorem course_sends {k : Nat} {ch opened later : Channel}
    {result : Option (Except RunFault RunSummary)}
    (setup : setUp { c with concurrency := k } ch = (.ok (), opened))
    (course : Course { c with concurrency := k } ch result later) :
    ∃ timed : List (Nat × Sent), opened.Since (timed.map (·.2)) later ∧ (∀ s ∈ timed, s.1 < k) ∧
      ∀ j < k, Sends c j ((timed.filter (·.1 = j)).map (·.2.request)) := by
  have shares {calls : List Landed} {w : Window}
      (reached : Window.Reaches Window.Turn (.opening { c with concurrency := k } opened) calls w) :
      ∃ timed : List (Nat × Sent), opened.Since (timed.map (·.2)) w.channel ∧
        (∀ s ∈ timed, s.1 < k) ∧
        ∀ j < k, Sends c j ((timed.filter (·.1 = j)).map (·.2.request)) := by
    obtain ⟨timed, since, known, own⟩ := reached.shared.log
    refine ⟨timed, since, known, fun j inside => ?_⟩
    have same := congrArg (List.map (·.request)) (own j)
    rw [List.map_map] at same
    exact same ▸ Sends.among inside reached
  cases course with
  | failed failed =>
    rw [setup] at failed
    cases failed
  | underWay made reached =>
    rw [setup] at made
    cases made
    exact shares reached
  | returned made reached _ _ _ =>
    rw [setup] at made
    cases made
    exact shares reached

theorem seeded_draws (c : RunConfig) (i n : Nat) :
    ∃ draws : List Draw, (start c i).requests n = draws.map (·.request c i) ∧
      (start { c with seed := (c.seed + i) % 2 ^ 64 } 0).requests n =
        draws.map (·.request c 0) := by
  have request : Draw.request { c with seed := (c.seed + i) % 2 ^ 64 } 0 = Draw.request c 0 := by
    funext draw
    cases draw <;> rfl
  have draws : Draw.draws { c with seed := (c.seed + i) % 2 ^ 64 } n = Draw.draws c n := by
    funext source
    refine Draw.draws_congr ?_ n source
    exact fun _ => rfl
  refine ⟨_, requests_start c i n, ?_⟩
  rw [requests_start, request, draws, Nat.add_zero, Nat.mod_mod]

theorem requests_search {c : RunConfig} (mode : c.mode = .search) (i n : Nat) :
    (start c i).requests n =
      ((VectorSource.ofSeed ((c.seed + i) % 2 ^ 64) c.dimensions).vectors n).map fun vector =>
        .post c.searchUrl (searchBody c vector) c.requestTimeout := by
  rw [requests_start, Draw.draws_search mode, List.map_map]
  rfl

/-- The requests of a worker are a function of the configuration, the seed and its index: neither
answers nor the stop nor other workers change any of them. -/
theorem stream_independent (c : RunConfig) (i : Nat) : Independent c i where
  stream _ sends := sends.stream
  agree _ _ first second := first.agree second
  stopped := stopped_requests c i
  course _ _ _ _ _ setup course := course_sends setup course
  seeded := seeded_draws c i
  searches mode := requests_search mode i

end Worker

end LoadBench
