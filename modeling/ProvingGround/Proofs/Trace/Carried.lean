import ProvingGround.Api.Remote
import ProvingGround.Proofs.Trace.Budget

/-!
# What a transport carries

A recorder stands before a transport and keeps what it carries: each request, the answer to it if
there is one, and when that was there. What a task over remote services can do is said by a relation
between the clock at its start, its ending, what it has carried, and the clock at its end.
-/

namespace ProvingGround

open Http

variable {τ α β : Type}

/-! ### Recorders -/

namespace Http

/-- A request that was carried. -/
structure Carried where
  request : Request
  /-- The answer; nothing if nobody answered. -/
  response : Option Response
  /-- When the answer was there, or nobody was going to answer any more. -/
  arrival : Duration

/-- A transport with all that it has carried, in order. -/
structure Recorder (τ : Type) where
  inner : τ
  carried : List Carried

instance [Transport τ] : Transport (Recorder τ) where
  send t now request :=
    let (delivery, inner) := Transport.send t.inner now request
    let arrival := ⟨now.nanos + delivery.delay.nanos⟩
    (delivery, ⟨inner, t.carried ++ [⟨request, delivery.response, arrival⟩]⟩)

/-- What comes of an errand, with what is carried for it. -/
inductive Errand.Comes (e : Errand α) (later : Duration) :
    Except Fault α → List Carried → Prop where
  | unmade {f} (made : e.request = .error f) : Comes e later (.error f) []
  | lost {q} (made : e.request = .ok q) : Comes e later (.error e.lost) [⟨q, none, later⟩]
  | answered {q} (made : e.request = .ok q) (x : Response) :
    Comes e later (e.read x) [⟨q, some x, later⟩]

/-- What is made of what comes of an errand. -/
def Errand.Judges (e : Errand α) (judge : Except Fault α → Except Fault (Option β))
    (x : Except Fault (Option β)) (n : List Carried) (later : Duration) : Prop :=
  ∃ y, x = judge y ∧ e.Comes later y n

theorem Errand.run_comes [Transport τ] (e : Errand α) (t : Recorder τ) (now : Duration) :
    ∃ n, (e.run t now).2.carried = t.carried ++ n ∧
      e.Comes ⟨now.nanos + (e.run t now).1.delay.nanos⟩ (e.run t now).1.result n := by
  unfold Errand.run
  cases made : e.request with
  | error f => exact ⟨[], (List.append_nil _).symm, .unmade made⟩
  | ok q =>
    dsimp only [Transport.send]
    rcases Transport.send t.inner now q with ⟨⟨delay, response⟩, inner⟩
    cases response with
    | none => exact ⟨_, rfl, .lost made⟩
    | some x => exact ⟨_, rfl, .answered made x⟩

end Http

/-! ### Tasks -/

namespace Task

variable {a : PoolApi}

/-- Over the pools of `a`, and from every session, the task carries what the relation allows. -/
def Carries (a : PoolApi) (t : Task (Remote (Recorder τ)) α)
    (R : Duration → Ending α → List Carried → Duration → Prop) : Prop :=
  ∀ s, s.world.pools = a → ∃ r s' n, t.exec s = (r, s') ∧ s'.world.pools = a ∧
    s'.world.transport.carried = s.world.transport.carried ++ n ∧ R s.clock r n s'.clock

variable {t : Task (Remote (Recorder τ)) α}
  {R S : Duration → Ending α → List Carried → Duration → Prop}

theorem Carries.mono (h : t.Carries a R)
    (weaken : ∀ now r n later, R now r n later → S now r n later) : t.Carries a S := by
  intro s own
  obtain ⟨r, s', n, ended, own', carried, given⟩ := h s own
  exact ⟨r, s', n, ended, own', carried, weaken _ r n _ given⟩

/-- A task that leaves the session as it is carries nothing. -/
theorem carries_still {x : Ending α} (h : ∀ s, t.exec s = (x, s)) (hR : ∀ now, R now x [] now) :
    t.Carries a R := by
  intro s own
  exact ⟨x, s, [], h s, own, (List.append_nil _).symm, hR _⟩

theorem Carries.bind {u : α → Task (Remote (Recorder τ)) β}
    {T : Duration → Ending β → List Carried → Duration → Prop} (ht : t.Carries a R)
    (hu : ∀ v, (u v).Carries a fun middle r n later =>
      ∀ now m, R now (.ok (.ok v)) m middle → T now r (m ++ n) later)
    (stopped : ∀ now r x m later, R now r m later → Stops r x → T now x m later) :
    (t >>= u).Carries a T := by
  intro s own
  obtain ⟨r, s₁, m, first, own₁, carried, given⟩ := ht s own
  rw [exec_bind, first]
  rcases r with halt | f | v
  · exact ⟨_, s₁, m, rfl, own₁, carried, stopped _ _ _ _ _ given (.halt halt)⟩
  · exact ⟨_, s₁, m, rfl, own₁, carried, stopped _ _ _ _ _ given (.fault f)⟩
  · obtain ⟨r, s₂, n, rest, own₂, carried', given'⟩ := hu v s₁ own₁
    refine ⟨r, s₂, m ++ n, rest, own₂, ?_, given' _ m given⟩
    rw [carried', carried, List.append_assoc]

theorem carries_clock_bind {u : Duration → Task (Remote (Recorder τ)) α}
    (h : ∀ d, (u d).Carries a fun now r n later => now = d → R now r n later) :
    (clock >>= u).Carries a R := by
  intro s own
  obtain ⟨r, s', n, ended, own', carried, given⟩ := h s.clock s own
  exact ⟨r, s', n, ended, own', carried, given rfl⟩

section Calls

variable [Transport τ]

/-- A call is one errand. -/
theorem carries_call {c : Call} {e : Errand c.Answer}
    (h : ∀ w : Remote (Recorder τ), w.pools = a → w.errand c = e) :
    (call c : Task (Remote (Recorder τ)) c.Answer).Carries a fun now r n later =>
      now.nanos ≤ later.nanos ∧ ∃ x, r = .ok x ∧ e.Comes later x n := by
  intro s own
  obtain rfl : s.world.errand c = e := h s.world own
  obtain ⟨n, carried, comes⟩ := (s.world.errand c).run_comes s.world.transport s.clock
  exact ⟨_, _, n, exec_call c s, own, carried, Nat.le_add_right _ _, _, rfl, comes⟩

/-- A check of one call is one errand, too. -/
theorem carries_judged {c : Call} {e : Errand c.Answer}
    {judge : Except Fault c.Answer → Except Fault (Option α)}
    {next : c.Answer → Task (Remote (Recorder τ)) (Option α)}
    (h : ∀ w : Remote (Recorder τ), w.pools = a → w.errand c = e)
    (refused : ∀ f, judge (.error f) = .error f)
    (answered : ∀ x s, (next x).exec s = (.ok (judge (.ok x)), s)) :
    (call c >>= next).Carries a fun now r n later =>
      now.nanos ≤ later.nanos ∧ ∃ x, r = .ok x ∧ e.Judges judge x n later := by
  apply (carries_call h).bind
  · intro v
    apply carries_still (answered v)
    rintro middle now m ⟨after, x, hx, comes⟩
    cases hx
    rw [List.append_nil]
    exact ⟨after, _, rfl, _, rfl, comes⟩
  · rintro now r y m later ⟨after, x, rfl, comes⟩ stop
    cases stop
    exact ⟨after, _, rfl, _, (refused _).symm, comes⟩

end Calls

end Task

/-! ### Polls -/

/-- What a poll can carry that began at an instant, when each check comes to an end as `C` says. -/
inductive PollCarries (what : String) (l : PollLimits) (start : Duration)
    (C : Except Fault (Option α) → List Carried → Duration → Prop) :
    Task.Ending α → List Carried → Duration → Prop where
  | stalled {later} (endless : l.interval.nanos = 0) :
    PollCarries what l start C (.error .stalled) [] later
  | ready {v n later} (check : C (.ok (some v)) n later) :
    PollCarries what l start C (.ok (.ok v)) n later
  | failed {f n later} (check : C (.error f) n later) (final : f.isTransient = false) :
    PollCarries what l start C (.ok (.error f)) n later
  | expired {x n later} (check : C x n later) (waits : Verdict.of x = .notYet)
    (late : start.nanos + l.timeout.nanos ≤ later.nanos) :
    PollCarries what l start C (.ok (.error (.readinessTimeout what l.timeout))) n later
  | again {x m r n middle later} (check : C x m middle) (waits : Verdict.of x = .notYet)
    (early : middle.nanos < start.nanos + l.timeout.nanos)
    (rest : PollCarries what l start C r n later) : PollCarries what l start C r (m ++ n) later

section Polls

variable {a : PoolApi} {what : String} {l : PollLimits} {start later : Duration}
  {check : Task (Remote (Recorder τ)) (Option α)}
  {C : Except Fault (Option α) → List Carried → Duration → Prop} {r : Task.Ending α}
  {n : List Carried}

theorem PollCarries.among {K : Carried → Prop} (h : PollCarries what l start C r n later)
    (checks : ∀ x n later, C x n later → ∀ c ∈ n, K c) : ∀ c ∈ n, K c := by
  induction h with
  | stalled => exact fun _ hc => nomatch hc
  | ready check | failed check _ | expired check _ _ => exact checks _ _ _ check
  | again check _ _ _ ih =>
    intro c hc
    exact (List.mem_append.1 hc).elim (checks _ _ _ check c) (ih c)

/-- The fault of a poll is that of its last check, or that the limit is over. -/
theorem PollCarries.fault (h : PollCarries what l start C r n later) {f : Fault}
    (hr : r = .ok (.error f)) :
    f = .readinessTimeout what l.timeout ∨ ∃ n later, C (.error f) n later := by
  induction h with
  | stalled | ready => cases hr
  | failed check =>
    cases hr
    exact .inr ⟨_, _, check⟩
  | expired =>
    cases hr
    exact .inl rfl
  | again _ _ _ _ ih => exact ih hr

theorem PollCarries.halt (h : PollCarries what l start C r n later) {halt : Halt}
    (hr : r = .error halt) : halt = .stalled ∧ l.interval.nanos = 0 := by
  induction h with
  | stalled endless =>
    cases hr
    exact ⟨rfl, endless⟩
  | ready | failed | expired => cases hr
  | again _ _ _ _ ih => exact ih hr

theorem pollFrom_carries
    (hc : check.Carries a fun now r n later =>
      now.nanos ≤ later.nanos ∧ ∃ x, r = .ok x ∧ C x n later)
    (n : Nat) {s : Session (Remote (Recorder τ))} (own : s.world.pools = a)
    (after : start.nanos ≤ s.clock.nanos)
    (near : l.interval.nanos = 0 ∨
      ∃ k, n = k + 1 ∧ l.timeout.nanos ≤ s.clock.nanos - start.nanos + k * l.longestSleep) :
    ∃ r s' m, (pollFrom what l start check n).exec s = (r, s') ∧ s'.world.pools = a ∧
      s'.world.transport.carried = s.world.transport.carried ++ m ∧
      PollCarries what l start C r m s'.clock := by
  -- With an interval, each pause brings the limit nearer by the longest sleep, so that the checks
  -- that are left reach it.
  induction n generalizing s with
  | zero =>
    rcases near with endless | ⟨k, hk, -⟩
    · exact ⟨_, s, [], rfl, own, (List.append_nil _).symm, .stalled endless⟩
    · cases hk
  | succ n ih =>
    obtain ⟨_, s₁, m, checked, own₁, carried, later, x, rfl, hC⟩ := hc s own
    rw [pollFrom_exec_succ checked]
    cases verdict : Verdict.of x with
    | ready v =>
      rw [Verdict.eq_of_ready verdict] at hC
      exact ⟨_, s₁, m, rfl, own₁, carried, .ready hC⟩
    | failed f =>
      obtain ⟨rfl, final⟩ := Verdict.eq_of_failed verdict
      exact ⟨_, s₁, m, rfl, own₁, carried, .failed hC final⟩
    | notYet =>
      dsimp only
      have elapsed : (s₁.clock.remaining start).nanos = s₁.clock.nanos - start.nanos := rfl
      by_cases expired : l.timeout.nanos ≤ (s₁.clock.remaining start).nanos
      · rw [if_pos expired]
        exact ⟨_, s₁, m, rfl, own₁, carried, .expired hC verdict (by omega)⟩
      · rw [if_neg expired]
        have paused := PollLimits.elapsed_pause (l := l) (Nat.le_trans after later)
        have fires := Timer.le_fires_now s₁.clock (l.pause (s₁.clock.remaining start))
        obtain ⟨r, s₂, m', ended, own₂, carried', polled⟩ := ih
          (s := { s₁ with clock := Timer.fires s₁.clock (l.pause (s₁.clock.remaining start)) }) own₁
          (by dsimp only; omega)
          (by
            refine near.imp id ?_
            rintro ⟨k, hk, near⟩
            rcases k with _ | k
            · omega
            · rw [Nat.succ_mul] at near
              exact ⟨k, by omega, by dsimp only; omega⟩)
        refine ⟨r, s₂, m ++ m', ended, own₂, ?_, .again hC verdict (by omega) polled⟩
        rw [carried', ← List.append_assoc, ← carried]

theorem poll_carries
    (hc : check.Carries a fun now r n later =>
      now.nanos ≤ later.nanos ∧ ∃ x, r = .ok x ∧ C x n later) :
    (poll what l check).Carries a fun now r n later => PollCarries what l now C r n later := by
  intro s own
  have near : l.interval.nanos = 0 ∨ ∃ k, l.checks s.patience = k + 1 ∧
      l.timeout.nanos ≤ s.clock.nanos - s.clock.nanos + k * l.longestSleep := by
    rcases Nat.eq_zero_or_pos l.interval.nanos with endless | interval
    · exact .inl endless
    · obtain ⟨k, fuel, -, near⟩ := PollLimits.checks_of_interval interval s.patience
      exact .inr ⟨k, fuel, Nat.le_trans near (Nat.le_add_left _ _)⟩
  rw [poll_exec]
  exact pollFrom_carries hc _ own (Nat.le_refl _) near

end Polls

end ProvingGround
