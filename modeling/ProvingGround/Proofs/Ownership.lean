import ProvingGround.Proofs.Lifecycle.Requests

/-!
# The namespace of a run

A run creates one namespace at most, and from then on names no other: neither in its calls nor in
the objects that it creates, nor in the task that deletes what it leaves behind. Before, it only
stands for itself under the name that it was given at the start.
-/

namespace ProvingGround

/-! ### One namespace -/

theorem Lawful.claimed_unique {r : String} {t : List Deed} (h : Lawful (RunLaw r) [] t)
    {ns other : String} (hns : Claimed ns t) (hother : Claimed other t) : ns = other := by
  obtain ⟨pre, post, rfl⟩ := List.append_of_mem hns
  rcases List.mem_append.1 hother with before | after
  · exact absurd before (h.split other _)
  · rcases List.mem_cons.1 after with same | after
    · cases same
      rfl
    · -- The creation of the other comes after that of the first, which the law forbids.
      obtain ⟨mid, last, rfl⟩ := List.append_of_mem after
      have split : pre ++ Deed.asked (.createNamespace ns) (.ok ()) ::
          (mid ++ .asked (.createNamespace other) (.ok ()) :: last) =
          (pre ++ .asked (.createNamespace ns) (.ok ()) :: mid) ++
            .asked (.createNamespace other) (.ok ()) :: last := by
        rw [List.append_assoc]
        rfl
      rw [split] at h
      have first : Deed.asked (.createNamespace ns) (.ok ()) ∈
          [] ++ (pre ++ .asked (.createNamespace ns) (.ok ()) :: mid) :=
        List.mem_append_right pre List.mem_cons_self
      exact absurd first (h.split ns _)

/-! ### Requests -/

/-- What a run `r` names, from its trace and its record when it has one left. -/
structure Owns {σ : Type} [Services σ] (r : String)
    (end_ : Except Halt (List Response × Lifecycle) × Session σ) : Prop where
  /-- One name at most is created. -/
  unique : ∀ ns other, Claimed ns end_.2.deeds → Claimed other end_.2.deeds → ns = other
  /-- The record has a namespace exactly from its creation on. -/
  recorded : ∀ responses l, end_.1 = .ok (responses, l) →
    ∀ ns, l.ns = some ns ↔ Claimed ns end_.2.deeds
  /-- The namespace in the record stays. -/
  stays : ∀ responses l, end_.1 = .ok (responses, l) → ∀ more responses' l' s',
    (performAll more).exec l end_.2 = (.ok (responses', l'), s') →
    ∀ ns, l.ns = some ns → l'.ns = some ns
  /-- Every call names what it may, by the calls before it. -/
  names : ∀ pre c x post, end_.2.deeds = pre ++ .asked c x :: post → MayName r pre c

/-- After every sequence of requests, also one that never ends, the run has named only its own. -/
theorem requests_own {σ : Type} [Services σ] (b : Blueprint) (st : Settings)
    (draws : SuffixDraws) (born : Timestamp) (world : σ) (clock : Duration)
    (calendar : Duration → Timestamp) (patience : Nat) (requests : List Request) :
    Owns (generatedName st.operator draws) ((performAll requests).exec (.create b st draws born)
      ⟨world, clock, calendar, patience, []⟩) := by
  have obeys := performAll_obeys (σ := σ) requests (Standing.create b st draws born)
  obtain ⟨n, hn, lawful, -⟩ := obeys ⟨world, clock, calendar, patience, []⟩
  generalize hout : (performAll requests).exec (.create b st draws born)
    ⟨world, clock, calendar, patience, []⟩ = out
  have trace : out.2.deeds = n := by
    rw [← hout]
    exact hn
  have stands : ∀ responses l, out.1 = .ok (responses, l) → Standing l out.2.deeds := by
    intro responses l hl
    have he : (performAll requests).exec (.create b st draws born)
        ⟨world, clock, calendar, patience, []⟩ = (.ok (responses, l), out.2) := by
      rw [hout, ← hl]
    obtain ⟨m, -, -, p, reached⟩ := Operation.Obeys.result
      (s := ⟨world, clock, calendar, patience, []⟩) obeys he
    exact reached.standing
  constructor
  · intro ns other hns hother
    rw [trace] at hns hother
    exact lawful.claimed_unique hns hother
  · intro responses l hl
    exact (stands responses l hl).owned
  · intro responses l hl more responses' l' s' he ns hns
    have stand := stands responses l hl
    obtain ⟨m, hm, -, p, reached⟩ := (performAll_obeys more stand).result he
    rw [reached.standing.owned ns, hm]
    exact ((stand.owned ns).1 hns).grow
  · intro pre c x post ht
    rw [trace] at ht
    rw [ht] at lawful
    exact lawful.split

end ProvingGround
