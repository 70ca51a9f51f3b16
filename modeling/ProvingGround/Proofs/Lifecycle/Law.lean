import ProvingGround.Proofs.Setup.Law

/-!
# The law of a run

What the calls of a run may name: the namespace that the run has created before, or, for its end,
the name of the run while there is none.
-/

namespace ProvingGround

/-- Neither side of a run's calls but its own namespace, or its own name without one. -/
def StandsFor (r : String) (t : List Deed) (ns : String) : Prop :=
  Claimed ns t ∨ ns = r ∧ ∀ other, ¬ Claimed other t

/-- An object is named like a group of nodes. -/
def Manifest.IsGroup (m : Manifest) : Prop :=
  m.name = bootstrapGroup ∨ m.name = clientGroup ∨ m.name = secondClientGroup

/-- Whether the run `r` may make a call, by what the call names. -/
def MayName (r : String) (t : List Deed) : Call → Prop
  | .listNamespaces => True
  | .createNamespace _ => ∀ other x, .asked (.createNamespace other) x ∉ t
  | .create ns m =>
    Claimed ns t ∧ m.ns = ns ∧ (m.IsGroup → m.pool? = some ("pool-" ++ ns)) ∧
      (¬ m.IsGroup → m.pool? = none)
  | .listPods ns _ => Claimed ns t
  | .podLogs ns _ _ => Claimed ns t
  | .workloadStatus ns _ => Claimed ns t
  | .startTiming ns _ _ => Claimed ns t
  | .createPool p => ∃ ns, Claimed ns t ∧ p.name = "pool-" ++ ns
  | .poolStatus name => ∃ ns, Claimed ns t ∧ name = "pool-" ++ ns
  | .serviceAddress ns _ => StandsFor r t ns
  | .submit _ task => StandsFor r t task.ns ∧ task.pool = "pool-" ++ task.ns

/-- The law of the run `r`; what scenarios call is theirs. -/
def RunLaw (r : String) (t : List Deed) : Deed → Prop
  | .asked c _ => MayName r t c
  | _ => True

variable {r : String} {b : Blueprint} {store : StoreSettings} {t : List Deed}

theorem MayCreate.pool_of_isGroup {ns : String} {m : Manifest} (h : MayCreate b store ns t m)
    (group : m.IsGroup) : m.pool? = some (poolName ns) := by
  cases h with
  | logging stack =>
    have names := name_of_mem_loggingStack (mem_of_split stack)
    rcases group with h | h | h
    · exact absurd h names.1
    · exact absurd h names.2.1
    · exact absurd h names.2.2
  | bootstrap _ pool own _ => rw [pool, own]
  | client _ pool _ => exact pool
  | second _ pool _ => exact pool

theorem MayCreate.pool_of_not_isGroup {ns : String} {m : Manifest} (h : MayCreate b store ns t m)
    (other : ¬ m.IsGroup) : m.pool? = none := by
  cases h with
  | logging stack =>
    have pools : ∀ pool ∈ [none, none, none, none, none, none], pool = (none : Option String) := by
      decide
    have hm : m.pool? ∈ (loggingStack ns store).map Manifest.pool? :=
      List.mem_map_of_mem (mem_of_split stack)
    exact pools _ hm
  | bootstrap name => exact absurd (.inl name) other
  | client name => exact absurd (.inr (.inl name)) other
  | second name => exact absurd (.inr (.inr name)) other

theorem runLaw_of_setupLaw {d : Deed} (h : SetupLaw b store t d) : RunLaw r t d := by
  cases d with
  | asked c x =>
    cases c with
    | listNamespaces => trivial
    | createNamespace ns => exact h.2
    | create ns m => exact ⟨h.1, h.2.1, h.2.2.pool_of_isGroup, h.2.2.pool_of_not_isGroup⟩
    | listPods ns selector | workloadStatus ns w => exact h
    | podLogs ns pod container | startTiming ns pod body => exact h.1
    | createPool p =>
      obtain ⟨ns, claimed, own, -⟩ := h
      exact ⟨ns, claimed, own⟩
    | poolStatus name => exact h
    | serviceAddress ns service | submit queue task => exact h.elim
  | _ => trivial

end ProvingGround
