import Mathlib.Logic.Function.Basic
import ProvingGround.Proofs.Intervals
import ProvingGround.Proofs.MemorySizes

/-!
# What settings ask of variables

Settings look at the variables they name and at nothing else, and make no difference between a blank
value and none. Nine of the variables can be wrong: five have to be set, and four have to be numbers
of seconds if they are set. They are looked at in a fixed order, and the first that is wrong is
named.
-/

namespace ProvingGround

open Text

namespace Settings

variable {vars vars' : Variables} {name v : String}

/-! ### Values -/

/-- The variable has no value, or a blank one. -/
def Unset (vars : Variables) (name : String) : Prop := ∀ v, vars name = some v → isAllBlank v = true

/-- Without blanks around it, the text is a whole number of 64 bits in decimal digits, with at most
one plus sign in front. -/
def IsSeconds (v : String) : Prop :=
  ∃ digits : List Char, ((trim v).toList = digits ∨ (trim v).toList = '+' :: digits) ∧
    digits ≠ [] ∧ (∀ c ∈ digits, isAsciiDigit c = true) ∧
    Nat.ofDigits 10 (digits.reverse.map digitValue) < Word.count 64

theorem value?_eq_none_iff : value? vars name = none ↔ Unset vars name := by
  unfold value? Unset
  cases vars name <;> simp

theorem value?_eq_some_iff :
    value? vars name = some v ↔ vars name = some v ∧ isAllBlank v = false := by
  simp [value?, Option.filter_eq_some_iff]

theorem isSeconds_iff : IsSeconds v ↔ ∃ n, readNatural (Word.count 64) (trim v) = some n := by
  unfold IsSeconds readNatural
  simp only [Option.filter_eq_some_iff, readDigits_eq_some, decide_eq_true_eq,
    digitsValue_eq_ofDigits]
  constructor
  · rintro ⟨digits, spelled, nonempty, ascii, fits⟩
    split
    next rest signed =>
      rw [signed] at spelled
      rcases spelled with rfl | spelled
      · cases ascii '+' List.mem_cons_self
      · cases spelled
        exact ⟨_, ⟨nonempty, ascii, rfl⟩, fits⟩
    next unsigned =>
      rcases spelled with bare | signed
      · rw [bare]
        exact ⟨_, ⟨nonempty, ascii, rfl⟩, fits⟩
      · exact absurd signed (unsigned _)
  · rintro ⟨n, ⟨nonempty, ascii, rfl⟩, fits⟩
    refine ⟨_, ?_, nonempty, ascii, fits⟩
    split
    next rest signed => exact .inr signed
    next => exact .inl rfl

/-! ### Demands -/

/-- What is asked of a variable. -/
inductive Demand where
  /-- It has to be set. -/
  | given
  /-- It has to be a number of seconds, if it is set. -/
  | seconds
  deriving DecidableEq, Repr

/-- The variables that can be wrong, in the order in which they are looked at. -/
def demands : List (String × Demand) :=
  [("CLUSTER_ZONE", .given), ("HARNESS_POLL_INTERVAL_SECS", .seconds),
   ("LOGGING_STACK_TIMEOUT_SECS", .seconds), ("NODE_POOL_TIMEOUT_SECS", .seconds),
   ("DAEMON_TIMEOUT_SECS", .seconds), ("PROJECT_ID", .given), ("CLUSTER_NAME", .given),
   ("ES_PASS_LOCAL", .given), ("MAIN_ES_IP", .given)]

def Meets (vars : Variables) : String × Demand → Prop
  | (name, .given) => ¬ Unset vars name
  | (name, .seconds) => Unset vars name ∨ ∃ v, vars name = some v ∧ IsSeconds v

/-- The cause that is told when a variable does not meet its demand. -/
inductive Blames (vars : Variables) : String × Demand → ConfigCause → Prop where
  | given {name : String} : Blames vars (name, .given) (.unsetVariable name)
  | seconds {name v : String} (set : vars name = some v) :
    Blames vars (name, .seconds) (.notSeconds name v)

/-- Whoever reads the cause finds the variable in it. -/
theorem Blames.names_variable {d : String × Demand} {cause : ConfigCause}
    (h : Blames vars d cause) : d.1.toList <:+: cause.text.toList := by
  cases h with
  | @given name =>
    have text : (ConfigCause.unsetVariable name).text =
        "environment variable " ++ name ++ " is not set" := rfl
    rw [text, String.toList_append, String.toList_append]
    exact List.infix_append _ _ _
  | @seconds name v =>
    have text : (ConfigCause.notSeconds name v).text =
        name ++ ("=" ++ quoted v ++ " is not a number of seconds") := by
      rw [← String.append_assoc, ← String.append_assoc]
      rfl
    rw [text, String.toList_append]
    exact (List.prefix_append _ _).isInfix

/-! ### Readings -/

/-- A reading looks at variables one after the other: it goes on while they meet their demands, and
gives up at the first that does not. -/
def Heeds {α : Type} (vars : Variables) : List (String × Demand) → Except ConfigCause α → Prop
  | [], r => ∃ a, r = .ok a
  | d :: rest, r =>
    (Meets vars d → Heeds vars rest r) ∧
      (¬ Meets vars d → ∃ cause, Blames vars d cause ∧ r = .error cause)

section Heeds

variable {α β : Type} {ds : List (String × Demand)} {d : String × Demand}
  {r : Except ConfigCause α}

theorem Heeds.bind {k : α → Except ConfigCause β} (first : Heeds vars [d] r)
    (next : ∀ a, Heeds vars ds (k a)) : Heeds vars (d :: ds) (r >>= k) := by
  obtain ⟨met, unmet⟩ := first
  constructor
  · intro meets
    obtain ⟨a, rfl⟩ := met meets
    exact next a
  · intro fails
    obtain ⟨cause, blames, rfl⟩ := unmet fails
    exact ⟨cause, blames, rfl⟩

theorem Heeds.ok_iff (h : Heeds vars ds r) : (∃ a, r = .ok a) ↔ ∀ d ∈ ds, Meets vars d := by
  induction ds with
  | nil => exact iff_of_true h (by simp)
  | cons d rest ih =>
    rw [List.forall_mem_cons]
    by_cases meets : Meets vars d
    · rw [ih (h.1 meets), and_iff_right meets]
    · obtain ⟨cause, -, rfl⟩ := h.2 meets
      exact iff_of_false nofun fun all => meets all.1

theorem Heeds.blames_first {earlier later : List (String × Demand)}
    (h : Heeds vars (earlier ++ d :: later) r) (met : ∀ e ∈ earlier, Meets vars e)
    (unmet : ¬ Meets vars d) : ∃ cause, Blames vars d cause ∧ r = .error cause := by
  induction earlier with
  | nil => exact h.2 unmet
  | cons e rest ih =>
    obtain ⟨first, others⟩ := List.forall_mem_cons.1 met
    exact ih (h.1 first) others

theorem required_heeds (vars : Variables) (name : String) :
    Heeds vars [(name, .given)] (required vars name) := by
  unfold required
  cases set : value? vars name with
  | none => exact ⟨fun meets => absurd (value?_eq_none_iff.1 set) meets, fun _ => ⟨_, .given, rfl⟩⟩
  | some v =>
    refine ⟨fun _ => ⟨v, rfl⟩, fun fails => absurd ?_ fails⟩
    show ¬ Unset vars name
    rw [← value?_eq_none_iff, set]
    nofun

theorem seconds_heeds (vars : Variables) (name : String) (usual : Nat) :
    Heeds vars [(name, .seconds)] (seconds vars name usual) := by
  unfold seconds
  cases set : value? vars name with
  | none =>
    have meets : Meets vars (name, .seconds) := .inl (value?_eq_none_iff.1 set)
    exact ⟨fun _ => ⟨_, rfl⟩, fun fails => absurd meets fails⟩
  | some v =>
    obtain ⟨given, filled⟩ := value?_eq_some_iff.1 set
    dsimp only
    cases number : readNatural (Word.count 64) (trim v) with
    | none =>
      refine ⟨fun meets => absurd meets ?_, fun _ => ⟨_, .seconds given, rfl⟩⟩
      rintro (unset | ⟨w, given', isSeconds⟩)
      · rw [unset v given] at filled
        cases filled
      · cases given.symm.trans given'
        obtain ⟨n, hn⟩ := isSeconds_iff.1 isSeconds
        rw [number] at hn
        cases hn
    | some n =>
      have meets : Meets vars (name, .seconds) := .inr ⟨v, given, isSeconds_iff.2 ⟨n, number⟩⟩
      exact ⟨fun _ => ⟨_, rfl⟩, fun fails => absurd meets fails⟩

theorem read_heeds (vars : Variables) : Heeds vars demands (read vars) := by
  unfold read readWaits
  simp only [bind_assoc]
  -- the steps are those of the reading, so an order other than that of `demands` does not fit
  apply (required_heeds vars _).bind
  intro zone
  apply (seconds_heeds vars _ _).bind
  intro pollInterval
  apply (seconds_heeds vars _ _).bind
  intro loggingStack
  apply (seconds_heeds vars _ _).bind
  intro nodePool
  apply (seconds_heeds vars _ _).bind
  intro collector
  apply (required_heeds vars _).bind
  intro project
  apply (required_heeds vars _).bind
  intro cluster
  apply (required_heeds vars _).bind
  intro password
  apply (required_heeds vars _).bind
  intro mainAddress
  exact ⟨_, rfl⟩

end Heeds

/-! ### Two readings -/

/-- Of a variable that is named, both have the same value, or neither has one: it may be blank in
one of them and missing in the other. -/
def Alike (vars vars' : Variables) : Prop :=
  ∀ name ∈ names, vars' name = vars name ∨ Unset vars' name ∧ Unset vars name

theorem Alike.value?_eq (h : Alike vars vars') (named : name ∈ names) :
    value? vars' name = value? vars name := by
  rcases h name named with same | ⟨unset', unset⟩
  · unfold value?
    rw [same]
  · rw [value?_eq_none_iff.2 unset', value?_eq_none_iff.2 unset]

theorem Alike.read_eq (h : Alike vars vars') : read vars' = read vars := by
  have look : ∀ name, name ∈ names → value? vars' name = value? vars name := fun _ =>
    h.value?_eq
  simp (disch := decide) only [read, readWaits, readOperator, readQueues, kubeconfigPath, required,
    seconds, look]

/-- Every variable that is named makes a difference somewhere. -/
theorem names_matter : ∀ name ∈ names,
    read (Function.update (leastVariables "5") name (some "1")) ≠ read (leastVariables "5") := by
  decide +kernel

end Settings

/-- Settings look at the variables that they name and at no other, and make no difference between a
blank value and none. They are read just when all demands are met; otherwise the first variable that
does not meet its demand is told. -/
theorem settings_heed_variables (vars : Variables) :
    (∀ vars', Settings.Alike vars vars' → Settings.read vars' = Settings.read vars) ∧
      (∀ name, name ∈ Settings.names ↔ ∃ vars value,
        Settings.read (Function.update vars name value) ≠ Settings.read vars) ∧
      ((∃ st, Settings.read vars = .ok st) ↔ ∀ d ∈ Settings.demands, Settings.Meets vars d) ∧
      ∀ earlier d later, Settings.demands = earlier ++ d :: later →
        (∀ e ∈ earlier, Settings.Meets vars e) → ¬ Settings.Meets vars d →
        ∃ cause, Settings.read vars = .error cause ∧ Settings.Blames vars d cause ∧
          d.1.toList <:+: cause.text.toList := by
  have heeds := Settings.read_heeds vars
  refine ⟨fun vars' alike => alike.read_eq, fun name => ⟨fun named => ?_, ?_⟩, heeds.ok_iff, ?_⟩
  · exact ⟨_, _, Settings.names_matter name named⟩
  · rintro ⟨vars, value, differs⟩
    by_contra unnamed
    apply differs
    apply Settings.Alike.read_eq
    intro other named
    have apart : other ≠ name := fun same => unnamed (same ▸ named)
    exact .inl (Function.update_of_ne apart _ _)
  · intro earlier d later split_ met unmet
    rw [split_] at heeds
    obtain ⟨cause, blames, told⟩ := heeds.blames_first met unmet
    exact ⟨cause, told, blames, blames.names_variable⟩

end ProvingGround
