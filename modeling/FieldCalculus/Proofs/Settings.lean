import FieldCalculus.Proofs.Binary64.Numerals
import FieldCalculus.Proofs.Binary64.Readings
import FieldCalculus.Proofs.Binary64.Remainder
import FieldCalculus.Settings
/-!
# Which settings are accepted

The checks of a number ask for its value only, so a text is accepted by the value it is read as,
however it writes it.  Each setting is checked on its own.
-/

namespace FieldCalculus.Settings

open Binary64

/-! ## Checks -/

/-- A whole number from zero to a bound. -/
def WholeUpTo (bound : ℕ) (x : Float) : Prop :=
  ∃ k : ℕ, k ≤ bound ∧ HasValue x k

/-- A finite number that is not negative. -/
def FiniteNonneg (x : Float) : Prop :=
  ∃ q : ℚ, 0 ≤ q ∧ HasValue x q

section

variable {x : Float} {q : ℚ} {bound : ℕ}

theorem faults_eq_nil_iff {checks : List Check} :
    faults checks x = [] ↔ x.isNaN = false ∧ ∀ check ∈ checks, check x = none := by
  unfold faults
  split
  · next hnan => exact iff_of_false (List.cons_ne_nil _ _) fun h => Bool.false_ne_true (h.1 ▸ hnan)
  · next hnumber =>
    rw [List.filterMap_eq_nil_iff, and_iff_right (Bool.eq_false_of_not_eq_true hnumber)]

theorem finite_eq_none_iff : finite x = none ↔ ∃ q, HasValue x q := by
  rw [finite, ite_eq_left_iff]
  constructor
  · intro h
    apply exists_hasValue
    by_contra hinfinite
    cases h hinfinite
  · rintro ⟨q, hq⟩ hinfinite
    exact absurd hq.isFinite hinfinite

theorem integer_eq_none_iff : integer x = none ↔ ∃ k : ℤ, HasValue x k := by
  have hcheck : integer x = none ↔ isInteger x = true := by
    unfold integer
    split <;> simp_all
  rw [hcheck, isInteger, Bool.and_eq_true]
  constructor
  · rintro ⟨hfinite, hremainder⟩
    obtain ⟨q, hq⟩ := exists_hasValue hfinite
    obtain ⟨k, rfl⟩ := hq.remainder_one_iff.mp hremainder
    exact ⟨k, hq⟩
  · rintro ⟨k, hk⟩
    exact ⟨hk.isFinite, hk.remainder_one_iff.mpr ⟨k, rfl⟩⟩

theorem atLeast_eq_none_iff (h : HasValue x q) (hbound : bound ≤ 2 ^ 53) :
    atLeast bound x = none ↔ bound ≤ q := by
  have hlt : x < Float.ofNat bound ↔ q < bound := h.lt_iff (hasValue_natCast hbound)
  rw [atLeast, ite_eq_right_iff, ← not_lt, ← hlt]
  exact ⟨fun hnone hbelow => Option.some_ne_none _ (hnone hbelow),
    fun hnot hbelow => absurd hbelow hnot⟩

theorem atMost_eq_none_iff (h : HasValue x q) (hbound : bound ≤ 2 ^ 53) :
    atMost bound x = none ↔ q ≤ bound := by
  have hlt : Float.ofNat bound < x ↔ bound < q := (hasValue_natCast hbound).lt_iff h
  rw [atMost, ite_eq_right_iff, ← not_lt, ← hlt]
  exact ⟨fun hnone habove => Option.some_ne_none _ (hnone habove),
    fun hnot habove => absurd habove hnot⟩

theorem faults_whole_eq_nil_iff (hbound : bound ≤ 2 ^ 53) :
    faults [integer, atLeast 0, atMost bound] x = [] ↔ WholeUpTo bound x := by
  simp only [faults_eq_nil_iff, List.forall_mem_cons, integer_eq_none_iff]
  constructor
  · rintro ⟨-, ⟨k, hk⟩, hleast, hmost, -⟩
    rw [atLeast_eq_none_iff hk (by norm_num)] at hleast
    rw [atMost_eq_none_iff hk hbound] at hmost
    obtain ⟨n, rfl⟩ := Int.eq_ofNat_of_zero_le (a := k) (by exact_mod_cast hleast)
    exact ⟨n, by exact_mod_cast hmost, by simpa using hk⟩
  · rintro ⟨n, hn, hvalue⟩
    refine ⟨hvalue.isNaN, ⟨n, by simpa using hvalue⟩, ?_, ?_, by simp⟩
    · rw [atLeast_eq_none_iff hvalue (by norm_num)]
      exact_mod_cast Nat.zero_le n
    · rw [atMost_eq_none_iff hvalue hbound]
      exact_mod_cast hn

theorem faults_finite_eq_nil_iff : faults [finite, atLeast 0] x = [] ↔ FiniteNonneg x := by
  simp only [faults_eq_nil_iff, List.forall_mem_cons, finite_eq_none_iff]
  constructor
  · rintro ⟨-, ⟨q, hq⟩, hleast, -⟩
    rw [atLeast_eq_none_iff hq (by norm_num)] at hleast
    exact ⟨q, by exact_mod_cast hleast, hq⟩
  · rintro ⟨q, hpos, hvalue⟩
    refine ⟨hvalue.isNaN, ⟨q, hvalue⟩, ?_, by simp⟩
    rw [atLeast_eq_none_iff hvalue (by norm_num)]
    exact_mod_cast hpos

end

/-! ## One setting -/

/-- The variable has a text that is not blank and reads as a number that is not admitted. -/
def Offends (admits : Float → Prop) (env : Environment) (variableName : String) : Prop :=
  ∃ raw text x, env variableName = some raw ∧ Gives raw.toList text ∧ text ≠ "" ∧
    Numeric.ReadsAs text x ∧ ¬ admits x

/-- The value is what the text of the variable means without the blanks around it, or it is the
default if the variable is unset or blank. -/
structure Takes {β : Type} (env : Environment) (variableName : String) (means : String → β → Prop)
    (default value : β) : Prop where
  given : ∀ raw text, env variableName = some raw → Gives raw.toList text → text ≠ "" →
    means text value
  blank : (∀ raw, env variableName = some raw → Gives raw.toList "") → value = default

/-- The checks of the setting find no fault exactly in the admitted numbers, and its default is
one of them. -/
structure Entry.Admits (n : Entry) (admits : Float → Prop) : Prop where
  faults_iff : ∀ x, faults n.checks x = [] ↔ admits x
  default : admits n.default

section

variable {env : Environment} {variableName text : String}

theorem trim_eq_iff_gives {raw : String} : Text.trim raw = text ↔ Gives raw.toList text :=
  gives_iff.symm

theorem read_eq_iff_readsAs_of_gives {raw : String} (h : Gives raw.toList text) (x : Float) :
    Numeric.read text = x ↔ Numeric.ReadsAs text x := by
  refine Numeric.read_eq_iff_readsAs ?_ x
  rw [← trim_eq_iff_gives.mpr h, Text.trim, String.toList_ofList, Text.trimmed_trimmed]

theorem read?_eq_some_iff : read? env variableName = some text ↔
    ∃ raw, env variableName = some raw ∧ Gives raw.toList text ∧ text ≠ "" := by
  simp only [read?, Option.filter_eq_some_iff, Option.map_eq_some_iff, decide_eq_true_iff,
    ← exists_and_right, and_assoc, trim_eq_iff_gives]

theorem read?_eq_none_iff : read? env variableName = none ↔
    ∀ raw, env variableName = some raw → Gives raw.toList "" := by
  rw [Option.eq_none_iff_forall_ne_some]
  constructor
  · intro hnone raw hraw
    rw [← trim_eq_iff_gives]
    by_contra htext
    exact hnone _ (read?_eq_some_iff.mpr ⟨raw, hraw, trim_eq_iff_gives.mp rfl, htext⟩)
  · rintro hblank text hread
    obtain ⟨raw, hraw, hgives, htext⟩ := read?_eq_some_iff.mp hread
    have hempty := trim_eq_iff_gives.mpr (hblank raw hraw)
    exact htext ((trim_eq_iff_gives.mpr hgives).symm.trans hempty)

theorem offends_iff {admits : Float → Prop} : Offends admits env variableName ↔
    ∃ text, read? env variableName = some text ∧ ¬ admits (Numeric.read text) := by
  constructor
  · rintro ⟨raw, text, x, hraw, hgives, htext, hx, hrejected⟩
    obtain rfl := (read_eq_iff_readsAs_of_gives hgives x).mpr hx
    exact ⟨text, read?_eq_some_iff.mpr ⟨raw, hraw, hgives, htext⟩, hrejected⟩
  · rintro ⟨text, hread, hrejected⟩
    obtain ⟨raw, hraw, hgives, htext⟩ := read?_eq_some_iff.mp hread
    exact ⟨raw, text, _, hraw, hgives, htext, (read_eq_iff_readsAs_of_gives hgives _).mp rfl,
      hrejected⟩

/-- A whole number in decimal notation offends exactly if it is above the bound. -/
theorem offends_numeral_iff {raw : String} {n : ℕ} (hraw : env variableName = some raw)
    (htext : Gives raw.toList (toString n)) (hn : n ≤ 2 ^ 53) (bound : ℕ) :
    Offends (WholeUpTo bound) env variableName ↔ bound < n := by
  have hne : toString n ≠ "" := by
    rw [← String.toList_inj.ne, KeyOrder.toList_toString]
    exact Nat.toDigits_ne_nil
  have hread : read? env variableName = some (toString n) :=
    read?_eq_some_iff.mpr ⟨raw, hraw, htext, hne⟩
  have hvalue := Numeric.hasValue_read_toString hn
  have hadmitted : WholeUpTo bound (Numeric.read (toString n)) ↔ n ≤ bound := by
    constructor
    · rintro ⟨k, hk, hvalue'⟩
      have hsame : (n : ℚ) = k := Option.some.inj (hvalue.symm.trans hvalue')
      rw [Nat.cast_inj] at hsame
      omega
    · intro hle
      exact ⟨n, hle, hvalue⟩
  simp only [offends_iff, hread, Option.some.injEq, exists_eq_left', hadmitted, not_le]

end

variable (env : Environment)

theorem takes_read? {β : Type} (variableName : String) {means : String → β → Prop}
    (coerce : String → β) (default : β)
    (hmeans : ∀ raw text : String, Gives raw.toList text → means text (coerce text)) :
    Takes env variableName means default (((read? env variableName).map coerce).getD default) := by
  constructor
  case given =>
    intro raw text hraw hgives htext
    rw [read?_eq_some_iff.mpr ⟨raw, hraw, hgives, htext⟩]
    exact hmeans raw text hgives
  case blank =>
    intro hblank
    rw [read?_eq_none_iff.mpr hblank]
    rfl

namespace Entry

variable (n : Entry)

theorem takes_value : Takes env n.variableName Numeric.ReadsAs n.default (n.value env) := by
  have hvalue : n.value env = ((read? env n.variableName).map Numeric.read).getD n.default := by
    unfold value
    cases read? env n.variableName <;> rfl
  rw [hvalue]
  exact takes_read? env n.variableName Numeric.read n.default fun _ _ hgives =>
    (read_eq_iff_readsAs_of_gives hgives _).mp rfl

theorem setting_of_mem_issues {issue : Issue} (h : issue ∈ n.issues env) :
    issue.setting = n.name := by
  unfold issues at h
  split at h
  · cases h
  · obtain ⟨fault, -, rfl⟩ := List.mem_map.mp h
    rfl

variable {n} {admits : Float → Prop}

theorem Admits.issues_eq_nil_iff (h : n.Admits admits) :
    n.issues env = [] ↔ ¬ Offends admits env n.variableName := by
  rw [offends_iff, issues]
  cases read? env n.variableName with
  | none => simp
  | some text => simp [h.faults_iff]

/-- The texts that report a setting begin with its name, and there are some exactly if it
offends. -/
theorem Admits.exists_faults (h : n.Admits admits) :
    ∃ found : List Fault,
      (n.issues env).map Issue.text = found.map (fun fault => n.name ++ ": " ++ fault.message) ∧
      (found ≠ [] ↔ Offends admits env n.variableName) := by
  refine ⟨(n.issues env).map Issue.fault, ?_, ?_⟩
  · rw [List.map_map]
    apply List.map_congr_left
    intro issue hissue
    rw [Issue.text, n.setting_of_mem_issues env hissue]
    rfl
  · rw [ne_eq, List.map_eq_nil_iff, h.issues_eq_nil_iff, not_not]

theorem Admits.value (h : n.Admits admits) (hok : ¬ Offends admits env n.variableName) :
    admits (n.value env) := by
  rw [offends_iff] at hok
  unfold Entry.value
  cases hread : read? env n.variableName with
  | none => exact h.default
  | some text =>
      by_contra hrejected
      exact hok ⟨text, hread, hrejected⟩

end Entry

theorem admits_tcpPort : tcpPortSetting.Admits (WholeUpTo 65535) where
  faults_iff _ := faults_whole_eq_nil_iff (by norm_num)
  default := (faults_whole_eq_nil_iff (by norm_num)).mp (by decide +kernel)

theorem admits_energyBudget : energyBudgetSetting.Admits FiniteNonneg where
  faults_iff _ := faults_finite_eq_nil_iff
  default := faults_finite_eq_nil_iff.mp (by decide +kernel)

theorem admits_maxFractalDepth : maxFractalDepthSetting.Admits (WholeUpTo 20) where
  faults_iff _ := faults_whole_eq_nil_iff (by norm_num)
  default := (faults_whole_eq_nil_iff (by norm_num)).mp (by decide +kernel)

/-! ## All settings -/

/-- What is reported for a rejected environment: every setting that offends, at least once, and
no other, setting by setting. -/
structure Rejects (env : Environment) (found : List Issue) : Prop where
  grouped : ∃ ports budgets depths : List Fault,
    found.map Issue.text = ports.map ("port: " ++ ·.message) ++
      budgets.map ("energyBudget: " ++ ·.message) ++
      depths.map ("maxFractalDepth: " ++ ·.message) ∧
    (ports ≠ [] ↔ Offends (WholeUpTo 65535) env "FIELD_PORT") ∧
    (budgets ≠ [] ↔ Offends FiniteNonneg env "FIELD_ENERGY_BUDGET") ∧
    (depths ≠ [] ↔ Offends (WholeUpTo 20) env "FIELD_MAX_FRACTAL_DEPTH")

/-- What an accepted environment gives: every setting is what its variable says or its default,
and in its range. -/
structure Accepts (env : Environment) (s : Settings) : Prop where
  takesPort : Takes env "FIELD_PORT" Numeric.ReadsAs 3000.0 s.tcpPort
  takesHost : Takes env "FIELD_HOST" Eq "0.0.0.0" s.host
  takesBudget : Takes env "FIELD_ENERGY_BUDGET" Numeric.ReadsAs 1000.0 s.energyBudget
  takesDepth : Takes env "FIELD_MAX_FRACTAL_DEPTH" Numeric.ReadsAs 12.0 s.maxFractalDepth
  port : WholeUpTo 65535 s.tcpPort
  host : s.host ≠ ""
  budget : FiniteNonneg s.energyBudget
  depth : WholeUpTo 20 s.maxFractalDepth

theorem issues_eq_nil_iff :
    issues env = [] ↔ ¬ Offends (WholeUpTo 65535) env "FIELD_PORT" ∧
      ¬ Offends FiniteNonneg env "FIELD_ENERGY_BUDGET" ∧
      ¬ Offends (WholeUpTo 20) env "FIELD_MAX_FRACTAL_DEPTH" := by
  rw [issues, List.append_eq_nil_iff, List.append_eq_nil_iff, admits_tcpPort.issues_eq_nil_iff,
    admits_energyBudget.issues_eq_nil_iff, admits_maxFractalDepth.issues_eq_nil_iff, and_assoc]
  rfl

theorem rejects_issues : Rejects env (issues env) := by
  obtain ⟨ports, hports, hports'⟩ := admits_tcpPort.exists_faults env
  obtain ⟨budgets, hbudgets, hbudgets'⟩ := admits_energyBudget.exists_faults env
  obtain ⟨depths, hdepths, hdepths'⟩ := admits_maxFractalDepth.exists_faults env
  refine ⟨ports, budgets, depths, ?_, hports', hbudgets', hdepths'⟩
  rw [issues, List.map_append, List.map_append, hports, hbudgets, hdepths]
  rfl

theorem host_ne_empty : (read? env hostVariable).getD defaultHost ≠ "" := by
  cases hread : read? env hostVariable with
  | none => decide
  | some text =>
      obtain ⟨-, -, -, htext⟩ := read?_eq_some_iff.mp hread
      exact htext

/-- An environment is rejected exactly if the text of one of the three numeric settings does not
read as a number in its range.  All offending settings are reported then, and otherwise every
setting has the value of its text or its default.  Decimal notation is read as the number that
it writes. -/
theorem load_accepts_exactly_valid (env : Environment) :
    ((∃ found, load env = .error found) ↔
      Offends (WholeUpTo 65535) env "FIELD_PORT" ∨
      Offends FiniteNonneg env "FIELD_ENERGY_BUDGET" ∨
      Offends (WholeUpTo 20) env "FIELD_MAX_FRACTAL_DEPTH") ∧
    (match load env with
    | .error found => Rejects env found
    | .ok s => Accepts env s) ∧
    ∀ (variableName raw : String) (n : ℕ), env variableName = some raw →
      Gives raw.toList (toString n) → n ≤ 2 ^ 53 →
      ∀ bound, Offends (WholeUpTo bound) env variableName ↔ bound < n := by
  rw [← and_assoc]
  refine ⟨?_, fun _ _ _ => offends_numeral_iff⟩
  have hissues := issues_eq_nil_iff env
  cases hfound : issues env with
  | nil =>
      obtain ⟨hport, hbudget, hdepth⟩ := hissues.mp hfound
      have hload : load env = .ok
          { tcpPort := tcpPortSetting.value env
            host := (read? env hostVariable).getD defaultHost
            energyBudget := energyBudgetSetting.value env
            maxFractalDepth := maxFractalDepthSetting.value env } := by
        rw [load, hfound]
      rw [hload]
      constructor
      · simp [hport, hbudget, hdepth]
      · have hhost := takes_read? env hostVariable id defaultHost fun _ text _ => Eq.refl text
        rw [Option.map_id_fun, id] at hhost
        exact
          { takesPort := tcpPortSetting.takes_value env
            takesHost := hhost
            takesBudget := energyBudgetSetting.takes_value env
            takesDepth := maxFractalDepthSetting.takes_value env
            port := admits_tcpPort.value env hport
            host := host_ne_empty env
            budget := admits_energyBudget.value env hbudget
            depth := admits_maxFractalDepth.value env hdepth }
  | cons issue rest =>
      have hload : load env = .error (issue :: rest) := by rw [load, hfound]
      rw [hload, ← hfound]
      constructor
      · have hsome : issues env ≠ [] := by
          rw [hfound]
          exact List.cons_ne_nil _ _
        rw [ne_eq, hissues] at hsome
        refine iff_of_true ⟨_, rfl⟩ ?_
        tauto
      · exact rejects_issues env

end FieldCalculus.Settings
