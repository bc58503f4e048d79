import SqlCompiler.Schema.Table

namespace SqlCompiler

theorem Version.atLeast_iff {v : Version} {major minor patch : UInt32} :
    v.atLeast major minor patch ↔ major < v.major ∨
      v.major = major ∧ (minor < v.minor ∨ v.minor = minor ∧ patch ≤ v.patch) := by
  simp [atLeast]

theorem Version.atLeast_trans {v w : Version} {major minor patch : UInt32} (newer : w.atLeast v.major v.minor v.patch)
    (old : v.atLeast major minor patch) : w.atLeast major minor patch := by
  simp only [atLeast_iff, UInt32.lt_iff_toNat_lt, UInt32.le_iff_toNat_le, ← UInt32.toNat_inj] at *
  omega

/-- What is open to a database. -/
structure Gates where
  mariadb : Bool := false
  lateralJoins : Bool := true
  namesInsertedRow : Bool := true
  numbersRows : Bool := true
  limitsGroups : Bool := true
  dropsColumns : Bool := true
  renamesColumns : Bool := true
deriving DecidableEq

namespace Target

def gates (t : Target) : Gates :=
  match t.dialect with
  | .postgres | .sqlServer => {}
  | .mysql => {
      mariadb := t.isMariadb
      lateralJoins := !t.isMariadb && !t.olderThan 8 0 14
      namesInsertedRow := !t.isMariadb && !t.olderThan 8 0 19
      numbersRows := t.isMariadb || !t.olderThan 8 0 11
      renamesColumns := if t.isMariadb then !t.olderThan 10 5 2 else !t.olderThan 8 0 0 }
  | .sqlite => {
      lateralJoins := false
      limitsGroups := !t.olderThan 3 25 0
      dropsColumns := !t.olderThan 3 35 0
      renamesColumns := !t.olderThan 3 25 0 }

theorem gates_lateralJoins (t : Target) : t.gates.lateralJoins = t.hasLateralJoins := by
  unfold gates hasLateralJoins
  cases t.dialect <;> rfl

theorem gates_numbersRows (t : Target) : t.gates.numbersRows = t.numbersRows := by
  unfold gates numbersRows
  cases t.dialect <;> rfl

theorem gates_namesInsertedRow {t : Target} (mysql : t.dialect = .mysql) :
    t.gates.namesInsertedRow = t.namesInsertedRow := by
  simp only [gates, mysql, namesInsertedRow]

theorem gates_limitsGroups (t : Target) : t.gates.limitsGroups ↔ ¬ (t.dialect = .sqlite ∧ t.olderThan 3 25 0) := by
  unfold gates
  cases t.dialect <;> simp

theorem name_eq (t : Target) : t.name = if t.gates.mariadb then "mariadb" else t.dialect.name := by
  unfold gates name
  cases t.dialect <;> simp

def versioned (t : Target) (v : Option Version) : Target := { t with version := v }

@[simp]
theorem versioned_dialect (t : Target) (v : Option Version) : (t.versioned v).dialect = t.dialect := rfl

/-- The flavour is the same, and what fails without a gate is open if it is open to the first. -/
structure OpensUp (t : Target) (v : Option Version) : Prop where
  mariadb : (t.versioned v).gates.mariadb = t.gates.mariadb
  lateralJoins : t.gates.lateralJoins → (t.versioned v).gates.lateralJoins
  limitsGroups : t.gates.limitsGroups → (t.versioned v).gates.limitsGroups
  dropsColumns : t.gates.dropsColumns → (t.versioned v).gates.dropsColumns
  renamesColumns : t.gates.renamesColumns → (t.versioned v).gates.renamesColumns

theorem OpensUp.of_gates_eq {t : Target} {v : Option Version} (same : (t.versioned v).gates = t.gates) :
    t.OpensUp v := by
  constructor <;> simp [same]

theorem olderThan_of_newer {t : Target} {v w : Version} (newer : w.atLeast v.major v.minor v.patch)
    {major minor patch : UInt32} (recent : (t.versioned (some v)).olderThan major minor patch = false) :
    (t.versioned (some w)).olderThan major minor patch = false := by
  simp only [olderThan, versioned, Option.any_some, Bool.not_eq_false'] at *
  exact Version.atLeast_trans newer recent

theorem opensUp_of_newer {t : Target} {v w : Version} (flavour : w.mariadb = v.mariadb)
    (newer : w.atLeast v.major v.minor v.patch) : (t.versioned (some v)).OpensUp (some w) := by
  have isMariadb : (t.versioned (some w)).isMariadb = (t.versioned (some v)).isMariadb := flavour
  have reached {major minor patch : UInt32} (recent : (t.versioned (some v)).olderThan major minor patch = false) :
      (t.versioned (some w)).olderThan major minor patch = false := olderThan_of_newer newer recent
  have again : (t.versioned (some v)).versioned (some w) = t.versioned (some w) := rfl
  constructor <;> rw [again] <;> simp only [gates, versioned_dialect, isMariadb]
  case mariadb => cases t.dialect <;> rfl
  case lateralJoins => cases t.dialect <;> simp +contextual [reached]
  case limitsGroups => cases t.dialect <;> simp +contextual [reached]
  case dropsColumns => cases t.dialect <;> simp +contextual [reached]
  case renamesColumns =>
    cases t.dialect <;> cases (t.versioned (some v)).isMariadb <;> simp +contextual [reached]

end Target

def Dialect.gateVersions : Dialect → List (UInt32 × UInt32 × UInt32)
  | .mysql => [(8, 0, 0), (8, 0, 11), (8, 0, 14), (8, 0, 19)]
  | .sqlite => [(3, 25, 0), (3, 35, 0)]
  | .postgres | .sqlServer => []

/-- As new as all gates of a dialect. MariaDB, which speaks the dialect of MySQL, never opens some of them. -/
structure Version.Passes (v : Version) (d : Dialect) : Prop where
  flavour : d = .mysql → v.mariadb = false
  reached : ∀ gate ∈ d.gateVersions, v.atLeast gate.1 gate.2.1 gate.2.2

theorem Target.gates_of_passes {t : Target} {v : Version} (passes : v.Passes t.dialect) :
    (t.versioned (some v)).gates = (t.versioned none).gates := by
  obtain ⟨flavour, reached⟩ := passes
  have known (major minor patch : UInt32) :
      (t.versioned (some v)).olderThan major minor patch = !v.atLeast major minor patch := rfl
  have unknown (major minor patch : UInt32) : (t.versioned none).olderThan major minor patch = false := rfl
  have isMariadb : (t.versioned (some v)).isMariadb = v.mariadb := rfl
  have isUnknown : (t.versioned none).isMariadb = false := rfl
  simp only [gates, versioned_dialect, known, unknown, isMariadb, isUnknown]
  cases found : t.dialect <;> rw [found] at flavour reached <;>
    simp_all [Dialect.gateVersions]

end SqlCompiler
