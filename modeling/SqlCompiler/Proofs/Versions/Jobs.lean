import SqlCompiler.Proofs.Retention.Nested
import SqlCompiler.Proofs.Versions.Blueprints

namespace SqlCompiler

inductive Job
  | select (q : Query)
  | hasRows (q : Query)
  | insert (q : Query) (values : Values)
  | insertOrIgnore (q : Query) (values : Values)
  | insertReturningId (q : Query) (values : Values) (key : Option String)
  | insertFrom (q : Query) (columns : List String) (source : Query)
  | upsert (q : Query) (u : Upsert)
  | update (q : Query) (r : Record)
  | delete (q : Query)
  | truncate (q : Query)
  | blueprint (b : Blueprint)

namespace Job

def statements (t : Target) : Job → Except Error (List Statement)
  | .select q => do return [← q.selectStatement t]
  | .hasRows q => do return [← q.hasRowsStatement t]
  | .insert q values => do return [← q.insert t values]
  | .insertOrIgnore q values => do return [← q.insertOrIgnore t values]
  | .insertReturningId q values key => do return [← q.insertReturningId t values key]
  | .insertFrom q columns source => do return [← q.insertFrom t columns source]
  | .upsert q u => do return [← q.upsert t u]
  | .update q r => do return [← q.update t r]
  | .delete q => do return [← q.delete t]
  | .truncate q => q.truncate t
  | .blueprint b => do return (← b.statements t).map fun sql => ⟨sql, []⟩

theorem statements_follow {t : Target} {v : Option Version} (opens : t.OpensUp v) (job : Job) :
    Follows (t.gates = (t.versioned v).gates) (job.statements t) (job.statements (t.versioned v)) := by
  cases job with
  | select q => exact (q.selectStatement_follows opens).map
  | hasRows q => exact (q.hasRowsStatement_follows opens).map
  | insert q values => exact .of_eq (by simp only [statements, Query.versioned_insert])
  | insertOrIgnore q values => exact .of_eq (by simp only [statements, q.versioned_insertOrIgnore opens])
  | insertReturningId q values key => exact .of_eq (by simp only [statements, Query.versioned_insertReturningId])
  | insertFrom q columns source => exact (q.insertFrom_follows opens columns source).map
  | upsert q u => exact (q.upsert_follows u).map
  | update q r => exact (q.update_follows opens r).map
  | delete q => exact (q.delete_follows opens).map
  | truncate q => exact .of_eq (q.versioned_truncate t v)
  | blueprint b => exact Follows.map (.of_lasts (b.statements_lasts opens))

/-- What is reached for a version fails for no newer one of its flavour but by the count of its values. What is reached
for no known version is what is reached for every version that is as new as all gates of the dialect. -/
theorem statements_by_version (t : Target) (job : Job) :
    (∀ v w : Version, w.mariadb = v.mariadb → w.atLeast v.major v.minor v.patch →
      ∀ done, job.statements (t.versioned (some v)) = .ok done →
        ∀ e, job.statements (t.versioned (some w)) = .error e →
          ∃ placeholders bindings, e = .bindingCount placeholders bindings) ∧
    ∀ v : Version, v.Passes t.dialect →
      job.statements (t.versioned none) = job.statements (t.versioned (some v)) := by
  constructor
  · intro v w flavour newer
    exact (job.statements_follow (Target.opensUp_of_newer (t := t) flavour newer)).ok
  · intro v passes
    have same : ((t.versioned (some v)).versioned none).gates = (t.versioned (some v)).gates :=
      (Target.gates_of_passes passes).symm
    exact (job.statements_follow (.of_gates_eq same)).eq same.symm

def payStaff : Job :=
  .upsert { source := some (.table "staff") } {
    values := { columns := ["id", "pay"], rows := [[.value (.int 1), .value (.int 9)]] }
    uniqueBy := ["id"]
    update := some [.inserted "pay"] }

theorem payStaff_by_version :
    (∃ done, payStaff.statements (Target.versioned { dialect := .mysql } (some ⟨5, 7, 44, false⟩)) = .ok done) ∧
    (∀ e, payStaff.statements (Target.versioned { dialect := .mysql } (some ⟨8, 0, 19, false⟩)) = .error e →
      ∃ placeholders bindings, e = .bindingCount placeholders bindings) ∧
    payStaff.statements (Target.versioned { dialect := .mysql } none) =
      payStaff.statements (Target.versioned { dialect := .mysql } (some ⟨8, 0, 19, false⟩)) := by
  obtain ⟨monotone, unknown⟩ := statements_by_version { dialect := .mysql } payStaff
  obtain ⟨done, reached, -⟩ : ∃ done,
      payStaff.statements (Target.versioned { dialect := .mysql } (some ⟨5, 7, 44, false⟩)) = .ok done ∧ true :=
    ok_of_any (fun _ => true) (by decide +kernel)
  have passes : Version.Passes ⟨8, 0, 19, false⟩ .mysql := ⟨fun _ => rfl, List.all_eq_true.mp rfl⟩
  exact ⟨⟨done, reached⟩, monotone ⟨5, 7, 44, false⟩ ⟨8, 0, 19, false⟩ rfl (by decide) done reached,
    unknown ⟨8, 0, 19, false⟩ passes⟩

end Job

end SqlCompiler
