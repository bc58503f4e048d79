import SqlCompiler.Proofs.Completion.IndexNames
import SqlCompiler.Proofs.Retention.Nested

namespace SqlCompiler

namespace InOrder

theorem sublist {parts part : List String} {whole : String} (order : InOrder parts whole)
    (within : part.Sublist parts) : InOrder part whole := by
  induction within generalizing whole with
  | slnil => exact order
  | cons first _ ih =>
    obtain ⟨before, after, rfl, -, later⟩ := order
    exact (ih later).after _
  | cons_cons first _ ih =>
    obtain ⟨before, after, rfl, breaks, later⟩ := order
    exact ⟨before, after, rfl, breaks, ih later⟩

end InOrder

def Command.columns (b : Blueprint) : Command → List Column
  | .create => b.columns
  | .add => b.addedColumns
  | .change => b.changedColumns
  | _ => []

namespace Target

variable {t : Target} {b : Blueprint} {statements : List String}

end Target

namespace Blueprint

variable {t : Target} {b : Blueprint}

def columnComments (b : Blueprint) : List Command :=
  b.columns.filterMap fun c => c.comment.map (.columnComment c.name)

end Blueprint

end SqlCompiler
