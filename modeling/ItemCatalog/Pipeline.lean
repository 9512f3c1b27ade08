import ItemCatalog.Stage.Containment
import ItemCatalog.Stage.Gate
import ItemCatalog.Stage.Metering

/-!
# The standard pipeline

The stages that every call of the service passes.
-/

namespace ItemCatalog.Pipeline
variable {α : Type}

/-- Metering first, then the gate if there is a validator, then containment around the handler. -/
def standard (validator : Option Validator) : Pipeline α :=
  Stage.metering :: (validator.map Stage.gate).toList ++ [Stage.containment]

@[simp] theorem standard_none : (standard none : Pipeline α) = [Stage.metering, Stage.containment] :=
  rfl

@[simp] theorem standard_some (validator : Validator) :
    (standard (some validator) : Pipeline α) =
      [Stage.metering, Stage.gate validator, Stage.containment] := rfl

end ItemCatalog.Pipeline
