import Schemata.CommandLine
import Schemata.Proofs.Refusals

/-!
What the commands are refused for. Validation builds the stores of a schema, scripts are made
without stores, and the accessors that are listed are planned without any. All the same validation
fails as printing the script does and, where that succeeds, as listing the accessors does: a script
can only fail for the order of provisioning, and a store only for its plan.
-/
namespace Schemata

namespace Command

variable (s : Schema) (policy : DuplicatePolicy)

theorem failAlike_sqlText (drop : Bool) : FailAlike (sqlText s drop) s.provisioningOrder := by
  cases drop with
  | true => exact s.failAlike_dropScript
  | false => exact s.failAlike_createScript

/-- Accessors are listed where those of every format can be planned. -/
theorem failAlike_inspectText :
    FailAlike (inspectText s policy none) (s.formatNames.mapM (s.plans policy)) := by
  rw [inspectText, chosenFormats, ok_bind]
  refine .trans (.bind_ok _ fun _ _ => ⟨_, rfl⟩) ?_
  exact .mapM fun _ _ => .bind_ok _ fun _ _ => ⟨_, rfl⟩

/-- Validation fails as the script and the list one after the other. -/
theorem failAlike_validateText (drop : Bool) :
    FailAlike (validateText s policy) (sqlText s drop >>= fun _ => inspectText s policy none) := by
  have hv : FailAlike (validateText s policy) (Entities.create s policy) :=
    .bind_ok _ fun _ _ => ⟨_, rfl⟩
  refine (hv.trans (s.failAlike_create policy)).trans ?_
  exact (failAlike_sqlText s drop).symm.bind fun _ _ _ _ => (failAlike_inspectText s policy).symm

/-- So it is with the commands, which begin alike. -/
theorem failAlike_run (source : Source) (fs : Files) (drop : Bool) :
    FailAlike (validate.run source fs)
      ((sql drop).run source fs >>= fun _ => (inspect none).run source fs) := by
  unfold run
  cases source.load fs with
  | error e => exact .error e
  | ok loaded =>
    obtain ⟨config, s⟩ := loaded
    have hs := (failAlike_validateText s config.duplicatePolicy drop).mapError CommandError.schema
    rwa [mapError_bind] at hs

theorem failAlike_run_sql (source : Source) (fs : Files) :
    FailAlike ((sql false).run source fs) ((sql true).run source fs) := by
  refine .bind (.refl _) fun a b ha hb => ?_
  obtain rfl := Except.ok.inj (ha.symm.trans hb)
  exact ((failAlike_sqlText a.2 false).trans (failAlike_sqlText a.2 true).symm).mapError _

end Command

/-- An input is valid exactly when its creating script can be printed and its accessors can be
listed. Where it is not, the error is that of the script or, if there is a script, that of the list.
There is a script that drops for every script that creates. -/
theorem run_validate_iff (source : Source) (fs : Files) :
    ((∃ out, Command.validate.run source fs = .ok out) ↔
        (∃ out, (Command.sql false).run source fs = .ok out) ∧
          ∃ out, (Command.inspect none).run source fs = .ok out) ∧
      (∀ e, Command.validate.run source fs = .error e ↔
        (Command.sql false).run source fs = .error e ∨
          ((∃ out, (Command.sql false).run source fs = .ok out) ∧
            (Command.inspect none).run source fs = .error e)) ∧
      ((∃ out, (Command.sql false).run source fs = .ok out) ↔
        ∃ out, (Command.sql true).run source fs = .ok out) :=
  have h := Command.failAlike_run source fs false
  ⟨h.exists_ok_iff_and, h.eq_error_iff, (Command.failAlike_run_sql source fs).exists_ok_iff⟩

end Schemata
