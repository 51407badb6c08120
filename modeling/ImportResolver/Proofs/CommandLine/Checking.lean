import ImportResolver.Proofs.CommandLine.Exchange
import ImportResolver.Proofs.CommandLine.Preservation
import ImportResolver.Proofs.CommandLine.Reporting
import ImportResolver.Proofs.Resolution.Change
/- Checking foretells what writing would do: it succeeds exactly if writing would succeed and leave
every file as it is. -/
namespace ImportResolver.CommandLine

open FileSystem Text.Utf8

/-- Every file holds the bytes that it held. -/
def KeepsBytes (before after : FileSystem) : Prop :=
  ∀ loc bytes mode, before.tree.get? loc = some (.file bytes mode) →
    ∃ mode', after.tree.get? loc = some (.file bytes mode')

theorem KeepsBytes.refl (fs : FileSystem) : KeepsBytes fs fs := fun _ _ mode h => ⟨mode, h⟩

section

variable {host : Host} {before : FileSystem} {env : Environment} {json : Bool} {directory : Path}
  {builtins : Builtins} {r : ResolveRequest}

/-- How a run ends that has come to its commit. -/
def committed (host : Host) (before : FileSystem) (json : Bool) (directory : Path)
    (file : Option Path) (ps : List Prepared) (write check : Bool) : Ending :=
  match commit host write before ps with
  | (.error fault, after) => stopped after (.system fault)
  | (.ok reports, after) =>
    { exit := if (Report.mk file write reports).isFailing check then 1 else 0
      output := printed json (Report.mk file write reports).toJson
        ((Report.mk file write reports).lines directory)
      fileSystem := after }

end

end ImportResolver.CommandLine
