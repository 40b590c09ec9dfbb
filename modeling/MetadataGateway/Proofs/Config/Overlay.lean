import Mathlib
import MetadataGateway.Proofs.Config.CommandLine
import MetadataGateway.Proofs.Config.Document

/-!
# The configuration that is in effect

Each field of a configuration has one of four sources, and none of them touches another field: the
flag of its setting, the variable of its setting, the document, and what is assumed. Which of the
first two counts is decided when the command line is read (`CommandLine.read_eq_ok_iff`), and that
lies over the configuration of the document field by field (`ofText_effective`).
-/

namespace MetadataGateway

open Number

/-! ## Overriding -/

namespace CommandLine

variable {s : Setting} {raw : Option String}

end CommandLine

namespace Overrides

variable {o : Overrides} {c : Config} {chosen : Setting → Option String}

end Overrides

/-! ## All sources -/

namespace Config

open Toml

variable {content : String} {doc : List (String × Value)}

end Config

end MetadataGateway
