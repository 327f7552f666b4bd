import InspurIpmi.OemCommands.Chunks
import InspurIpmi.OemCommands.SettingRuns

/-!
# How long the replies are

The length of the request stands where the length of the reply is to be, and a handler that
forgets to set it sends that many bytes back.
-/

set_option autoImplicit false

namespace InspurIpmi

open Foundation

/-!
## Lengths by answer
-/

variable {δ : Type} {doubles : Doubles δ} {header : OemHeader} {calls : OemCalls}

section Rules

variable {α : Type} {length success error : ℕ} {handler : OemDaemon δ CompletionCode}

end Rules

/-!
## Handlers
-/

section Handlers

open Process

variable {length : ℕ} {request : Buffer}

end Handlers

/-!
## Replies
-/

end InspurIpmi
