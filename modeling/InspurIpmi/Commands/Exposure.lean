import InspurIpmi.Commands.Footprint
import InspurIpmi.Sfp.ModuleMemory

/-!
# What requests can change

The locations that some run of requests changes, and no others.
-/

set_option autoImplicit false

namespace InspurIpmi

open Foundation

end InspurIpmi
