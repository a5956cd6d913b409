import DriveTribe.Carpools.Leftovers
import DriveTribe.Carpools.Table

/-!
# The table lists the memberships

The table of a user is filled from his groups, and a membership is recorded in the carpool as well.
Once nothing is in flight the two records agree, so a table that has been read from the store
lists the carpools that he drives or rides in.
-/

namespace DriveTribe

open Base

namespace CarpoolSystem
variable {s₀ s t : CarpoolSystem} {es : List CarpoolEvent}

end CarpoolSystem

namespace CarpoolTable
variable {s : CarpoolTable} {es : List CarpoolTableEvent} {x₀ x : CarpoolSystem}
  {fs : List CarpoolEvent}

end CarpoolTable

end DriveTribe
