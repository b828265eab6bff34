import LocalPlatform.Idp.ClaimsTheorems
import LocalPlatform.Idp.CodeTheorems

/-!
# Lifetimes of tokens and codes

A configured lifetime is any `u64`. It is cast to `i64` before it is added to the time of issue, so
a large one wraps to a negative number of seconds, and the duration and the sum panic when they
leave their range. `Fits` says when neither happens.
-/

namespace LocalPlatform.Idp

open Resumption Task DateTime

/-- A call ends cleanly with an error response or with a result that is as it should be. A panic is
no clean end. -/
def Clean {α : Type} (exact : α → Store → Prop) : Except Failure α × Store → Prop
  | (.ok a, s) => exact a s
  | (.error (.response _), _) => True
  | (.error (.panicked _), _) => False

section
variable {α β : Type} {t : ServiceTask α} {f : α → ServiceTask β} {s : Store}
  {P : α → Store → Prop} {Q : β → Store → Prop}

end

/-! ## What is issued -/

section
variable {S : OAuth2Service} {s : Store}

end

namespace Reference

end Reference

end LocalPlatform.Idp
