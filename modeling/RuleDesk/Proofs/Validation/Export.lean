import RuleDesk.Proofs.Rule.Exactness
import RuleDesk.Proofs.Validation.Faults
import RuleDesk.Proofs.Validation.Words

/-!
# Valid rules and their text

Validation makes the ports of a rule words and its addresses not empty. It does not keep blank
characters out of address lists, nor quotes, semicolons and backslashes out of the texts, which are
written as they are. So a valid rule comes back from its text exactly if its addresses are not
blank anywhere and its clauses survive.
-/

set_option autoImplicit false

namespace RuleDesk.Validation

open RuleDesk.Text

/-! ## What a valid rule has -/

end RuleDesk.Validation
