import Cachee.Home.Registry
import Cachee.VerifyReport

/-!
# The list of the API keys

`cachee auth list` goes through the directory of keys and prints a line for each file of an API key.
It stops at a file that is not text.  After commands that create only plain keys, these lines are
those of the keys in force: each of them is listed once, with the label and the permissions with
which it was created, and no other key is listed.
-/

open Text

namespace Cachee

namespace Cli

/-! ### The command -/

end Cli

/-! ### The files of the keys in force -/

variable {ext : CliExternals} {keys : AList fun _ : String => GrantedKey} {home : Home}
  {keyId : String} {key : GrantedKey}

end Cachee
