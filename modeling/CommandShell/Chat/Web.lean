/-!
The addresses of a conversation. What they are made of, and what is wrong with some of them, is up
to the library that sends the requests.
-/

namespace CommandShell.Chat

/-- What the library raises about an address. -/
structure AddressFault where
  label : String
  /-- Whether it counts as a value that was refused. -/
  isRefusal : Bool
  message : String
  deriving DecidableEq, Repr

/-- What a conversation asks of such a library. -/
structure Web (υ : Type) where
  /-- The address of a server. -/
  base : String → Except AddressFault υ
  /-- The address of something on a server. -/
  under : υ → String → Except AddressFault υ
  text : υ → String
  /-- What keeps a request with a body from naming the host of an address. -/
  hostFault? : υ → Option AddressFault
  /-- What keeps a response from being taken from an address. -/
  sourceFault? : υ → Option AddressFault

end CommandShell.Chat
