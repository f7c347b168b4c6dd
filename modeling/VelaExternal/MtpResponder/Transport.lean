import VelaExternal.MtpResponder.ReadThread
import VelaExternal.MtpResponder.WriteThread

/-!
# The two transport threads together

The write thread next to the read thread, whose recovery closes the endpoints
and opens them again. The threads share the endpoint globals and the
descriptors; each has its own `errno`.
-/

set_option autoImplicit false

namespace VelaExternal.MtpResponder

def PollResult.pollOut : PollResult → Bool
  | .failed _ => false
  | .returned _ pollOut => pollOut

/-- `polled` is the descriptor of the last `poll`, and whether it reported `POLLOUT`. -/
structure Transport where
  writer : WriteThread
  reader : ReadThread
  polled : Option (Int × Bool)

inductive TransportEvent where
  | writer (event : WriteEvent)
  | reader (event : ReadEvent)
  deriving DecidableEq

namespace Transport

def world (transport : Transport) : UsbWorld := transport.reader.world

def initial (world : UsbWorld) (queue : List MsgqPtr) : Transport where
  writer := .initial
  reader := .initial world queue
  polled := none

/-- The thread starts with the value that `g_usb_ep_in` has, and polls what it started with. -/
def stepWriter (transport : Transport) : WriteEvent → Option Transport
  | .start fd =>
      if fd = transport.world.usbEpIn then
        (transport.writer.step (.start fd)).map fun writer => { transport with writer }
      else none
  | .poll result =>
      (transport.writer.step (.poll result)).map fun writer =>
        { transport with writer, polled := some (transport.writer.fd, result.pollOut) }
  | event => (transport.writer.step event).map fun writer => { transport with writer }

def step (conf : MtpConfig) (maxRetry : Nat) (transport : Transport) :
    TransportEvent → Option Transport
  | .writer event => transport.stepWriter event
  | .reader event =>
      (transport.reader.step conf maxRetry event).map fun reader => { transport with reader }

end Transport

end VelaExternal.MtpResponder
