/-!
# Failures of a capture

Such a failure ends the stream it happens in.
-/

namespace Lookout

/-- Why no frame could be had. -/
inductive AcquisitionError where
  /-- No device satisfies the request, which is given in words. -/
  | overconstrained (request : String)
  /-- No kind of source fits the address. -/
  | unsupported (address : String)
  /-- The source was asked for a frame before it was connected. -/
  | notConnected
  /-- The stream has ended. -/
  | streamEnded
  /-- The source itself failed. -/
  | source (reason : String)
  deriving DecidableEq, Repr

/-- The wording of a failure. -/
def AcquisitionError.message : AcquisitionError → String
  | .overconstrained request =>
    s!"no video input satisfies the requested constraints: {request}"
  | .unsupported address => s!"unsupported source '{address}'"
  | .notConnected => "source not connected; call connect() first"
  | .streamEnded => "stream ended"
  | .source reason => s!"source failure: {reason}"

end Lookout
