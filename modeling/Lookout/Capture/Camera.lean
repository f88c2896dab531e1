import Lookout.Capture.Source.Http
import Lookout.Capture.Source.Synthetic
/-!
# Cameras

The address of a device says what kind of source its frames come from.
-/

namespace Lookout

/-- The source of a device's frames. -/
abbrev Camera (τ : Type) := SyntheticSource τ ⊕ HttpSource τ

namespace Camera

variable {τ : Type}

/-- The source for an address: made-up frames for one that starts with `stub://`, and a camera on
the network for one whose scheme is a scheme of the web. -/
def ofSettings (settings : SourceSettings) : Except AcquisitionError (Camera τ) :=
  if settings.url.startsWith "stub://" then .ok (.inl (.ofSettings settings))
  else
    match Url.parse settings.url with
    | .error cause => .error (.unsupported s!"{settings.url}: {cause.message}")
    | .ok url =>
      if ["http", "https"].contains url.scheme then .ok (.inr (.ofSettings settings))
      else .error (.unsupported s!"scheme '{url.scheme}'; expected stub, http or https")

end Camera

end Lookout
