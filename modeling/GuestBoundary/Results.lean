import GuestBoundary.Fault

/-! Result lists read as spans, with the fault for a list that carries none. -/

namespace GuestBoundary

/-- The span in a result list of either form. -/
def readSpan (values : List Value) : Except Fault Span :=
  match Span.ofResults? values with
  | some span => .ok span
  | none => .error (.malformedResult (.noSpan values))

/-- The span in a result list of one form. -/
def ResultForm.readSpan (form : ResultForm) (values : List Value) : Except Fault Span :=
  match Span.ofForm? form values with
  | some span => .ok span
  | none => .error (.malformedResult (.wrongForm form values))

/-- Only a buffer that the host owns may be released. -/
def Buffer.checkRelease (buffer : Buffer) : Except Fault Unit :=
  match buffer.owner with
  | .hostOwned => .ok ()
  | owner => .error (.releaseRejected owner)

end GuestBoundary
